import HtoolSecurityTokens.Model.Basic
import HtoolSecurityTokens.Model.CallM
import HtoolSecurityTokens.Model.Tokens
import HtoolSecurityTokens.Theory.Protocol
import HtoolSecurityTokens.Theory.Contract
import HtoolSecurityTokens.Theory.Order
import HtoolSecurityTokens.Theory.Footprint
import HtoolSecurityTokens.Verify.Paths
import HtoolSecurityTokens.Verify.Plans
import HtoolSecurityTokens.Verify.Queries
import HtoolSecurityTokens.Verify.Sequencing
import HtoolSecurityTokens.Verify.Success
import HtoolSecurityTokens.Verify.Failure
