import HtoolSecurityTokens.Theory.Contract
import HtoolSecurityTokens.Verify.Paths

/-!
# The token queries refine their plans

For each query, the plan that the answers `env` of its collaborators determine, and the proof that
the plan accepts every call of the query: the model of `htool_security_tokens.c` in
`Model/Tokens` refines the abstract machine of `Theory/Protocol`. Each proof takes the query's
paths from `Verify/Paths`, splits them, and runs the machine on the trace of each leaf.
-/

namespace Htool

section
variable (L : Layout) (env : Env)

/-- The path that the parameter `name` gives, when it is given. -/
def paramPath (name : String) : String := (env.getParamString name).getD ""

/-- The challenge that `RAND_bytes` fills, when it succeeds. -/
def challengeOf : Bytes := (env.randBytes.map fun f => bytesOf f L.nonceSize).getD []

/-! ## `htool_get_token_set_count` -/

/-- The reply to the command of `htool_get_token_set_count`. -/
def tokenSetCountReply : FixedReply :=
  env.execSecurityV2Cmd (getTokenSetCountCommand L (challengeOf L env))

/-- The plan of `htool_get_token_set_count`: `num_ids`, the boot nonce and the signature are
written to the sinks opened by setup calls 2, 4 and 6. -/
def tokenSetCountPlan : Plan where
  setup := [.device, .paramString "num_ids_output", .fopen (paramPath env "num_ids_output"),
    .paramString "boot_nonce_output", .fopen (paramPath env "boot_nonce_output"),
    .paramString "signature_output", .fopen (paramPath env "signature_output"), .nonce, .version]
  command := getTokenSetCountCommand L (challengeOf L env)
  valid := true
  writes := [(2, bytesOf ((tokenSetCountReply L env).fill 0) 4),
    (4, bytesOf ((tokenSetCountReply L env).fill 1) L.bootNonceSize),
    (6, bytesOf ((tokenSetCountReply L env).fill 2) L.signatureSize)]
  present := true
  inBounds := true

theorem htoolGetTokenSetCount_accepted :
    (tokenSetCountPlan L env).accepts (call (htoolGetTokenSetCount L env)) = true := by
  have h := htoolGetTokenSetCount_paths L env
  generalize call (htoolGetTokenSetCount L env) = r at h ⊢
  simp only [tokenSetCountPaths, sinkPaths] at h
  repeat' split at h
  all_goals
    simp only [Run.obs_eq_iff] at h
    simp [*, tokenSetCountPlan, tokenSetCountReply, paramPath, challengeOf, Plan.accepts, Plan.run,
      Progress.init, Plan.step, SetupCall.result, Progress.advance, Phase.closing, Plan.finish,
      SecurityVersion.isV2]

/-! ## `htool_get_token_set_info` -/

/-- The reply to the command of `htool_get_token_set_info`. -/
def tokenSetInfoReply : FixedReply :=
  env.execSecurityV2Cmd
    (getTokenSetInfoCommand L ((env.getParamU32 "set_index").getD 0) (challengeOf L env))

/-- The plan of `htool_get_token_set_info`: the `token_set_info` is written to the sink opened by
setup call 4. -/
def tokenSetInfoPlan : Plan where
  setup := [.device, .paramU32 "set_index", .nonce, .paramString "token_set_info",
    .fopen (paramPath env "token_set_info"), .version]
  command := getTokenSetInfoCommand L ((env.getParamU32 "set_index").getD 0) (challengeOf L env)
  valid := true
  writes := [(4, bytesOf ((tokenSetInfoReply L env).fill 0) L.tokenSetInfoSize)]
  present := true
  inBounds := true

theorem htoolGetTokenSetInfo_accepted :
    (tokenSetInfoPlan L env).accepts (call (htoolGetTokenSetInfo L env)) = true := by
  have h := htoolGetTokenSetInfo_paths L env
  generalize call (htoolGetTokenSetInfo L env) = r at h ⊢
  simp only [tokenSetInfoPaths, sinkPaths] at h
  repeat' split at h
  all_goals
    simp only [Run.obs_eq_iff] at h
    simp [*, tokenSetInfoPlan, tokenSetInfoReply, paramPath, challengeOf, Plan.accepts, Plan.run,
      Progress.init, Plan.step, SetupCall.result, Progress.advance, Phase.closing, Plan.finish,
      SecurityVersion.isV2]

/-! ## `htool_get_tokens_in_set` -/

/-- The reply to the command of `htool_get_tokens_in_set`. -/
def tokensInSetReply : SerializedReply :=
  env.execSecurityV2SerializedCmd
    (getTokensInSetCommand L ((env.getParamU32 "set_index").getD 0) (challengeOf L env))

/-- The bytes a handle of the reply points at; nothing for a handle left `NULL`. -/
def tokensInSetField (i : Nat) : Bytes :=
  match (tokensInSetReply L env).params i with
  | some p => slice (tokensInSetReply L env).buffer p.offset p.size
  | none => []

/-- Whether a handle of the reply, when there is one, lies inside `response_storage_hdr`. -/
def tokensInSetFits (i : Nat) : Bool :=
  match (tokensInSetReply L env).params i with
  | some p => decide (p.offset + p.size ≤ L.maxTokenResponseSize)
  | none => true

/-- The plan of `htool_get_tokens_in_set`: the reply passes its checks when the tokens handle is
there, no larger than the response buffer and a whole number of tokens; the tokens, the boot nonce
and the signature are written to the sinks opened by setup calls 2, 6 and 4. -/
def tokensInSetPlan : Plan where
  setup := [.device, .paramString "token_output", .fopen (paramPath env "token_output"),
    .paramString "signature_output", .fopen (paramPath env "signature_output"),
    .paramString "boot_nonce_output", .fopen (paramPath env "boot_nonce_output"), .nonce,
    .paramU32 "set_index", .version]
  command := getTokensInSetCommand L ((env.getParamU32 "set_index").getD 0) (challengeOf L env)
  valid := match (tokensInSetReply L env).params 0 with
    | some p => decide (p.size ≤ L.maxTokenResponseSize ∧ p.size % L.tokenByteSize = 0)
    | none => false
  writes := [(2, tokensInSetField L env 0), (6, tokensInSetField L env 1),
    (4, tokensInSetField L env 2)]
  present := ((tokensInSetReply L env).params 1).isSome && ((tokensInSetReply L env).params 2).isSome
  inBounds := tokensInSetFits L env 0 && tokensInSetFits L env 1 && tokensInSetFits L env 2

theorem htoolGetTokensInSet_accepted :
    (tokensInSetPlan L env).accepts (call (htoolGetTokensInSet L env)) = true := by
  have h := htoolGetTokensInSet_paths L env
  generalize call (htoolGetTokensInSet L env) = r at h ⊢
  simp only [tokensInSetPaths, sinkPaths] at h
  repeat' split at h
  all_goals try simp only [tokensInSetV2Paths] at h
  repeat' split at h
  all_goals
    simp only [Run.obs_eq_iff] at h
    try simp only [not_lt] at *
    simp [*, tokensInSetPlan, tokensInSetReply, tokensInSetField, tokensInSetFits, paramPath,
      challengeOf, Plan.accepts, Plan.run, Progress.init, Plan.step, SetupCall.result,
      Progress.advance, Phase.closing, Plan.finish, SecurityVersion.isV2]

/-! ## The three queries -/

/-- Each token query, with its plan. -/
def tokenQueries : List (Plan × Run) :=
  [(tokensInSetPlan L env, call (htoolGetTokensInSet L env)),
    (tokenSetCountPlan L env, call (htoolGetTokenSetCount L env)),
    (tokenSetInfoPlan L env, call (htoolGetTokenSetInfo L env))]

/-- Every token query refines its plan. -/
theorem tokenQueries_accepted : ∀ q ∈ tokenQueries L env, q.1.accepts q.2 = true := by
  simp only [tokenQueries, List.mem_cons, List.mem_singleton, List.not_mem_nil, or_false]
  rintro q (rfl | rfl | rfl)
  exacts [htoolGetTokensInSet_accepted L env, htoolGetTokenSetCount_accepted L env,
    htoolGetTokenSetInfo_accepted L env]

end

end Htool
