import HtoolSecurityTokens.Model.CallM

/-!
# The token queries

`htool_get_tokens_in_set`, `htool_get_token_set_count` and `htool_get_token_set_info`, statement
by statement. A `FILE*` local becomes `NULL` at the line of its declaration `FILE* p = NULL;`
(`setFile p .null`), so a `goto cleanup` taken before that line leaves it indeterminate, as in C.
A C `return` before the label is `ret`, and skips the cleanup. The `printf` diagnostics are left
out.
-/

namespace Htool

section
variable (L : Layout) (env : Env)

/-! ## Commands -/

/-- The command of `htool_get_tokens_in_set`: `set_idx` and the challenge, answered by three
serialized handles. -/
def getTokensInSetCommand (setIdx : UInt32) (challenge : Bytes) : Command where
  major := L.tokensMajorCommand
  minor := L.getTokensInSetMinorCommand
  baseCommand := L.securityV2BaseCommand
  requestCapacity := L.requestSize 2 + 4 + L.nonceSize
  request := [⟨.u32 setIdx, 4⟩, ⟨.bytes challenge, L.nonceSize⟩]
  responseCapacity := L.maxTokenResponseSize
  response := .serialized 3

/-- The command of `htool_get_token_set_count`: the challenge, answered by `num_ids`, the boot
nonce and the signature. -/
def getTokenSetCountCommand (challenge : Bytes) : Command where
  major := L.tokensMajorCommand
  minor := L.getTokenSetCountMinorCommand
  baseCommand := L.securityV2BaseCommand
  requestCapacity := L.requestSize 1 + L.nonceSize
  request := [⟨.bytes challenge, L.nonceSize⟩]
  responseCapacity := L.responseSize 3 + 4 + L.bootNonceSize + L.signatureSize
  response := .fixed [4, L.bootNonceSize, L.signatureSize]

/-- The command of `htool_get_token_set_info`: `set_idx` and the challenge, answered by the
`token_set_info`, the boot nonce and the signature. -/
def getTokenSetInfoCommand (setIdx : UInt32) (challenge : Bytes) : Command where
  major := L.tokensMajorCommand
  minor := L.getTokenSetInfoMinorCommand
  baseCommand := L.securityV2BaseCommand
  requestCapacity := L.requestSize 2 + 4 + L.nonceSize
  request := [⟨.u32 setIdx, 4⟩, ⟨.bytes challenge, L.nonceSize⟩]
  responseCapacity := L.responseSize 3 + L.tokenSetInfoSize + L.bootNonceSize + L.signatureSize
  response := .fixed [L.tokenSetInfoSize, L.bootNonceSize, L.signatureSize]

/-! ## Statement sequences the queries repeat -/

/-- The lines that open a sink: look up the parameter `param`, returning -1 when it is missing;
declare the `FILE*` `var` as `NULL`; `fopen` the path; and `goto cleanup` when that fails. -/
def openSink (param var : String) : CallM Unit := do
  let some path ← htoolGetParamString env param | ret (-1)
  setFile var .null
  fopen env var path
  ifThen (← readFile var).isNone gotoCleanup

/-- `if (hoth_status != 0) { status = hoth_status; goto cleanup; }`. -/
def checkStatus (hothStatus : Int) : CallM Unit :=
  ifThen (hothStatus != 0) do
    setStatus hothStatus
    gotoCleanup

section
variable {R : Type} (s : State) (h : Exit → State → R)

@[simp] theorem execK_openSink (param var : String) (k : Unit → State → R) :
    execK (openSink env param var) s k h = match env.getParamString param with
      | none => h (.stop (.returned (-1))) { s with trace := s.trace ++ [.getParamString param none] }
      | some path =>
        if env.fopen s.fopens path then
          k () ⟨{ s.frame with files := Function.update s.frame.files var (.stream s.fopens) },
            s.trace ++ [.getParamString param (some path), .fopen path (some s.fopens)], s.fopens + 1⟩
        else
          h .cleanup ⟨{ s.frame with files := Function.update s.frame.files var .null },
            s.trace ++ [.getParamString param (some path), .fopen path none], s.fopens + 1⟩ := by
  simp only [openSink, execK_bind, execK_htoolGetParamString]
  cases env.getParamString param with
  | none => rfl
  | some path => by_cases hf : env.fopen s.fopens path <;> simp [hf]

@[simp] theorem execK_checkStatus (hothStatus : Int) (k : Unit → State → R) :
    execK (checkStatus hothStatus) s k h = if hothStatus = 0 then k () s
      else h .cleanup { s with frame := { s.frame with status := hothStatus } } := by
  by_cases h0 : hothStatus = 0 <;> simp [checkStatus, h0]

end

/-! ## The three queries -/

/-- The `case LIBHOTH_SECURITY_V2:` block of `htool_get_tokens_in_set`. -/
def htoolGetTokensInSetV2 (setIdx : UInt32) (challenge : Bytes) : CallM Unit := do
  let reply ← htoolExecSecurityV2SerializedCmd env (getTokensInSetCommand L setIdx challenge)
  checkStatus reply.status
  let tokensParam ← orCleanup (reply.params 0)
  ifThen (tokensParam.size > L.maxTokenResponseSize) gotoCleanup
  ifThen (tokensParam.size % L.tokenByteSize != 0) gotoCleanup
  let value := fun var => readSerializedParam var L.maxTokenResponseSize reply.buffer
  fwrite env "token_output_ptr" (← value "tokens_param" (some tokensParam))
  fwrite env "boot_nonce_output_ptr" (← value "boot_nonce_param" (reply.params 1))
  fwrite env "signature_output_ptr" (← value "sig_param" (reply.params 2))

/-- `htool_get_tokens_in_set`. -/
def htoolGetTokensInSet : CallM Int := do
  cleanupLabel do
    setStatus (-1)
    ifThen (!(← htoolLibhothDevice env)) (ret (-1))
    openSink env "token_output" "token_output_ptr"
    openSink env "signature_output" "signature_output_ptr"
    openSink env "boot_nonce_output" "boot_nonce_output_ptr"
    let some challenge ← getRandChallengeNonce env L | gotoCleanup
    let some setIdx ← htoolGetParamU32 env "set_index" | gotoCleanup
    switchVersion (← htoolGetSecurityVersion env) (htoolGetTokensInSetV2 L env setIdx challenge)
      -- SECURITY_V3 not supported yet.
      (ret (-1))
    setStatus 0
  closeIfOpen "token_output_ptr"
  closeIfOpen "boot_nonce_output_ptr"
  closeIfOpen "signature_output_ptr"
  getStatus

/-- The `case LIBHOTH_SECURITY_V2:` block of `htool_get_token_set_count`. -/
def htoolGetTokenSetCountV2 (challenge : Bytes) : CallM Unit := do
  let reply ← htoolExecSecurityV2Cmd env (getTokenSetCountCommand L challenge)
  checkStatus reply.status
  fwrite env "num_ids_ptr" (bytesOf (reply.fill 0) 4)
  fwrite env "boot_nonce_ptr" (bytesOf (reply.fill 1) L.bootNonceSize)
  fwrite env "signature_ptr" (bytesOf (reply.fill 2) L.signatureSize)

/-- `htool_get_token_set_count`. -/
def htoolGetTokenSetCount : CallM Int := do
  cleanupLabel do
    setStatus (-1)
    ifThen (!(← htoolLibhothDevice env)) (ret (-1))
    openSink env "num_ids_output" "num_ids_ptr"
    openSink env "boot_nonce_output" "boot_nonce_ptr"
    openSink env "signature_output" "signature_ptr"
    let some challenge ← getRandChallengeNonce env L | gotoCleanup
    switchVersion (← htoolGetSecurityVersion env) (htoolGetTokenSetCountV2 L env challenge)
      -- SECURITY_V3 not supported yet.
      (ret (-1))
    setStatus 0
  closeIfOpen "num_ids_ptr"
  closeIfOpen "boot_nonce_ptr"
  closeIfOpen "signature_ptr"
  getStatus

/-- The `case LIBHOTH_SECURITY_V2:` block of `htool_get_token_set_info`. -/
def htoolGetTokenSetInfoV2 (setIdx : UInt32) (challenge : Bytes) : CallM Unit := do
  let reply ← htoolExecSecurityV2Cmd env (getTokenSetInfoCommand L setIdx challenge)
  checkStatus reply.status
  fwrite env "token_set_info_file_ptr" (bytesOf (reply.fill 0) L.tokenSetInfoSize)

/-- `htool_get_token_set_info`. -/
def htoolGetTokenSetInfo : CallM Int := do
  cleanupLabel do
    setStatus (-1)
    ifThen (!(← htoolLibhothDevice env)) (ret (-1))
    let some setIdx ← htoolGetParamU32 env "set_index" | gotoCleanup
    let some challenge ← getRandChallengeNonce env L | gotoCleanup
    openSink env "token_set_info" "token_set_info_file_ptr"
    switchVersion (← htoolGetSecurityVersion env) (htoolGetTokenSetInfoV2 L env setIdx challenge)
      -- SECURITY_V3 not supported yet.
      (ret (-1))
    setStatus 0
  closeIfOpen "token_set_info_file_ptr"
  getStatus

end

end Htool
