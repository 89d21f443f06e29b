import HtoolSecurityTokens.Theory.Order
import HtoolSecurityTokens.Verify.Paths

/-!
# Where the cleanup of a token query goes wrong

For each query and every answer of the collaborators, exactly when its cleanup reads a `FILE*`
whose declaration a `goto cleanup` jumped over, and exactly when it returns with a stream still
open (`Run.LeavesOpen`). The first happens when the `goto` is taken before the last `FILE*`
declaration; the second when a `return -1` is taken after an `fopen` succeeded: a missing later
parameter, or a version other than V2. Every other way of returning closes every stream.

Each proof splits the query's paths from `Verify/Paths` once, with the call named (`generalize`) so
that both statements are read off the same leaf.
-/

namespace Htool

section
variable (L : Layout) (env : Env)

theorem htoolGetTokensInSet_cleanup :
    ((∃ var, (call (htoolGetTokensInSet L env)).outcome = .undefined (.indeterminate var)) ↔
      env.libhothDevice = true ∧ ∃ p, env.getParamString "token_output" = some p ∧
        (env.fopen 0 p = false ∨ ∃ q, env.getParamString "signature_output" = some q ∧
          env.fopen 1 q = false)) ∧
    ((call (htoolGetTokensInSet L env)).LeavesOpen ↔
      env.libhothDevice = true ∧ ∃ p, env.getParamString "token_output" = some p ∧
        env.fopen 0 p = true ∧ (env.getParamString "signature_output" = none ∨
          ∃ q, env.getParamString "signature_output" = some q ∧ env.fopen 1 q = true ∧
            (env.getParamString "boot_nonce_output" = none ∨
              ∃ b, env.getParamString "boot_nonce_output" = some b ∧ env.fopen 2 b = true ∧
                env.randBytes.isSome ∧ (env.getParamU32 "set_index").isSome ∧
                env.getSecurityVersion ≠ .v2))) := by
  have h := htoolGetTokensInSet_paths L env
  generalize call (htoolGetTokensInSet L env) = r at h ⊢
  simp only [tokensInSetPaths, sinkPaths] at h
  repeat' split at h
  all_goals try simp only [tokensInSetV2Paths] at h
  repeat' split at h
  all_goals
    simp only [Run.obs_eq_iff] at h
    simp [*, Run.LeavesOpen, opened_iff_mem_filterMap, Event.opened]

theorem htoolGetTokenSetCount_cleanup :
    ((∃ var, (call (htoolGetTokenSetCount L env)).outcome = .undefined (.indeterminate var)) ↔
      env.libhothDevice = true ∧ ∃ p, env.getParamString "num_ids_output" = some p ∧
        (env.fopen 0 p = false ∨ ∃ q, env.getParamString "boot_nonce_output" = some q ∧
          env.fopen 1 q = false)) ∧
    ((call (htoolGetTokenSetCount L env)).LeavesOpen ↔
      env.libhothDevice = true ∧ ∃ p, env.getParamString "num_ids_output" = some p ∧
        env.fopen 0 p = true ∧ (env.getParamString "boot_nonce_output" = none ∨
          ∃ q, env.getParamString "boot_nonce_output" = some q ∧ env.fopen 1 q = true ∧
            (env.getParamString "signature_output" = none ∨
              ∃ b, env.getParamString "signature_output" = some b ∧ env.fopen 2 b = true ∧
                env.randBytes.isSome ∧ env.getSecurityVersion ≠ .v2))) := by
  have h := htoolGetTokenSetCount_paths L env
  generalize call (htoolGetTokenSetCount L env) = r at h ⊢
  simp only [tokenSetCountPaths, sinkPaths] at h
  repeat' split at h
  all_goals
    simp only [Run.obs_eq_iff] at h
    simp [*, Run.LeavesOpen, opened_iff_mem_filterMap, Event.opened]

theorem htoolGetTokenSetInfo_cleanup :
    ((∃ var, (call (htoolGetTokenSetInfo L env)).outcome = .undefined (.indeterminate var)) ↔
      env.libhothDevice = true ∧ (env.getParamU32 "set_index" = none ∨ env.randBytes = none)) ∧
    ((call (htoolGetTokenSetInfo L env)).LeavesOpen ↔
      env.libhothDevice = true ∧ (env.getParamU32 "set_index").isSome ∧ env.randBytes.isSome ∧
        ∃ p, env.getParamString "token_set_info" = some p ∧ env.fopen 0 p = true ∧
          env.getSecurityVersion ≠ .v2) := by
  have h := htoolGetTokenSetInfo_paths L env
  generalize call (htoolGetTokenSetInfo L env) = r at h ⊢
  simp only [tokenSetInfoPaths, sinkPaths] at h
  repeat' split at h
  all_goals
    simp only [Run.obs_eq_iff] at h
    simp [*, Run.LeavesOpen, opened_iff_mem_filterMap, Event.opened]

end

end Htool
