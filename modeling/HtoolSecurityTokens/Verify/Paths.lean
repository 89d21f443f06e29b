import HtoolSecurityTokens.Model.Tokens

/-!
# The paths of the token queries

Each query in normal form: a decision tree over the answers of its collaborators whose leaves say
how a call ends and which events it records (`Run.obs`, all that a statement about a call reads).
`htoolGetTokensInSet_paths` and its two siblings run a body once, statement by statement through
the `execK_*` lemmas; every later proof about a query rewrites with that lemma and splits the tree,
so that a change to a body is met by its paths and its run lemma alone. After `simp` the body's
tree and the paths agree up to the auxiliary functions of their `match`es; where a build names
those differently, `rfl` unfolds them. `sinkPaths` is the normal form of `openSink`, shared by
the three trees.

The trees show at once that the sinks' answers to `fwrite` reach no branch: a query ends the same
way whatever its sinks accept (`htoolGetTokensInSet_outcome_fwrite` and its siblings).
-/

namespace Htool

/-- How a call ended, and the events it recorded. -/
def Run.obs (r : Run) : Outcome × List Event := (r.outcome, r.trace)

theorem Run.obs_eq_iff {r : Run} {o : Outcome} {t : List Event} :
    r.obs = (o, t) ↔ r.outcome = o ∧ r.trace = t := Prod.mk.inj_iff

theorem Run.outcome_eq_of_obs {r : Run} {x : Outcome × List Event} (h : r.obs = x) :
    r.outcome = x.1 := congrArg Prod.fst h

theorem Run.trace_eq_of_obs {r : Run} {x : Outcome × List Event} (h : r.obs = x) :
    r.trace = x.2 := congrArg Prod.snd h

/-- A call in continuation-passing form, keeping how it ends and its trace. -/
theorem call_obs (m : CallM Int) :
    (call m).obs = execK m State.init (fun v s => (.returned v, s.trace)) fun x s => match x with
      | .stop o => (o, s.trace)
      | .cleanup => (.returned s.frame.status, s.trace) := by
  simp only [call, execK, Run.obs, Run.trace]
  rcases exec m State.init with ⟨(_ | _) | _, _⟩ <;> rfl

section
variable (L : Layout) (env : Env)

/-- `openSink param` as the `n`-th `fopen` of a call, after the events `pre`: a missing parameter
returns -1; a failed `fopen` goes on with `failed`, an opened sink with `opened`. -/
def sinkPaths (param : String) (n : Nat) (pre : List Event)
    (failed opened : List Event → Outcome × List Event) : Outcome × List Event :=
  match env.getParamString param with
  | none => (.returned (-1), pre ++ [.getParamString param none])
  | some path =>
    if env.fopen n path then
      opened (pre ++ [.getParamString param (some path), .fopen path (some n)])
    else failed (pre ++ [.getParamString param (some path), .fopen path none])

/-! ## `htool_get_tokens_in_set` -/

/-- The paths of the `case LIBHOTH_SECURITY_V2:` block of `htool_get_tokens_in_set`, after the
events `t`, for the set index and the source `f` of the challenge. The cleanup closes the token,
boot nonce and signature streams, opened as streams 0, 2 and 1. -/
def tokensInSetV2Paths (setIdx : UInt32) (f : Nat → UInt8) (t : List Event) :
    Outcome × List Event :=
  let closeAll := [Event.fclose 0, .fclose 2, .fclose 1]
  let cmd := getTokensInSetCommand L setIdx (bytesOf f L.nonceSize)
  let reply := env.execSecurityV2SerializedCmd cmd
  let t := t ++ [.execSecurityV2 cmd reply.status]
  let write := fun (h : Handle) (p : SerializedParam) =>
    Event.fwrite h (slice reply.buffer p.offset p.size)
      (env.fwrite h (slice reply.buffer p.offset p.size))
  if reply.status = 0 then
    match reply.params 0 with
    | some tokens =>
      if L.maxTokenResponseSize < tokens.size then (.returned (-1), t ++ closeAll) else
      if tokens.size % L.tokenByteSize = 0 then
        if tokens.offset + tokens.size ≤ L.maxTokenResponseSize then
          match reply.params 1 with
          | none => (.undefined (.nullDeref "boot_nonce_param"), t ++ [write 0 tokens])
          | some boot =>
            if boot.offset + boot.size ≤ L.maxTokenResponseSize then
              match reply.params 2 with
              | none => (.undefined (.nullDeref "sig_param"), t ++ [write 0 tokens, write 2 boot])
              | some sig =>
                if sig.offset + sig.size ≤ L.maxTokenResponseSize then
                  (.returned 0, t ++ write 0 tokens :: write 2 boot :: write 1 sig :: closeAll)
                else (.undefined (.outOfBounds "sig_param"), t ++ [write 0 tokens, write 2 boot])
            else (.undefined (.outOfBounds "boot_nonce_param"), t ++ [write 0 tokens])
        else (.undefined (.outOfBounds "tokens_param"), t)
      else (.returned (-1), t ++ closeAll)
    | none => (.returned (-1), t ++ closeAll)
  else (.returned reply.status, t ++ closeAll)

/-- The paths of `htool_get_tokens_in_set`. A failed `fopen` of `token_output` or
`signature_output` jumps over the declaration of `boot_nonce_output_ptr`, which the cleanup then
reads. -/
def tokensInSetPaths : Outcome × List Event :=
  let dev := Event.libhothDevice env.libhothDevice
  let skipped := Outcome.undefined (.indeterminate "boot_nonce_output_ptr")
  let closeAll := [Event.fclose 0, .fclose 2, .fclose 1]
  if env.libhothDevice = false then (.returned (-1), [dev]) else
  sinkPaths env "token_output" 0 [dev] (fun t => (skipped, t)) fun t =>
  sinkPaths env "signature_output" 1 t (fun t => (skipped, t ++ [.fclose 0])) fun t =>
  sinkPaths env "boot_nonce_output" 2 t (fun t => (.returned (-1), t ++ [.fclose 0, .fclose 1]))
    fun t =>
  match env.randBytes with
  | some f =>
    match env.getParamU32 "set_index" with
    | some setIdx =>
      let t := t ++ [.randBytes true, .getParamU32 "set_index" (some setIdx),
        .getSecurityVersion env.getSecurityVersion]
      match env.getSecurityVersion with
      | .v2 => tokensInSetV2Paths L env setIdx f t
      | .other _ => (.returned (-1), t)
    | none => (.returned (-1), t ++ [.randBytes true, .getParamU32 "set_index" none] ++ closeAll)
  | none => (.returned (-1), t ++ .randBytes false :: closeAll)

theorem htoolGetTokensInSet_paths :
    (call (htoolGetTokensInSet L env)).obs = tokensInSetPaths L env := by
  rw [call_obs]
  simp only [htoolGetTokensInSet, htoolGetTokensInSetV2, State.init, execK_cleanupLabel, execK_bind,
    execK_setStatus, execK_htoolLibhothDevice, execK_ifThen, execK_ret, execK_openSink,
    execK_getRandChallengeNonce, execK_htoolGetParamU32, execK_gotoCleanup,
    execK_htoolGetSecurityVersion, execK_switchVersion, execK_closeIfOpen, execK_getStatus,
    execK_htoolExecSecurityV2SerializedCmd, execK_checkStatus, execK_orCleanup,
    execK_readSerializedParam, execK_fwrite, Function.update_same, Function.update_noteq, ne_eq,
    String.reduceEq, not_false_eq_true, Bool.not_eq_eq_eq_not, Bool.not_true, gt_iff_lt, bne_iff_ne,
    ite_not, decide_eq_true_eq, List.append_assoc, List.singleton_append, List.cons_append,
    List.nil_append, Int.reduceNeg, Nat.zero_add, Nat.reduceAdd, tokensInSetPaths,
    tokensInSetV2Paths, sinkPaths]
  try rfl

/-! ## `htool_get_token_set_count` -/

/-- The paths of `htool_get_token_set_count`. A failed `fopen` of `num_ids_output` or
`boot_nonce_output` jumps over the declaration of the next `FILE*`, which the cleanup reads. -/
def tokenSetCountPaths : Outcome × List Event :=
  let dev := Event.libhothDevice env.libhothDevice
  let closeAll := [Event.fclose 0, .fclose 1, .fclose 2]
  if env.libhothDevice = false then (.returned (-1), [dev]) else
  sinkPaths env "num_ids_output" 0 [dev]
    (fun t => (.undefined (.indeterminate "boot_nonce_ptr"), t)) fun t =>
  sinkPaths env "boot_nonce_output" 1 t
    (fun t => (.undefined (.indeterminate "signature_ptr"), t ++ [.fclose 0])) fun t =>
  sinkPaths env "signature_output" 2 t (fun t => (.returned (-1), t ++ [.fclose 0, .fclose 1]))
    fun t =>
  match env.randBytes with
  | some f =>
    let t := t ++ [.randBytes true, .getSecurityVersion env.getSecurityVersion]
    match env.getSecurityVersion with
    | .v2 =>
      let cmd := getTokenSetCountCommand L (bytesOf f L.nonceSize)
      let reply := env.execSecurityV2Cmd cmd
      let t := t ++ [.execSecurityV2 cmd reply.status]
      if reply.status = 0 then
        let fields := [(0, bytesOf (reply.fill 0) 4), (1, bytesOf (reply.fill 1) L.bootNonceSize),
          (2, bytesOf (reply.fill 2) L.signatureSize)]
        (.returned 0, t ++ fields.map (fun w => .fwrite w.1 w.2 (env.fwrite w.1 w.2)) ++ closeAll)
      else (.returned reply.status, t ++ closeAll)
    | .other _ => (.returned (-1), t)
  | none => (.returned (-1), t ++ .randBytes false :: closeAll)

theorem htoolGetTokenSetCount_paths :
    (call (htoolGetTokenSetCount L env)).obs = tokenSetCountPaths L env := by
  rw [call_obs]
  simp only [htoolGetTokenSetCount, htoolGetTokenSetCountV2, State.init, execK_cleanupLabel,
    execK_bind, execK_setStatus, execK_htoolLibhothDevice, execK_ifThen, execK_ret, execK_openSink,
    execK_getRandChallengeNonce, execK_gotoCleanup, execK_htoolGetSecurityVersion,
    execK_switchVersion, execK_closeIfOpen, execK_getStatus, execK_htoolExecSecurityV2Cmd,
    execK_checkStatus, execK_fwrite, Function.update_same, Function.update_noteq, ne_eq,
    String.reduceEq, not_false_eq_true, Bool.not_eq_eq_eq_not, Bool.not_true, List.append_assoc,
    List.singleton_append, List.cons_append, List.nil_append, Int.reduceNeg, Nat.zero_add,
    Nat.reduceAdd, tokenSetCountPaths, sinkPaths, List.map_cons, List.map_nil]
  try rfl

/-! ## `htool_get_token_set_info` -/

/-- The paths of `htool_get_token_set_info`. A missing `set_index` or a failed `RAND_bytes` jumps
over the declaration of `token_set_info_file_ptr`, which the cleanup reads. -/
def tokenSetInfoPaths : Outcome × List Event :=
  let dev := Event.libhothDevice env.libhothDevice
  let skipped := Outcome.undefined (.indeterminate "token_set_info_file_ptr")
  if env.libhothDevice = false then (.returned (-1), [dev]) else
  match env.getParamU32 "set_index" with
  | some setIdx =>
    match env.randBytes with
    | some f =>
      sinkPaths env "token_set_info" 0
        [dev, .getParamU32 "set_index" (some setIdx), .randBytes true]
        (fun t => (.returned (-1), t)) fun t =>
      let t := t ++ [.getSecurityVersion env.getSecurityVersion]
      match env.getSecurityVersion with
      | .v2 =>
        let cmd := getTokenSetInfoCommand L setIdx (bytesOf f L.nonceSize)
        let reply := env.execSecurityV2Cmd cmd
        let t := t ++ [.execSecurityV2 cmd reply.status]
        if reply.status = 0 then
          let info := bytesOf (reply.fill 0) L.tokenSetInfoSize
          (.returned 0, t ++ [.fwrite 0 info (env.fwrite 0 info), .fclose 0])
        else (.returned reply.status, t ++ [.fclose 0])
      | .other _ => (.returned (-1), t)
    | none => (skipped, [dev, .getParamU32 "set_index" (some setIdx), .randBytes false])
  | none => (skipped, [dev, .getParamU32 "set_index" none])

theorem htoolGetTokenSetInfo_paths :
    (call (htoolGetTokenSetInfo L env)).obs = tokenSetInfoPaths L env := by
  rw [call_obs]
  simp only [htoolGetTokenSetInfo, htoolGetTokenSetInfoV2, State.init, execK_cleanupLabel,
    execK_bind, execK_setStatus, execK_htoolLibhothDevice, execK_ifThen, execK_ret, execK_openSink,
    execK_getRandChallengeNonce, execK_htoolGetParamU32, execK_gotoCleanup,
    execK_htoolGetSecurityVersion, execK_switchVersion, execK_closeIfOpen, execK_getStatus,
    execK_htoolExecSecurityV2Cmd, execK_checkStatus, execK_fwrite, Function.update_same,
    Function.update_noteq, ne_eq, String.reduceEq, not_false_eq_true, Bool.not_eq_eq_eq_not,
    Bool.not_true, List.append_assoc, List.singleton_append, List.cons_append, List.nil_append,
    Int.reduceNeg, Nat.zero_add, Nat.reduceAdd, tokenSetInfoPaths, sinkPaths]
  try rfl

/-! ## Sinks that take fewer bytes

The answer `w` of the sinks to `fwrite` lands in the `fwrite` events of the trace and nowhere
else: two trees that differ in it split alike, and each pair of leaves ends the same way. -/

variable (w : Handle → Bytes → Nat)

theorem tokensInSetV2Paths_outcome_fwrite (setIdx : UInt32) (f : Nat → UInt8) (t : List Event) :
    (tokensInSetV2Paths L { env with fwrite := w } setIdx f t).1 =
      (tokensInSetV2Paths L env setIdx f t).1 := by
  simp only [tokensInSetV2Paths]
  repeat' split
  all_goals rfl

theorem htoolGetTokensInSet_outcome_fwrite :
    (call (htoolGetTokensInSet L { env with fwrite := w })).outcome =
      (call (htoolGetTokensInSet L env)).outcome := by
  rw [Run.outcome_eq_of_obs (htoolGetTokensInSet_paths ..),
    Run.outcome_eq_of_obs (htoolGetTokensInSet_paths ..)]
  simp only [tokensInSetPaths, sinkPaths]
  repeat' split
  all_goals first | rfl | exact tokensInSetV2Paths_outcome_fwrite ..

theorem htoolGetTokenSetCount_outcome_fwrite :
    (call (htoolGetTokenSetCount L { env with fwrite := w })).outcome =
      (call (htoolGetTokenSetCount L env)).outcome := by
  rw [Run.outcome_eq_of_obs (htoolGetTokenSetCount_paths ..),
    Run.outcome_eq_of_obs (htoolGetTokenSetCount_paths ..)]
  simp only [tokenSetCountPaths, sinkPaths]
  repeat' split
  all_goals rfl

theorem htoolGetTokenSetInfo_outcome_fwrite :
    (call (htoolGetTokenSetInfo L { env with fwrite := w })).outcome =
      (call (htoolGetTokenSetInfo L env)).outcome := by
  rw [Run.outcome_eq_of_obs (htoolGetTokenSetInfo_paths ..),
    Run.outcome_eq_of_obs (htoolGetTokenSetInfo_paths ..)]
  simp only [tokenSetInfoPaths, sinkPaths]
  repeat' split
  all_goals rfl

end

end Htool
