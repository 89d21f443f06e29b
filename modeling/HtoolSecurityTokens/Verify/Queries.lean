import HtoolSecurityTokens.Verify.Plans

/-!
# What the token queries guarantee

Consequences of `tokenQueries_accepted` for the code, for every answer of the collaborators: the
contract of a token query (`Plan.Contract`), what the queries do with their streams, and when they
can reach undefined behaviour; and, from the paths of `Verify/Paths`, that no query looks at what
`fwrite` returns and exactly when `htool_get_tokens_in_set` reads past its response buffer. Next to
each, runs on fixed answers show where the code does less: a short `fwrite` still returns 0; a
failure before the command can leave streams open or read a `FILE*` whose declaration was jumped
over; a reply without the boot nonce handle is dereferenced; a handle that ends past the response
buffer is read there.
-/

namespace Htool

/-- Collaborators that all succeed: every parameter is given, every sink opens and takes every
byte, the version is V2, and both commands return 0, the serialized one with empty fields. -/
def succeedingEnv : Env where
  libhothDevice := true
  getParamString _ := some "out"
  getParamU32 _ := some 0
  fopen _ _ := true
  randBytes := some fun _ => 0
  getSecurityVersion := .v2
  execSecurityV2Cmd _ := ⟨0, fun _ _ => 0⟩
  execSecurityV2SerializedCmd _ := ⟨0, fun _ => 0, fun _ => some ⟨0, 0⟩⟩
  fwrite _ data := data.length

/-- A layout with small sizes. -/
def sampleLayout : Layout where
  tokenByteSize := 4
  maxTokenResponseSize := 64
  nonceSize := 4
  bootNonceSize := 4
  signatureSize := 8
  tokenSetInfoSize := 4
  requestSize n := 4 + 2 * n
  responseSize n := 4 + 2 * n
  tokensMajorCommand := 1
  getTokensInSetMinorCommand := 0
  getTokenSetCountMinorCommand := 1
  getTokenSetInfoMinorCommand := 2
  securityV2BaseCommand := 0
  tokenByteSize_pos := by decide

/-! ## The contract -/

/-- Every token query keeps its contract, and ends the same way whatever its sinks answer to
`fwrite`. -/
theorem tokenQueries_contract (L : Layout) (env : Env) :
    (tokenQueries L env).Forall (fun q => q.1.Contract q.2) ∧
      ∀ w, (tokenQueries L { env with fwrite := w }).map (fun q => q.2.outcome) =
        (tokenQueries L env).map fun q => q.2.outcome :=
  ⟨List.forall_iff_forall_mem.2 fun q hq => .of_accepts (tokenQueries_accepted L env q hq),
    fun w => by
      simp only [tokenQueries, List.map_cons, List.map_nil, htoolGetTokensInSet_outcome_fwrite,
        htoolGetTokenSetCount_outcome_fwrite, htoolGetTokenSetInfo_outcome_fwrite]⟩

/-- Sinks that take none of the bytes handed to them. -/
def shortWriteEnv : Env := { succeedingEnv with fwrite := fun _ _ => 0 }

/-- `htool_get_token_set_count` returns 0 although its sink took none of the bytes of `num_ids`:
the queries do not look at what `fwrite` returns. -/
theorem htoolGetTokenSetCount_ignores_short_write :
    (call (htoolGetTokenSetCount sampleLayout shortWriteEnv)).outcome = .returned 0 ∧
      Event.fwrite 0 (bytesOf (fun _ => 0) 4) 0 ∈
        (call (htoolGetTokenSetCount sampleLayout shortWriteEnv)).trace := by
  decide

/-- Each query returns 0, -1, or the non-zero status that its command returned. -/
theorem tokenQueries_returned (L : Layout) (env : Env) :
    (tokenQueries L env).Forall fun q => ∀ v, q.2.outcome = .returned v →
      v = 0 ∨ v = -1 ∨ v ≠ 0 ∧ ∃ cmd, Event.execSecurityV2 cmd v ∈ q.2.trace :=
  List.forall_iff_forall_mem.2 fun q hq _ hv =>
    Plan.returned_of_accepts (tokenQueries_accepted L env q hq) hv

/-! ## Streams -/

/-- Every `fclose` of a query that returns closes a stream that the query opened and has not closed
since. A query that ends in undefined behaviour is left out: in C its cleanup may go on to close
whatever an indeterminate `FILE*` holds. -/
theorem tokenQueries_closesOnlyOpen (L : Layout) (env : Env) :
    (tokenQueries L env).Forall fun q => ∀ v, q.2.outcome = .returned v → ClosesOnlyOpen q.2.trace :=
  List.forall_iff_forall_mem.2 fun q hq _ _ =>
    Plan.closesOnlyOpen_of_accepts (tokenQueries_accepted L env q hq)

/-- A query that sent its command and returned has closed every stream it opened. -/
theorem tokenQueries_closesAllAfterCommand (L : Layout) (env : Env) :
    (tokenQueries L env).Forall fun q => ClosesAllAfterCommand q.2 :=
  List.forall_iff_forall_mem.2 fun q hq => Plan.closesAllAfterCommand_of_accepts (tokenQueries_accepted L env q hq)

/-- The first sink cannot be opened. -/
def firstSinkFailsEnv : Env := { succeedingEnv with fopen := fun f _ => f != 0 }

/-- The parameter `signature_output` is not given. -/
def noSignatureOutputEnv : Env :=
  { succeedingEnv with getParamString := fun name => if name = "signature_output" then none else some "out" }

/-- The device has a security version other than V2. -/
def unsupportedVersionEnv : Env := { succeedingEnv with getSecurityVersion := .other 3 }

/-- The parameter `set_index` is not given. -/
def noSetIndexEnv : Env := { succeedingEnv with getParamU32 := fun _ => none }

/-- Before the command, the queries mishandle their streams. `htool_get_tokens_in_set` whose first
sink cannot be opened jumps over the declarations of the other two `FILE*` and reads one of them in
its cleanup; without `signature_output` it returns while its first stream is open;
`htool_get_token_set_count` on a device of another version returns before its cleanup with its
three streams open; `htool_get_token_set_info` without `set_index` reads
`token_set_info_file_ptr` in its cleanup before its declaration. -/
theorem tokenQueries_mishandle_streams :
    (call (htoolGetTokensInSet sampleLayout firstSinkFailsEnv)).outcome =
      .undefined (.indeterminate "boot_nonce_output_ptr") ∧
    ((call (htoolGetTokensInSet sampleLayout noSignatureOutputEnv)).outcome = .returned (-1) ∧
      Event.fopen "out" (some 0) ∈ (call (htoolGetTokensInSet sampleLayout noSignatureOutputEnv)).trace ∧
      Event.fclose 0 ∉ (call (htoolGetTokensInSet sampleLayout noSignatureOutputEnv)).trace) ∧
    ((call (htoolGetTokenSetCount sampleLayout unsupportedVersionEnv)).outcome = .returned (-1) ∧
      ∀ f ∈ [0, 1, 2],
        Event.fopen "out" (some f) ∈ (call (htoolGetTokenSetCount sampleLayout unsupportedVersionEnv)).trace ∧
        Event.fclose f ∉ (call (htoolGetTokenSetCount sampleLayout unsupportedVersionEnv)).trace) ∧
    (call (htoolGetTokenSetInfo sampleLayout noSetIndexEnv)).outcome =
      .undefined (.indeterminate "token_set_info_file_ptr") := by
  decide

/-! ## Undefined behaviour -/

/-- A query reads an indeterminate `FILE*` only after a setup call failed: it has sent no command
and written nothing. -/
theorem tokenQueries_quiet_of_indeterminate (L : Layout) (env : Env) :
    (tokenQueries L env).Forall fun q => ∀ var, q.2.outcome = .undefined (.indeterminate var) →
      Quiet q.2.trace :=
  List.forall_iff_forall_mem.2 fun q hq _ hv => Plan.quiet_of_indeterminate (tokenQueries_accepted L env q hq) hv

/-- `htool_get_token_set_count` and `htool_get_token_set_info` never dereference `NULL` nor read
past a buffer: their only undefined behaviour is reading an indeterminate `FILE*`. -/
theorem fixedQueries_undefined_indeterminate (L : Layout) (env : Env) (u : UB) :
    ((call (htoolGetTokenSetCount L env)).outcome = .undefined u → ∃ var, u = .indeterminate var) ∧
    ((call (htoolGetTokenSetInfo L env)).outcome = .undefined u → ∃ var, u = .indeterminate var) :=
  ⟨Plan.indeterminate_of_undefined (htoolGetTokenSetCount_accepted L env) rfl rfl,
    Plan.indeterminate_of_undefined (htoolGetTokenSetInfo_accepted L env) rfl rfl⟩

/-- The serialized command returns 0 with an empty token field, which passes both checks of every
layout, and an empty signature, but no boot nonce handle. -/
def noBootNonceEnv : Env :=
  { succeedingEnv with
    execSecurityV2SerializedCmd := fun _ => ⟨0, fun _ => 7, fun i =>
      if i = 1 then none else some ⟨0, 0⟩⟩ }

/-- `htool_get_tokens_in_set` dereferences `NULL` only when the reply passed the checks of its token
field and left out the boot nonce handle or the signature handle: an absent token handle is always
caught. -/
theorem htoolGetTokensInSet_nullDeref_absent (L : Layout) (env : Env) (var : String)
    (h : (call (htoolGetTokensInSet L env)).outcome = .undefined (.nullDeref var)) :
    (∃ p, (tokensInSetReply L env).params 0 = some p ∧ p.size ≤ L.maxTokenResponseSize ∧
      p.size % L.tokenByteSize = 0) ∧
    ((tokensInSetReply L env).params 1 = none ∨ (tokensInSetReply L env).params 2 = none) := by
  obtain ⟨hv, hp⟩ := Plan.absent_of_nullDeref (htoolGetTokensInSet_accepted L env) h
  simp only [tokensInSetPlan] at hv hp
  refine ⟨?_, ?_⟩
  · split at hv
    · exact ⟨_, ‹_›, by simpa using hv⟩
    · cases hv
  · rcases h1 : (tokensInSetReply L env).params 1 with _ | p
    · exact .inl rfl
    · exact .inr (by simpa [h1] using hp)

theorem htoolGetTokensInSet_nullDeref_absent_noBootNonce :
    (call (htoolGetTokensInSet sampleLayout noBootNonceEnv)).outcome =
        .undefined (.nullDeref "boot_nonce_param") ∧
      (∃ p, (tokensInSetReply sampleLayout noBootNonceEnv).params 0 = some p ∧
        p.size ≤ sampleLayout.maxTokenResponseSize ∧ p.size % sampleLayout.tokenByteSize = 0) ∧
      ((tokensInSetReply sampleLayout noBootNonceEnv).params 1 = none ∨
        (tokensInSetReply sampleLayout noBootNonceEnv).params 2 = none) :=
  have h : (call (htoolGetTokensInSet sampleLayout noBootNonceEnv)).outcome =
      .undefined (.nullDeref "boot_nonce_param") := by
    decide
  ⟨h, htoolGetTokensInSet_nullDeref_absent sampleLayout noBootNonceEnv _ h⟩

/-- Whatever the layout, `htool_get_tokens_in_set` hands its token field to the token sink and then
dereferences the absent boot nonce handle. -/
theorem htoolGetTokensInSet_dereferences_absent_boot_nonce (L : Layout) :
    (call (htoolGetTokensInSet L noBootNonceEnv)).outcome =
        .undefined (.nullDeref "boot_nonce_param") ∧
      Event.fwrite 0 [] 0 ∈ (call (htoolGetTokensInSet L noBootNonceEnv)).trace := by
  rw [Run.outcome_eq_of_obs (htoolGetTokensInSet_paths ..),
    Run.trace_eq_of_obs (htoolGetTokensInSet_paths ..)]
  simp [tokensInSetPaths, tokensInSetV2Paths, sinkPaths, noBootNonceEnv, succeedingEnv, slice,
    bytesOf]

/-- The serialized command returns 0 with a token field of three bytes: not a whole number of the
tokens of `sampleLayout`. -/
def misalignedTokensEnv : Env :=
  { succeedingEnv with
    execSecurityV2SerializedCmd := fun _ => ⟨0, fun _ => 0, fun i =>
      if i = 0 then some ⟨0, 3⟩ else some ⟨0, 0⟩⟩ }

/-- When the serialized command returns 0 but its token field is absent, larger than the response
buffer, or not a whole number of tokens, `htool_get_tokens_in_set` returns -1 and writes nothing. -/
theorem htoolGetTokensInSet_rejects_invalid_tokens (L : Layout) (env : Env)
    (hv : ∀ p, (tokensInSetReply L env).params 0 = some p →
      L.maxTokenResponseSize < p.size ∨ p.size % L.tokenByteSize ≠ 0)
    (hc : ∃ cmd, Event.execSecurityV2 cmd 0 ∈ (call (htoolGetTokensInSet L env)).trace) :
    (call (htoolGetTokensInSet L env)).outcome = .returned (-1) ∧
      ∀ e ∈ (call (htoolGetTokensInSet L env)).trace, e.isWrite = false := by
  have ha := htoolGetTokensInSet_accepted L env
  obtain ⟨cmd, hmem⟩ := hc
  obtain ⟨a, b, hab⟩ := List.append_of_mem hmem
  obtain ⟨rfl, -⟩ := (Plan.Contract.of_accepts ha).command_after_setup a cmd 0 b hab
  have hval : (tokensInSetPlan L env).valid = false := by
    simp only [tokensInSetPlan]
    split
    · rcases hv _ ‹_› with h | h
      · simp [Nat.not_le.2 h]
      · simp [h]
    · rfl
  obtain ⟨ho, hw⟩ := Plan.returns_of_invalid ha hval hmem
  exact ⟨ho, fun e he => by simpa using List.filter_eq_nil_iff.1 hw e he⟩

theorem htoolGetTokensInSet_rejects_invalid_tokens_misaligned :
    (∀ p, (tokensInSetReply sampleLayout misalignedTokensEnv).params 0 = some p →
      sampleLayout.maxTokenResponseSize < p.size ∨ p.size % sampleLayout.tokenByteSize ≠ 0) ∧
    (∃ cmd, Event.execSecurityV2 cmd 0 ∈
      (call (htoolGetTokensInSet sampleLayout misalignedTokensEnv)).trace) ∧
    (call (htoolGetTokensInSet sampleLayout misalignedTokensEnv)).outcome = .returned (-1) ∧
      ∀ e ∈ (call (htoolGetTokensInSet sampleLayout misalignedTokensEnv)).trace, e.isWrite = false :=
  have hv : ∀ p, (tokensInSetReply sampleLayout misalignedTokensEnv).params 0 = some p →
      sampleLayout.maxTokenResponseSize < p.size ∨ p.size % sampleLayout.tokenByteSize ≠ 0 := by
    rintro p ⟨⟩
    decide
  have hc : ∃ cmd, Event.execSecurityV2 cmd 0 ∈
      (call (htoolGetTokensInSet sampleLayout misalignedTokensEnv)).trace :=
    ⟨getTokensInSetCommand sampleLayout 0 (bytesOf (fun _ => 0) sampleLayout.nonceSize), by decide⟩
  ⟨hv, hc, htoolGetTokensInSet_rejects_invalid_tokens sampleLayout misalignedTokensEnv hv hc⟩

/-! ## Reads of the response buffer -/

/-- `htool_get_tokens_in_set` reads past the end of `response_storage_hdr` exactly when its command
returned 0 with a token field that passes both checks, and a handle it goes on to read ends past
the buffer: the token field, or else the boot nonce, or else the signature. The checks bound the
size of the token field, not where it ends, and do not look at the other two handles. -/
theorem htoolGetTokensInSet_outOfBounds_iff (L : Layout) (env : Env) :
    (∃ var, (call (htoolGetTokensInSet L env)).outcome = .undefined (.outOfBounds var)) ↔
      (∃ cmd, Event.execSecurityV2 cmd 0 ∈ (call (htoolGetTokensInSet L env)).trace) ∧
      ∃ p, (tokensInSetReply L env).params 0 = some p ∧ p.size ≤ L.maxTokenResponseSize ∧
        p.size % L.tokenByteSize = 0 ∧ (L.maxTokenResponseSize < p.offset + p.size ∨
          ∃ b, (tokensInSetReply L env).params 1 = some b ∧
            (L.maxTokenResponseSize < b.offset + b.size ∨
              ∃ s, (tokensInSetReply L env).params 2 = some s ∧
                L.maxTokenResponseSize < s.offset + s.size)) := by
  have h := htoolGetTokensInSet_paths L env
  generalize call (htoolGetTokensInSet L env) = r at h ⊢
  simp only [tokensInSetPaths, sinkPaths] at h
  repeat' split at h
  all_goals try simp only [tokensInSetV2Paths] at h
  repeat' split at h
  all_goals
    simp only [Run.obs_eq_iff] at h
    simp_all [tokensInSetReply, challengeOf, @eq_comm Int 0]

/-- The serialized command returns 0 with a token field of one token of `sampleLayout` that starts
at the last byte of `response_storage_hdr`. -/
def tokensPastEndEnv : Env :=
  { succeedingEnv with
    execSecurityV2SerializedCmd := fun _ => ⟨0, fun _ => 0, fun i =>
      if i = 0 then some ⟨sampleLayout.maxTokenResponseSize - 1, 4⟩ else some ⟨0, 0⟩⟩ }

/-- The serialized command returns 0 with empty fields, but a boot nonce handle at the start of
`response_storage_hdr` that is one byte longer than it. -/
def oversizedBootNonceEnv : Env :=
  { succeedingEnv with
    execSecurityV2SerializedCmd := fun _ => ⟨0, fun _ => 0, fun i =>
      if i = 1 then some ⟨0, sampleLayout.maxTokenResponseSize + 1⟩ else some ⟨0, 0⟩⟩ }

/-- Two handles whose offsets lie inside `response_storage_hdr` but whose sizes run past it are
read there: a token field that passes both checks, and a boot nonce, which is not checked. -/
theorem htoolGetTokensInSet_reads_past_buffer :
    (call (htoolGetTokensInSet sampleLayout tokensPastEndEnv)).outcome =
        .undefined (.outOfBounds "tokens_param") ∧
      (call (htoolGetTokensInSet sampleLayout oversizedBootNonceEnv)).outcome =
        .undefined (.outOfBounds "boot_nonce_param") := by
  decide

end Htool
