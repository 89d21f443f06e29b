import HtoolSecurityTokens.Verify.Queries

/-!
# When the token queries succeed

The converse of the contract's `success` field: a query returns 0 whenever every collaborator it
calls before its command succeeds (`Env.Succeeds`), its command returns 0 and, for
`htool_get_tokens_in_set`, the reply passes the query's checks, gives every handle the query
reads, and places each inside `response_storage_hdr`. Each proof evaluates the query's paths from
`Verify/Paths` at these answers, which leave one leaf.
-/

namespace Htool

/-- Every collaborator that a query calls before its command succeeds: there is a device; the
parameters `sinks` give paths that open, in this order, as the first streams of the call;
`RAND_bytes` succeeds; and the device speaks security V2. -/
structure Env.Succeeds (env : Env) (sinks : List String) : Prop where
  device : env.libhothDevice = true
  opens : ∀ i name, sinks[i]? = some name →
    ∃ path, env.getParamString name = some path ∧ env.fopen i path = true
  nonce : env.randBytes.isSome
  version : env.getSecurityVersion = .v2

theorem succeedingEnv_succeeds (sinks : List String) : succeedingEnv.Succeeds sinks :=
  ⟨rfl, fun _ _ _ => ⟨_, rfl, rfl⟩, rfl, rfl⟩

section
variable (L : Layout) (env : Env)

/-- `htool_get_tokens_in_set` returns 0 when every collaborator succeeds and the serialized command
returns 0 with a token field that passes both checks, both other handles, and every handle
inside the response buffer. -/
theorem htoolGetTokensInSet_returns_zero
    (h : env.Succeeds ["token_output", "signature_output", "boot_nonce_output"])
    (hidx : (env.getParamU32 "set_index").isSome)
    (hstatus : (tokensInSetReply L env).status = 0)
    (htokens : ∃ p, (tokensInSetReply L env).params 0 = some p ∧
      p.size ≤ L.maxTokenResponseSize ∧ p.size % L.tokenByteSize = 0)
    (hpresent : ((tokensInSetReply L env).params 1).isSome ∧
      ((tokensInSetReply L env).params 2).isSome)
    (hfits : ∀ i p, (tokensInSetReply L env).params i = some p →
      p.offset + p.size ≤ L.maxTokenResponseSize) :
    (call (htoolGetTokensInSet L env)).outcome = .returned 0 := by
  obtain ⟨p₀, h₀, o₀⟩ := h.opens 0 "token_output" rfl
  obtain ⟨p₁, h₁, o₁⟩ := h.opens 1 "signature_output" rfl
  obtain ⟨p₂, h₂, o₂⟩ := h.opens 2 "boot_nonce_output" rfl
  obtain ⟨f, hf⟩ := Option.isSome_iff_exists.1 h.nonce
  obtain ⟨i, hi⟩ := Option.isSome_iff_exists.1 hidx
  obtain ⟨tp, htp, hsz, hmod⟩ := htokens
  obtain ⟨⟨bp, hbp⟩, ⟨sp, hsp⟩⟩ := hpresent.imp Option.isSome_iff_exists.1 Option.isSome_iff_exists.1
  simp only [tokensInSetReply, challengeOf, hi, hf, Option.map_some', Option.getD_some]
    at hstatus htp hbp hsp hfits
  rw [Run.outcome_eq_of_obs (htoolGetTokensInSet_paths ..)]
  simp [tokensInSetPaths, tokensInSetV2Paths, sinkPaths, h.device, h₀, h₁, h₂, o₀, o₁, o₂, hf, hi,
    h.version, hstatus, htp, hbp, hsp, hfits _ _ htp, hfits _ _ hbp, hfits _ _ hsp,
    Nat.not_lt.2 hsz, hmod]

/-- Three tokens of `sampleLayout`, a boot nonce and a signature, one after the other in a
response buffer that holds the byte `j` at offset `j`. -/
def threeTokensEnv : Env :=
  { succeedingEnv with
    execSecurityV2SerializedCmd := fun _ => ⟨0, fun j => j.toUInt8, fun i =>
      if i = 0 then some ⟨0, 12⟩ else if i = 1 then some ⟨12, 4⟩ else some ⟨16, 8⟩⟩ }

theorem htoolGetTokensInSet_returns_zero_threeTokens :
    threeTokensEnv.Succeeds ["token_output", "signature_output", "boot_nonce_output"] ∧
      (threeTokensEnv.getParamU32 "set_index").isSome ∧
      (tokensInSetReply sampleLayout threeTokensEnv).status = 0 ∧
      (∃ p, (tokensInSetReply sampleLayout threeTokensEnv).params 0 = some p ∧
        p.size ≤ sampleLayout.maxTokenResponseSize ∧ p.size % sampleLayout.tokenByteSize = 0) ∧
      (((tokensInSetReply sampleLayout threeTokensEnv).params 1).isSome ∧
        ((tokensInSetReply sampleLayout threeTokensEnv).params 2).isSome) ∧
      (∀ i p, (tokensInSetReply sampleLayout threeTokensEnv).params i = some p →
        p.offset + p.size ≤ sampleLayout.maxTokenResponseSize) ∧
      (call (htoolGetTokensInSet sampleLayout threeTokensEnv)).outcome = .returned 0 :=
  have hfits : ∀ i p, (tokensInSetReply sampleLayout threeTokensEnv).params i = some p →
      p.offset + p.size ≤ sampleLayout.maxTokenResponseSize := by
    intro i p hp
    simp only [tokensInSetReply, threeTokensEnv] at hp
    split_ifs at hp <;> cases hp <;> decide
  have htokens : ∃ p, (tokensInSetReply sampleLayout threeTokensEnv).params 0 = some p ∧
      p.size ≤ sampleLayout.maxTokenResponseSize ∧ p.size % sampleLayout.tokenByteSize = 0 :=
    ⟨⟨0, 12⟩, rfl, by decide, by decide⟩
  have h : threeTokensEnv.Succeeds ["token_output", "signature_output", "boot_nonce_output"] :=
    ⟨rfl, fun _ _ _ => ⟨_, rfl, rfl⟩, rfl, rfl⟩
  ⟨h, rfl, rfl, htokens, ⟨rfl, rfl⟩, hfits,
    htoolGetTokensInSet_returns_zero sampleLayout threeTokensEnv h rfl rfl htokens ⟨rfl, rfl⟩ hfits⟩

/-- `htool_get_token_set_count` returns 0 when every collaborator it calls succeeds and its command
returns 0. -/
theorem htoolGetTokenSetCount_returns_zero
    (h : env.Succeeds ["num_ids_output", "boot_nonce_output", "signature_output"])
    (hstatus : (tokenSetCountReply L env).status = 0) :
    (call (htoolGetTokenSetCount L env)).outcome = .returned 0 := by
  obtain ⟨p₀, h₀, o₀⟩ := h.opens 0 "num_ids_output" rfl
  obtain ⟨p₁, h₁, o₁⟩ := h.opens 1 "boot_nonce_output" rfl
  obtain ⟨p₂, h₂, o₂⟩ := h.opens 2 "signature_output" rfl
  obtain ⟨f, hf⟩ := Option.isSome_iff_exists.1 h.nonce
  simp only [tokenSetCountReply, challengeOf, hf, Option.map_some', Option.getD_some] at hstatus
  rw [Run.outcome_eq_of_obs (htoolGetTokenSetCount_paths ..)]
  simp [tokenSetCountPaths, sinkPaths, h.device, h₀, h₁, h₂, o₀, o₁, o₂, hf, h.version, hstatus]

theorem htoolGetTokenSetCount_returns_zero_succeeding :
    succeedingEnv.Succeeds ["num_ids_output", "boot_nonce_output", "signature_output"] ∧
      (tokenSetCountReply sampleLayout succeedingEnv).status = 0 ∧
      (call (htoolGetTokenSetCount sampleLayout succeedingEnv)).outcome = .returned 0 :=
  ⟨succeedingEnv_succeeds _, rfl,
    htoolGetTokenSetCount_returns_zero sampleLayout succeedingEnv (succeedingEnv_succeeds _) rfl⟩

/-- `htool_get_token_set_info` returns 0 when every collaborator it calls succeeds, `set_index`
is given, and its command returns 0. -/
theorem htoolGetTokenSetInfo_returns_zero (h : env.Succeeds ["token_set_info"])
    (hidx : (env.getParamU32 "set_index").isSome) (hstatus : (tokenSetInfoReply L env).status = 0) :
    (call (htoolGetTokenSetInfo L env)).outcome = .returned 0 := by
  obtain ⟨p₀, h₀, o₀⟩ := h.opens 0 "token_set_info" rfl
  obtain ⟨f, hf⟩ := Option.isSome_iff_exists.1 h.nonce
  obtain ⟨i, hi⟩ := Option.isSome_iff_exists.1 hidx
  simp only [tokenSetInfoReply, challengeOf, hi, hf, Option.map_some', Option.getD_some] at hstatus
  rw [Run.outcome_eq_of_obs (htoolGetTokenSetInfo_paths ..)]
  simp [tokenSetInfoPaths, sinkPaths, h.device, h₀, o₀, hf, hi, h.version, hstatus]

theorem htoolGetTokenSetInfo_returns_zero_succeeding :
    succeedingEnv.Succeeds ["token_set_info"] ∧ (succeedingEnv.getParamU32 "set_index").isSome ∧
      (tokenSetInfoReply sampleLayout succeedingEnv).status = 0 ∧
      (call (htoolGetTokenSetInfo sampleLayout succeedingEnv)).outcome = .returned 0 :=
  ⟨succeedingEnv_succeeds _, rfl, rfl,
    htoolGetTokenSetInfo_returns_zero sampleLayout succeedingEnv (succeedingEnv_succeeds _) rfl rfl⟩

end

end Htool
