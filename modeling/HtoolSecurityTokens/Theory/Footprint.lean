import HtoolSecurityTokens.Model.CallM

/-!
# The events a statement records

`Records P m`: every event that `m` appends to the trace satisfies `P`, from every state and
whichever way control leaves `m` (normally, by `goto cleanup`, by `return`, or by undefined
behaviour). There is one rule per statement form of `CallM` and one per collaborator, and
`Records.bind` composes them, so that what a whole body can record follows from its statements
without running its paths. `Records.seq` splits the trace of `m >>= f` into the events of `m`
followed by those of `f`, and `Records.call_seq` does so for a whole call.
-/

namespace Htool

theorem exec_eq_execK (m : CallM α) (s : State) :
    exec m s = execK m s (fun a s' => (.ok a, s')) fun x s' => (.error x, s') := by
  unfold execK
  rcases exec m s with ⟨_ | _, _⟩ <;> rfl

/-- Every event that `m` appends to the trace satisfies `P`, from every state and whichever way
control leaves `m`. -/
structure Records (P : Event → Prop) (m : CallM α) : Prop where
  holds : ∀ s, ∃ new, (exec m s).2.trace = s.trace ++ new ∧ ∀ e ∈ new, P e

section
variable {P Q : Event → Prop} {α β : Type}

/-! ## Statements -/

/-- A statement that leaves the trace as it is. -/
theorem Records.of_trace {m : CallM α} (h : ∀ s, (exec m s).2.trace = s.trace) : Records P m :=
  ⟨fun s => ⟨[], by rw [h, List.append_nil], nofun⟩⟩

theorem Records.pure (a : α) : Records P (pure a : CallM α) := .of_trace fun _ => rfl

theorem Records.throw (x : Exit) : Records P (throw x : CallM α) := .of_trace fun _ => rfl

theorem Records.emit {e : Event} (h : P e) : Records P (emit e) :=
  ⟨fun _ => ⟨[e], rfl, by simpa using h⟩⟩

/-- The trace of `m >>= f` is what `m` recorded followed by what `f` recorded. -/
theorem Records.seq {m : CallM α} {f : α → CallM β} (hm : Records P m)
    (hf : ∀ a, Records Q (f a)) (s : State) :
    ∃ b c, (exec (m >>= f) s).2.trace = s.trace ++ b ++ c ∧ (∀ e ∈ b, P e) ∧ ∀ e ∈ c, Q e := by
  obtain ⟨b, hb, hP⟩ := hm.holds s
  rw [exec_bind]
  rcases hx : exec m s with ⟨_ | a, s'⟩ <;> rw [hx] at hb
  · exact ⟨b, [], by simpa using hb, hP, nofun⟩
  · obtain ⟨c, hc, hQ⟩ := (hf a).holds s'
    exact ⟨b, c, by rw [hc, hb], hP, hQ⟩

theorem call_trace (m : CallM Int) : (call m).trace = (exec m State.init).2.trace := by
  unfold call
  split <;> simp_all [Run.trace]

/-- A call of `m >>= f`: what `m` recorded, then what `f` recorded. -/
theorem Records.call_seq {m : CallM α} {f : α → CallM Int} (hm : Records P m)
    (hf : ∀ a, Records Q (f a)) :
    ∃ b c, (call (m >>= f)).trace = b ++ c ∧ (∀ e ∈ b, P e) ∧ ∀ e ∈ c, Q e := by
  rw [call_trace]
  simpa [State.init] using hm.seq hf State.init

theorem Records.bind {m : CallM α} {f : α → CallM β} (hm : Records P m)
    (hf : ∀ a, Records P (f a)) : Records P (m >>= f) := ⟨fun s => by
  obtain ⟨b, c, h, hb, hc⟩ := hm.seq hf s
  exact ⟨b ++ c, by rw [h, List.append_assoc], fun e he => (List.mem_append.1 he).elim (hb e) (hc e)⟩⟩

theorem Records.ret (v : Int) : Records P (ret v : CallM α) := .throw _

theorem Records.undefined (u : UB) : Records P (undefined u : CallM α) := .throw _

theorem Records.gotoCleanup : Records P (gotoCleanup : CallM α) := .throw _

theorem Records.setStatus (v : Int) : Records P (setStatus v) := .of_trace fun _ => rfl

theorem Records.getStatus : Records P getStatus := .of_trace fun _ => rfl

theorem Records.setFile (var : String) (v : FileVar) : Records P (setFile var v) :=
  .of_trace fun _ => rfl

theorem Records.ifThen (c : Bool) {stmt : CallM Unit} (h : Records P stmt) :
    Records P (ifThen c stmt) := by
  cases c
  exacts [.pure (), h]

theorem Records.orCleanup (p : Option α) : Records P (orCleanup p) := by
  cases p
  exacts [.gotoCleanup, .pure _]

theorem Records.switchVersion (sv : SecurityVersion) {v2 other : CallM Unit} (h₂ : Records P v2)
    (ho : Records P other) : Records P (switchVersion sv v2 other) := by
  cases sv
  exacts [h₂, ho]

theorem Records.cleanupLabel {body : CallM Unit} (h : Records P body) :
    Records P (cleanupLabel body) := ⟨fun s => by
  obtain ⟨b, hb, hP⟩ := h.holds s
  refine ⟨b, ?_, hP⟩
  simp only [Htool.cleanupLabel, exec_tryCatch]
  rcases hx : exec body s with ⟨(_ | _) | _, s'⟩ <;> rw [hx] at hb <;> exact hb⟩

theorem Records.readFile (var : String) : Records P (readFile var) :=
  .of_trace fun s => by
    rw [exec_eq_execK, execK_readFile]
    split <;> rfl

theorem Records.readSerializedParam (var : String) (capacity : Nat) (buffer : Nat → UInt8)
    (p : Option SerializedParam) : Records P (readSerializedParam var capacity buffer p) :=
  .of_trace fun s => by
    rw [exec_eq_execK, execK_readSerializedParam]
    rcases p with _ | p
    · rfl
    · dsimp only
      split <;> rfl

theorem Records.closeIfOpen (var : String) (h : ∀ f, P (.fclose f)) :
    Records P (closeIfOpen var) := ⟨fun s => by
  rw [exec_eq_execK, execK_closeIfOpen]
  split
  · exact ⟨[], by simp, nofun⟩
  · exact ⟨[], by simp, nofun⟩
  · exact ⟨_, rfl, by simpa using h _⟩⟩

/-! ## Collaborators -/

variable (env : Env)

theorem Records.htoolLibhothDevice (h : ∀ b, P (.libhothDevice b)) :
    Records P (htoolLibhothDevice env) :=
  (Records.emit (h _)).bind fun _ => .pure _

theorem Records.htoolGetParamString (name : String) (h : ∀ v, P (.getParamString name v)) :
    Records P (htoolGetParamString env name) :=
  (Records.emit (h _)).bind fun _ => .pure _

theorem Records.htoolGetParamU32 (name : String) (h : ∀ v, P (.getParamU32 name v)) :
    Records P (htoolGetParamU32 env name) :=
  (Records.emit (h _)).bind fun _ => .pure _

theorem Records.getRandChallengeNonce (L : Layout) (h : ∀ ok, P (.randBytes ok)) :
    Records P (getRandChallengeNonce env L) :=
  (Records.emit (h _)).bind fun _ => .pure _

theorem Records.htoolGetSecurityVersion (h : ∀ v, P (.getSecurityVersion v)) :
    Records P (htoolGetSecurityVersion env) :=
  (Records.emit (h _)).bind fun _ => .pure _

theorem Records.htoolExecSecurityV2Cmd (cmd : Command) (h : ∀ st, P (.execSecurityV2 cmd st)) :
    Records P (htoolExecSecurityV2Cmd env cmd) :=
  (Records.emit (h _)).bind fun _ => .pure _

theorem Records.htoolExecSecurityV2SerializedCmd (cmd : Command)
    (h : ∀ st, P (.execSecurityV2 cmd st)) : Records P (htoolExecSecurityV2SerializedCmd env cmd) :=
  (Records.emit (h _)).bind fun _ => .pure _

theorem Records.fopen (var path : String) (h : ∀ r, P (.fopen path r)) :
    Records P (fopen env var path) := ⟨fun s => by
  rw [exec_eq_execK, execK_fopen]
  split
  exacts [⟨_, rfl, by simpa using h _⟩, ⟨_, rfl, by simpa using h _⟩]⟩

theorem Records.fwrite (var : String) (data : Bytes) (h : ∀ f n, P (.fwrite f data n)) :
    Records P (fwrite env var data) := ⟨fun s => by
  rw [exec_eq_execK, execK_fwrite]
  split
  · exact ⟨[], by simp, nofun⟩
  · exact ⟨[], by simp, nofun⟩
  · exact ⟨_, rfl, by simpa using h _ _⟩⟩

end

end Htool
