import HtoolSecurityTokens.Model.Basic

/-!
# C calls as a state-and-exception monad

A function of `htool_security_tokens.c` runs in `CallM`. Its state holds the locals that are
read on more than one control path (`status` and the `FILE*` variables) and the events so far;
its exceptions are the ways control leaves the normal flow of a statement sequence:
`goto cleanup`, `return`, and undefined behaviour.

Each collaborator of the file is one primitive here that answers from the oracle `Env` and
records an `Event`. A body is run in continuation-passing form (`execK`): every statement has a
`simp` lemma that performs it and passes the new state on, so that `simp` runs a body up to the
next branch on a collaborator's answer, and `split` takes that branch.
-/

namespace Htool

/-- The locals of a token query that are read on more than one path. -/
structure Frame where
  status : Int
  files : String → FileVar

/-- The state of a call. -/
structure State where
  frame : Frame
  trace : List Event
  /-- The number of `fopen` calls so far: the handle the next one returns. -/
  fopens : Nat

/-- The state on entry: every `FILE*` local indeterminate, nothing done. -/
def State.init : State := ⟨⟨0, fun _ => .indeterminate⟩, [], 0⟩

/-- How control leaves the normal flow of a statement sequence. -/
inductive Exit
  /-- `goto cleanup`. -/
  | cleanup
  /-- `return v`, or undefined behaviour: the call ends with this outcome. -/
  | stop (o : Outcome)

abbrev CallM := ExceptT Exit (StateM State)

/-- Run a statement sequence from a state. -/
def exec (m : CallM α) (s : State) : Except Exit α × State := m.run.run s

theorem exec_bind (m : CallM α) (k : α → CallM β) (s : State) :
    exec (m >>= k) s = match exec m s with
      | (.ok a, s') => exec (k a) s'
      | (.error e, s') => (.error e, s') := by
  simp only [exec, ExceptT.run_bind, StateT.run_bind]
  rcases m.run.run s with ⟨_ | a, s'⟩ <;> rfl

theorem exec_pure (a : α) (s : State) : exec (pure a : CallM α) s = (.ok a, s) := rfl

theorem exec_throw (e : Exit) (s : State) :
    exec (throw e : CallM α) s = (.error e, s) := rfl

theorem exec_tryCatch (m : CallM α) (h : Exit → CallM α) (s : State) :
    exec (tryCatch m h) s = match exec m s with
      | (.ok a, s') => (.ok a, s')
      | (.error e, s') => exec (h e) s' := by
  simp only [exec, tryCatch, tryCatchThe, MonadExceptOf.tryCatch, ExceptT.tryCatch, ExceptT.run,
    ExceptT.mk, bind, StateT.bind, StateT.run]
  rcases m s with ⟨_ | a, s'⟩ <;> rfl

/-! ## Statements -/

/-- Record a collaborator call. -/
def emit (e : Event) : CallM Unit := modify fun s => { s with trace := s.trace ++ [e] }

/-- `return v`. -/
def ret (v : Int) : CallM α := throw (.stop (.returned v))

/-- Undefined behaviour. -/
def undefined (u : UB) : CallM α := throw (.stop (.undefined u))

/-- `goto cleanup`. -/
def gotoCleanup : CallM α := throw .cleanup

/-- `status = v`. -/
def setStatus (v : Int) : CallM Unit :=
  modify fun s => { s with frame := { s.frame with status := v } }

/-- `return status`. -/
def getStatus : CallM Int := do return (← get).frame.status

/-- `var = v` for a `FILE*` local. -/
def setFile (var : String) (v : FileVar) : CallM Unit :=
  modify fun s => { s with frame := { s.frame with files := Function.update s.frame.files var v } }

/-- Reading a `FILE*` local: `none` is `NULL`; reading it while indeterminate is undefined. -/
def readFile (var : String) : CallM (Option Handle) := do
  match (← get).frame.files var with
  | .indeterminate => undefined (.indeterminate var)
  | .null => pure none
  | .stream h => pure (some h)

/-- `if (c) stmt;`. A function rather than `do`-notation's `if`, which would copy the rest of
the body into both branches. -/
def ifThen (c : Bool) (stmt : CallM Unit) : CallM Unit := if c then stmt else pure ()

/-- `if (!p) goto cleanup;` for a pointer `p`: what it points at, or `goto cleanup` when it is
`NULL`. -/
def orCleanup (p : Option α) : CallM α :=
  match p with
  | some a => pure a
  | none => gotoCleanup

/-- `switch (sv) { case LIBHOTH_SECURITY_V2: v2; break; default: other }`. -/
def switchVersion (sv : SecurityVersion) (v2 other : CallM Unit) : CallM Unit :=
  match sv with
  | .v2 => v2
  | .other _ => other

/-- A statement sequence followed by the label `cleanup:`: a `goto cleanup` in it resumes
after the sequence. -/
def cleanupLabel (body : CallM Unit) : CallM Unit :=
  tryCatch body fun
    | .cleanup => pure ()
    | e => throw e

/-! ## Collaborators -/

section
variable (env : Env)

/-- `htool_libhoth_device()`: whether there is a device. -/
def htoolLibhothDevice : CallM Bool := do
  emit (.libhothDevice env.libhothDevice)
  pure env.libhothDevice

/-- `htool_get_param_string(inv, name, &value)`: the value, or `none` on a non-zero return. -/
def htoolGetParamString (name : String) : CallM (Option String) := do
  emit (.getParamString name (env.getParamString name))
  pure (env.getParamString name)

/-- `htool_get_param_u32(inv, name, &value)`: the value, or `none` on a non-zero return. -/
def htoolGetParamU32 (name : String) : CallM (Option UInt32) := do
  emit (.getParamU32 name (env.getParamU32 name))
  pure (env.getParamU32 name)

/-- `var = fopen(path, "wb")`: a new stream, or `NULL`. -/
def fopen (var path : String) : CallM Unit := do
  let s ← get
  let h := s.fopens
  set { s with fopens := h + 1 }
  if env.fopen h path then
    emit (.fopen path (some h))
    setFile var (.stream h)
  else
    emit (.fopen path none)
    setFile var .null

/-- `get_rand_challenge_nonce(&challenge)`: the challenge `RAND_bytes` filled, or `none` when
it did not return 1. -/
def getRandChallengeNonce (L : Layout) : CallM (Option Bytes) := do
  emit (.randBytes env.randBytes.isSome)
  pure (env.randBytes.map fun f => bytesOf f L.nonceSize)

/-- `htool_get_security_version(dev)`. -/
def htoolGetSecurityVersion : CallM SecurityVersion := do
  emit (.getSecurityVersion env.getSecurityVersion)
  pure env.getSecurityVersion

/-- `htool_exec_security_v2_cmd(dev, ...)`. -/
def htoolExecSecurityV2Cmd (cmd : Command) : CallM FixedReply := do
  emit (.execSecurityV2 cmd (env.execSecurityV2Cmd cmd).status)
  pure (env.execSecurityV2Cmd cmd)

/-- `htool_exec_security_v2_serialized_cmd(dev, ...)`. -/
def htoolExecSecurityV2SerializedCmd (cmd : Command) : CallM SerializedReply := do
  emit (.execSecurityV2 cmd (env.execSecurityV2SerializedCmd cmd).status)
  pure (env.execSecurityV2SerializedCmd cmd)

/-- `fwrite(data, size, 1, var)`, `data` being the `size` bytes handed over; a `NULL` stream
is dereferenced. -/
def fwrite (var : String) (data : Bytes) : CallM Unit := do
  match ← readFile var with
  | some h => emit (.fwrite h data (env.fwrite h data))
  | none => undefined (.nullDeref var)

end

/-- `if (var) { fclose(var); }`. -/
def closeIfOpen (var : String) : CallM Unit := do
  match ← readFile var with
  | some h => emit (.fclose h)
  | none => pure ()

/-- The bytes `p->value[0 .. p->size)` of a serialized handle `p` named `var` into a response
buffer of `capacity` bytes: a `NULL` handle is dereferenced, and bytes past the buffer are read
out of bounds. -/
def readSerializedParam (var : String) (capacity : Nat) (buffer : Nat → UInt8) :
    Option SerializedParam → CallM Bytes
  | none => undefined (.nullDeref var)
  | some p =>
    if p.offset + p.size ≤ capacity then pure (slice buffer p.offset p.size)
    else undefined (.outOfBounds var)

/-- A finished call: how it ended, and the state it left. -/
structure Run where
  outcome : Outcome
  state : State

/-- The collaborator calls of a finished call. -/
def Run.trace (r : Run) : List Event := r.state.trace

/-- A function body run from `State.init`. A `goto cleanup` always meets its label, so the last
case does not arise. -/
def call (m : CallM Int) : Run :=
  match exec m State.init with
  | (.ok v, s) => ⟨.returned v, s⟩
  | (.error (.stop o), s) => ⟨o, s⟩
  | (.error .cleanup, s) => ⟨.returned s.frame.status, s⟩

/-! ## Running a body in continuation-passing form -/

/-- Run `m` from `s`; continue with `k` on normal completion and with `h` on an exit. -/
def execK (m : CallM α) (s : State) (k : α → State → R) (h : Exit → State → R) : R :=
  match exec m s with
  | (.ok a, s') => k a s'
  | (.error x, s') => h x s'

theorem call_eq_execK (m : CallM Int) :
    call m = execK m State.init (fun v s => ⟨.returned v, s⟩) fun x s => match x with
      | .stop o => ⟨o, s⟩
      | .cleanup => ⟨.returned s.frame.status, s⟩ := by
  simp only [call, execK]
  rcases exec m State.init with ⟨(_ | _) | _, _⟩ <;> rfl

section
variable {R : Type} (s : State) (h : Exit → State → R)

@[simp] theorem execK_bind (m : CallM β) (f : β → CallM α) (k : α → State → R) :
    execK (m >>= f) s k h = execK m s (fun b s' => execK (f b) s' k h) h := by
  simp only [execK, exec_bind]
  rcases exec m s with ⟨_ | _, _⟩ <;> rfl

@[simp] theorem execK_pure (a : α) (k : α → State → R) : execK (pure a) s k h = k a s := rfl

@[simp] theorem execK_cleanupLabel (body : CallM Unit) (k : Unit → State → R) :
    execK (cleanupLabel body) s k h = execK body s k fun x s' => match x with
      | .cleanup => k () s'
      | x => h x s' := by
  simp only [execK, cleanupLabel, exec_tryCatch]
  rcases exec body s with ⟨(_ | _) | _, _⟩ <;> rfl

@[simp] theorem execK_ret (v : Int) (k : α → State → R) :
    execK (ret v) s k h = h (.stop (.returned v)) s := rfl

@[simp] theorem execK_undefined (u : UB) (k : α → State → R) :
    execK (undefined u) s k h = h (.stop (.undefined u)) s := rfl

@[simp] theorem execK_gotoCleanup (k : α → State → R) :
    execK gotoCleanup s k h = h .cleanup s := rfl

@[simp] theorem execK_setStatus (v : Int) (k : Unit → State → R) :
    execK (setStatus v) s k h = k () { s with frame := { s.frame with status := v } } := rfl

@[simp] theorem execK_getStatus (k : Int → State → R) :
    execK getStatus s k h = k s.frame.status s := rfl

@[simp] theorem execK_setFile (var : String) (v : FileVar) (k : Unit → State → R) :
    execK (setFile var v) s k h =
      k () { s with frame := { s.frame with files := Function.update s.frame.files var v } } :=
  rfl

@[simp] theorem execK_readFile (var : String) (k : Option Handle → State → R) :
    execK (readFile var) s k h = match s.frame.files var with
      | .indeterminate => h (.stop (.undefined (.indeterminate var))) s
      | .null => k none s
      | .stream f => k (some f) s := by
  show execK (match s.frame.files var with
    | .indeterminate => undefined (.indeterminate var)
    | .null => pure none
    | .stream f => pure (some f)) s k h = _
  cases s.frame.files var <;> rfl

@[simp] theorem execK_ifThen (c : Bool) (stmt : CallM Unit) (k : Unit → State → R) :
    execK (ifThen c stmt) s k h = if c then execK stmt s k h else k () s := by
  cases c <;> rfl

/-- Stated for the one pointer the file tests so, a serialized handle: its `match` is then the
one a statement over that handle elaborates to, which keeps the runs of `Verify/Paths` closed by
`rfl`. -/
@[simp] theorem execK_orCleanup (p : Option SerializedParam) (k : SerializedParam → State → R) :
    execK (orCleanup p) s k h = match p with
      | some a => k a s
      | none => h .cleanup s := by
  cases p <;> rfl

@[simp] theorem execK_switchVersion (sv : SecurityVersion) (v2 other : CallM Unit)
    (k : Unit → State → R) :
    execK (switchVersion sv v2 other) s k h = match sv with
      | .v2 => execK v2 s k h
      | .other _ => execK other s k h := by
  cases sv <;> rfl

@[simp] theorem execK_closeIfOpen (var : String) (k : Unit → State → R) :
    execK (closeIfOpen var) s k h = match s.frame.files var with
      | .indeterminate => h (.stop (.undefined (.indeterminate var))) s
      | .null => k () s
      | .stream f => k () { s with trace := s.trace ++ [.fclose f] } := by
  simp only [closeIfOpen, execK_bind, execK_readFile]
  cases s.frame.files var <;> rfl

@[simp] theorem execK_readSerializedParam (var : String) (capacity : Nat) (buffer : Nat → UInt8)
    (p : Option SerializedParam) (k : Bytes → State → R) :
    execK (readSerializedParam var capacity buffer p) s k h = match p with
      | none => h (.stop (.undefined (.nullDeref var))) s
      | some p => if p.offset + p.size ≤ capacity then k (slice buffer p.offset p.size) s
          else h (.stop (.undefined (.outOfBounds var))) s := by
  rcases p with _ | p
  · rfl
  · simp only [readSerializedParam]
    split <;> rfl

variable (env : Env)

@[simp] theorem execK_htoolLibhothDevice (k : Bool → State → R) :
    execK (htoolLibhothDevice env) s k h =
      k env.libhothDevice { s with trace := s.trace ++ [.libhothDevice env.libhothDevice] } := rfl

@[simp] theorem execK_htoolGetParamString (name : String) (k : Option String → State → R) :
    execK (htoolGetParamString env name) s k h = match env.getParamString name with
      | some v => k (some v) { s with trace := s.trace ++ [.getParamString name (some v)] }
      | none => k none { s with trace := s.trace ++ [.getParamString name none] } := by
  unfold htoolGetParamString
  cases env.getParamString name <;> rfl

@[simp] theorem execK_htoolGetParamU32 (name : String) (k : Option UInt32 → State → R) :
    execK (htoolGetParamU32 env name) s k h = match env.getParamU32 name with
      | some v => k (some v) { s with trace := s.trace ++ [.getParamU32 name (some v)] }
      | none => k none { s with trace := s.trace ++ [.getParamU32 name none] } := by
  unfold htoolGetParamU32
  cases env.getParamU32 name <;> rfl

@[simp] theorem execK_fopen (var path : String) (k : Unit → State → R) :
    execK (fopen env var path) s k h =
      if env.fopen s.fopens path then
        k () ⟨{ s.frame with files := Function.update s.frame.files var (.stream s.fopens) },
          s.trace ++ [.fopen path (some s.fopens)], s.fopens + 1⟩
      else
        k () ⟨{ s.frame with files := Function.update s.frame.files var .null },
          s.trace ++ [.fopen path none], s.fopens + 1⟩ := by
  show execK (if env.fopen s.fopens path then
      (do emit (.fopen path (some s.fopens)); setFile var (.stream s.fopens))
    else (do emit (.fopen path none); setFile var .null)) { s with fopens := s.fopens + 1 } k h = _
  split <;> rfl

@[simp] theorem execK_getRandChallengeNonce (L : Layout) (k : Option Bytes → State → R) :
    execK (getRandChallengeNonce env L) s k h = match env.randBytes with
      | some f => k (some (bytesOf f L.nonceSize)) { s with trace := s.trace ++ [.randBytes true] }
      | none => k none { s with trace := s.trace ++ [.randBytes false] } := by
  unfold getRandChallengeNonce
  cases env.randBytes <;> rfl

@[simp] theorem execK_htoolGetSecurityVersion (k : SecurityVersion → State → R) :
    execK (htoolGetSecurityVersion env) s k h = k env.getSecurityVersion
      { s with trace := s.trace ++ [.getSecurityVersion env.getSecurityVersion] } := rfl

@[simp] theorem execK_htoolExecSecurityV2Cmd (cmd : Command) (k : FixedReply → State → R) :
    execK (htoolExecSecurityV2Cmd env cmd) s k h = k (env.execSecurityV2Cmd cmd)
      { s with trace := s.trace ++ [.execSecurityV2 cmd (env.execSecurityV2Cmd cmd).status] } := rfl

@[simp] theorem execK_htoolExecSecurityV2SerializedCmd (cmd : Command)
    (k : SerializedReply → State → R) :
    execK (htoolExecSecurityV2SerializedCmd env cmd) s k h = k (env.execSecurityV2SerializedCmd cmd)
      { s with trace :=
          s.trace ++ [.execSecurityV2 cmd (env.execSecurityV2SerializedCmd cmd).status] } := rfl

@[simp] theorem execK_fwrite (var : String) (data : Bytes) (k : Unit → State → R) :
    execK (fwrite env var data) s k h = match s.frame.files var with
      | .indeterminate => h (.stop (.undefined (.indeterminate var))) s
      | .null => h (.stop (.undefined (.nullDeref var))) s
      | .stream f => k () { s with trace := s.trace ++ [.fwrite f data (env.fwrite f data)] } := by
  simp only [fwrite, execK_bind, execK_readFile]
  cases s.frame.files var <;> rfl

end

end Htool
