import Mathlib.Data.List.Forall2
import HtoolSecurityTokens.Model.CallM

/-!
# The protocol of a token query

What a token query is for, after section 4.6 of the design: a straight-line sequence of setup
calls (the device, the parameters, the sinks, the challenge nonce, the version), one security V2
command, the query's own checks of the reply, and the writes of the decoded fields to their
sinks. The phases are "not yet dispatched" (`Phase.setup`), "dispatched" (`Phase.sent`), and two
terminal failures: a stage before the command failed (`Phase.failed`), or the command returned a
non-zero status (`Phase.rejected`).

A `Plan` lists what one query does. `Plan.step` is the abstract machine over the events of a
call, and `Plan.accepts` adds how a call may end in each phase. The machine also follows the
streams: a stream is `live` from the `fopen` that returned it to its `fclose`, and only a live
stream may be closed.
-/

namespace Htool

/-- A collaborator call that a query makes before its command. -/
inductive SetupCall
  | device
  | paramString (name : String)
  | paramU32 (name : String)
  /-- `fopen(path, "wb")` of a sink. -/
  | fopen (path : String)
  | nonce
  | version
  deriving DecidableEq, Repr

/-- Whether the event `e` is the call `c`, and if so whether it succeeded. -/
def SetupCall.result (c : SetupCall) (e : Event) : Option Bool :=
  match c, e with
  | .device, .libhothDevice present => some present
  | .paramString n, .getParamString m v => if n = m then some v.isSome else none
  | .paramU32 n, .getParamU32 m v => if n = m then some v.isSome else none
  | .fopen path, .fopen p r => if path = p then some r.isSome else none
  | .nonce, .randBytes ok => some ok
  | .version, .getSecurityVersion v => some v.isV2
  | _, _ => none

/-! ## Kinds of events -/

/-- Whether the event is the security V2 command. -/
def Event.isCommand (e : Event) : Bool :=
  match e with
  | .execSecurityV2 _ _ => true
  | _ => false

/-- Whether the event is an `fwrite`. -/
def Event.isWrite (e : Event) : Bool :=
  match e with
  | .fwrite _ _ _ => true
  | _ => false

/-- Whether the event is an `fclose`. -/
def Event.isFclose (e : Event) : Bool :=
  match e with
  | .fclose _ => true
  | _ => false

/-- The stream an event opened. -/
def Event.opened (e : Event) : Option Handle :=
  match e with
  | .fopen _ r => r
  | _ => none

/-- A setup call's event is neither the command nor a write. -/
theorem SetupCall.quiet_of_result {c : SetupCall} {e : Event} {b : Bool} (h : c.result e = some b) :
    e.isCommand = false ∧ e.isWrite = false := by
  cases e <;> simp only [Event.isCommand, Event.isWrite, and_self] <;> cases c <;> cases h

/-- A failed setup call opened no stream. -/
theorem SetupCall.opened_of_result_false {c : SetupCall} {e : Event} (h : c.result e = some false) :
    e.opened = none := by
  cases e <;> try rfl
  cases c <;> simp_all [SetupCall.result, Event.opened]

/-- No setup call is an `fclose`. -/
@[simp] theorem SetupCall.result_fclose (c : SetupCall) (f : Handle) : c.result (.fclose f) = none := by
  cases c <;> rfl

/-- What a token query is meant to do. -/
structure Plan where
  setup : List SetupCall
  command : Command
  /-- Whether the reply passes the query's own checks. -/
  valid : Bool
  /-- The fields to write, in order, each with the index in `setup` of the `fopen` of its sink. -/
  writes : List (Nat × Bytes)
  /-- Whether the reply gives every handle the query dereferences. -/
  present : Bool
  /-- Whether every handle of the reply lies inside the response buffer. -/
  inBounds : Bool

/-- The phase of a query. -/
inductive Phase
  /-- Not yet dispatched: the first `done` setup calls succeeded. -/
  | setup (done : Nat)
  /-- The command returned 0, and the first `written` fields are written. -/
  | sent (written : Nat)
  /-- A setup call failed. -/
  | failed
  /-- The command returned the non-zero `status`. -/
  | rejected (status : Int)
  deriving DecidableEq, Repr

/-- The state of the abstract machine. -/
structure Progress where
  phase : Phase
  /-- The streams opened, each with the index of the setup call that opened it. -/
  streams : List (Nat × Handle)
  /-- The streams opened and not closed since. -/
  live : List Handle
  deriving DecidableEq, Repr

/-- Nothing done yet. -/
def Progress.init : Progress := ⟨.setup 0, [], []⟩

/-- The `i`-th setup call succeeded with the event `e`: a new stream is recorded as opened. -/
def Progress.advance (p : Progress) (i : Nat) (e : Event) : Option Progress :=
  match e with
  | .fopen _ (some f) =>
    if f ∈ p.streams.map Prod.snd then none
    else some ⟨.setup (i + 1), (i, f) :: p.streams, f :: p.live⟩
  | _ => some { p with phase := .setup (i + 1) }

/-- Whether the cleanup may run: the query has sent its command or failed. -/
def Phase.closing (ph : Phase) : Bool :=
  match ph with
  | .setup _ => false
  | _ => true

/-- One event of a call, from the progress `p`; `none` when the plan does not allow it. -/
def Plan.step (plan : Plan) (p : Progress) (e : Event) : Option Progress :=
  match e with
  | .fclose f =>
    if f ∈ p.live ∧ p.phase.closing then some { p with live := p.live.erase f } else none
  | e => match p.phase with
    | .setup i => match plan.setup[i]? with
      | some c => match c.result e with
        | some true => p.advance i e
        | some false => some { p with phase := .failed }
        | none => none
      | none => match e with
        | .execSecurityV2 cmd status =>
          if cmd = plan.command then
            some { p with phase := if status = 0 then .sent 0 else .rejected status }
          else none
        | _ => none
    | .sent k => match e, plan.writes[k]? with
      | .fwrite f data _, some (j, field) =>
        if plan.valid ∧ data = field ∧ (j, f) ∈ p.streams then some { p with phase := .sent (k + 1) }
        else none
      | _, _ => none
    | .failed | .rejected _ => none

/-- How a call may end: after a failed setup call it returns -1 or reads an indeterminate
`FILE*`; after a rejected command it returns the command's status; after a successful command it
returns 0 with every field written, or -1 with none when the reply fails the query's checks; a
reply that passes them may still make it dereference a handle the reply left out or read past the
buffer. A call that returns after its command has closed every stream it opened. -/
def Plan.finish (plan : Plan) (p : Progress) (o : Outcome) : Bool :=
  match p.phase, o with
  | .failed, .returned v => v = -1
  | .failed, .undefined (.indeterminate _) => true
  | .rejected s, .returned v => v = s ∧ p.live = []
  | .sent k, .returned v =>
    p.live = [] ∧ if plan.valid then v = 0 ∧ k = plan.writes.length else v = -1 ∧ k = 0
  | .sent _, .undefined (.nullDeref _) => plan.valid && !plan.present
  | .sent _, .undefined (.outOfBounds _) => plan.valid && !plan.inBounds
  | _, _ => false

/-- `Plan.step` once the trace has left the plan. -/
def Plan.step? (plan : Plan) (p : Option Progress) (e : Event) : Option Progress :=
  match p with
  | some p => plan.step p e
  | none => none

/-- The progress after a trace. -/
def Plan.run (plan : Plan) (trace : List Event) : Option Progress :=
  trace.foldl plan.step? (some Progress.init)

/-- The plan allows the call: every event in turn, and the way it ends. -/
def Plan.accepts (plan : Plan) (r : Run) : Bool :=
  match plan.run r.trace with
  | some p => plan.finish p r.outcome
  | none => false

theorem Plan.accepts_eq_true {plan : Plan} {r : Run} (h : plan.accepts r = true) :
    ∃ p, plan.run r.trace = some p ∧ plan.finish p r.outcome = true := by
  unfold Plan.accepts at h
  split at h
  · exact ⟨_, ‹_›, h⟩
  · cases h

theorem Progress.advance_eq_some {p p' : Progress} {i : Nat} {e : Event}
    (h : p.advance i e = some p') :
    (∃ path f, e = .fopen path (some f) ∧ f ∉ p.streams.map Prod.snd ∧
      p' = ⟨.setup (i + 1), (i, f) :: p.streams, f :: p.live⟩) ∨
    (e.opened = none ∧ p' = { p with phase := .setup (i + 1) }) := by
  unfold Progress.advance at h
  split at h
  · split at h
    · cases h
    · cases h; exact .inl ⟨_, _, rfl, ‹_›, rfl⟩
  · cases h
    refine .inr ⟨?_, rfl⟩
    cases e <;> try rfl
    rename_i path r _
    cases r <;> simp_all [Event.opened]

/-! ## The transitions

`Plan.Step` lists what one event can do, one constructor per rule of `Plan.step`; every invariant
below is proved by cases on it and never unfolds `Plan.step`. -/

/-- The transitions of `Plan.step`. -/
inductive Plan.Step (plan : Plan) : Progress → Event → Progress → Prop
  /-- A live stream is closed, once the query has sent its command or failed. -/
  | close {p f} : f ∈ p.live → p.phase.closing →
      plan.Step p (.fclose f) { p with live := p.live.erase f }
  /-- The next setup call succeeds. -/
  | setupOk {p i c e p'} : p.phase = .setup i → plan.setup[i]? = some c →
      c.result e = some true → p.advance i e = some p' → plan.Step p e p'
  /-- The next setup call fails. -/
  | setupFailed {p i c e} : p.phase = .setup i → plan.setup[i]? = some c →
      c.result e = some false → plan.Step p e { p with phase := .failed }
  /-- Every setup call succeeded, and the command is sent. -/
  | command {p i s} : p.phase = .setup i → plan.setup[i]? = none →
      plan.Step p (.execSecurityV2 plan.command s)
        { p with phase := if s = 0 then .sent 0 else .rejected s }
  /-- The next field of a valid reply is written to the stream its setup call opened. -/
  | write {p k j f data n} : p.phase = .sent k → plan.writes[k]? = some (j, data) →
      plan.valid → (j, f) ∈ p.streams → plan.Step p (.fwrite f data n) { p with phase := .sent (k + 1) }

theorem Plan.Step.of_step {plan : Plan} {p p' : Progress} {e : Event}
    (h : plan.step p e = some p') : plan.Step p e p' := by
  unfold Plan.step at h
  split at h
  · split at h
    · cases h; exact .close ‹_ ∧ _›.1 ‹_ ∧ _›.2
    · cases h
  · split at h
    next i hi =>
      split at h
      next c hc =>
        split at h
        · exact .setupOk hi hc ‹_› h
        · cases h; exact .setupFailed hi hc ‹_›
        · cases h
      next hc =>
        split at h
        · split at h
          · cases h; subst ‹_ = plan.command›; exact .command hi hc
          · cases h
        · cases h
    next k hk =>
      split at h
      · split at h
        · cases h
          obtain ⟨hvalid, rfl, hj⟩ := ‹_ ∧ _ ∧ _›
          exact .write hk ‹_› hvalid hj
        · cases h
      · cases h
    all_goals cases h

/-! ## The ends

`Plan.Ends` lists how a call may end, one constructor per case of `Plan.finish`; the facts about
how an accepted call ends are proved by cases on it. -/

/-- How `Plan.finish` lets a call end, one constructor per case. -/
inductive Plan.Ends (plan : Plan) : Progress → Outcome → Prop
  /-- A setup call failed, and the call returns -1. -/
  | failed {p} : p.phase = .failed → plan.Ends p (.returned (-1))
  /-- A setup call failed, and the cleanup reads an indeterminate `FILE*`. -/
  | indeterminate {p var} : p.phase = .failed → plan.Ends p (.undefined (.indeterminate var))
  /-- The command returned the non-zero `s`; the call has closed its streams and returns `s`. -/
  | rejected {p s} : p.phase = .rejected s → p.live = [] → plan.Ends p (.returned s)
  /-- The reply passed the checks and every field is written; the call has closed its streams and
  returns 0. -/
  | success {p} : p.phase = .sent plan.writes.length → plan.valid → p.live = [] →
      plan.Ends p (.returned 0)
  /-- The reply failed the checks and nothing is written; the call has closed its streams and
  returns -1. -/
  | invalid {p} : p.phase = .sent 0 → plan.valid = false → p.live = [] →
      plan.Ends p (.returned (-1))
  /-- The reply passed the checks but left out a handle that the query dereferences. -/
  | nullDeref {p k var} : p.phase = .sent k → plan.valid → plan.present = false →
      plan.Ends p (.undefined (.nullDeref var))
  /-- The reply passed the checks but placed a handle outside the response buffer. -/
  | outOfBounds {p k var} : p.phase = .sent k → plan.valid → plan.inBounds = false →
      plan.Ends p (.undefined (.outOfBounds var))

theorem Plan.Ends.of_finish {plan : Plan} {p : Progress} {o : Outcome}
    (h : plan.finish p o = true) : plan.Ends p o := by
  unfold Plan.finish at h
  split at h <;> try simp only [decide_eq_true_eq, Bool.and_eq_true, Bool.not_eq_true',
    Bool.false_eq_true] at h
  next hph => subst h; exact .failed hph
  next hph => exact .indeterminate hph
  next hph => obtain ⟨rfl, hl⟩ := h; exact .rejected hph hl
  next hph =>
    obtain ⟨hl, h⟩ := h
    split at h
    next hv => obtain ⟨rfl, rfl⟩ := h; exact .success hph hv hl
    next hv => obtain ⟨rfl, rfl⟩ := h; exact .invalid hph (Bool.eq_false_iff.2 hv) hl
  next hph => exact .nullDeref hph h.1 h.2
  next hph => exact .outOfBounds hph h.1 h.2

/-! ## Runs -/

@[simp] theorem Plan.step?_none (plan : Plan) (e : Event) : plan.step? none e = none := rfl

@[simp] theorem Plan.step?_some (plan : Plan) (p : Progress) (e : Event) :
    plan.step? (some p) e = plan.step p e := rfl

theorem Plan.run_append_singleton (plan : Plan) (t : List Event) (e : Event) :
    plan.run (t ++ [e]) = (plan.run t).bind (plan.step · e) := by
  simp only [Plan.run, List.foldl_append, List.foldl_cons, List.foldl_nil]
  cases t.foldl plan.step? (some Progress.init) <;> rfl

/-- A trace the plan allows has only allowed prefixes. -/
theorem Plan.run_of_append {plan : Plan} {a b : List Event} {p : Progress}
    (h : plan.run (a ++ b) = some p) : ∃ q, plan.run a = some q := by
  induction b using List.reverseRecOn generalizing p with
  | nil => exact ⟨p, by simpa using h⟩
  | append_singleton b e ih =>
    rw [← List.append_assoc, Plan.run_append_singleton] at h
    obtain ⟨q, hq, -⟩ := Option.bind_eq_some.1 h
    exact ih hq

/-- An invariant that holds initially and that every transition keeps holds after every trace
the plan allows. -/
theorem Plan.run_induction (plan : Plan) {Inv : List Event → Progress → Prop}
    (init : Inv [] Progress.init)
    (step : ∀ {t p e p'}, Inv t p → plan.Step p e p' → Inv (t ++ [e]) p') :
    ∀ {t p}, plan.run t = some p → Inv t p := by
  intro t
  induction t using List.reverseRecOn with
  | nil => intro p h; cases h; exact init
  | append_singleton t e ih =>
    intro p h
    rw [Plan.run_append_singleton] at h
    obtain ⟨q, hq, hs⟩ := Option.bind_eq_some.1 h
    exact step (ih hq) (.of_step hs)

end Htool
