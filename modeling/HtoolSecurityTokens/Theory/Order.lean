import HtoolSecurityTokens.Theory.Contract

/-!
# The order of events in an accepted call

Two more facts of every trace a plan accepts, proved from the transitions `Plan.Step`:

* `Plan.opened_of_write`: an `fwrite` goes to a stream that the call opened before it;
* `Plan.stoppedAt_of_accepts`: a call that sends no command stopped at its first failed setup
  call: before it, the setup calls in the plan's order, each succeeding; after it, only
  `fclose`s. The invariant `Plan.Halts` carries this along a run.

`ClosesLast` is a fact of the code that the plan does not fix: every `fclose` comes after all
other events. With it, no event before a write is an `fclose` (`ClosesLast.not_fclose_before`).
`Run.LeavesOpen` is a call that returns with a stream still open; `opened_iff_mem_filterMap`
turns `Opened` into a membership that `simp` decides on an explicit trace.
-/

namespace Htool

@[simp] theorem SetupCall.result_fwrite (c : SetupCall) (f : Handle) (data : Bytes) (n : Nat) :
    c.result (.fwrite f data n) = none := by
  cases c <;> rfl

section
variable {plan : Plan} {r : Run} {t : List Event} {p p' : Progress} {e : Event}

/-- An accepted `fwrite` goes to a stream that the trace before it opened. -/
theorem Plan.opened_of_write {a b : List Event} {f : Handle} {data : Bytes} {n : Nat}
    (h : plan.accepts r = true) (ht : r.trace = a ++ .fwrite f data n :: b) : Opened a f := by
  obtain ⟨p, hrun, -⟩ := Plan.accepts_eq_true h
  rw [ht, ← List.singleton_append, ← List.append_assoc] at hrun
  obtain ⟨q, hq⟩ := Plan.run_of_append hrun
  rw [Plan.run_append_singleton] at hq
  obtain ⟨p₀, h₀, hs⟩ := Option.bind_eq_some.1 hq
  cases Plan.Step.of_step hs with
  | write _ _ _ hj => exact ((Plan.tracks_of_run h₀).streams f).1 (List.mem_map.2 ⟨_, hj, rfl⟩)
  | setupOk _ _ he _ | setupFailed _ _ he => simp at he

theorem opened_iff_mem_filterMap {f : Handle} : Opened t f ↔ f ∈ t.filterMap Event.opened := by
  simp only [Opened, List.mem_filterMap]
  constructor
  · rintro ⟨path, h⟩
    exact ⟨_, h, rfl⟩
  · rintro ⟨e, he, ho⟩
    cases e <;> simp only [Event.opened, reduceCtorEq] at ho
    subst ho
    exact ⟨_, he⟩

/-- The call returned while a stream it opened is still open. -/
def Run.LeavesOpen (r : Run) : Prop :=
  (∃ v, r.outcome = .returned v) ∧ ∃ f, Opened r.trace f ∧ Event.fclose f ∉ r.trace

/-- Every `fclose` of the trace comes after all its other events. -/
def ClosesLast (t : List Event) : Prop :=
  ∃ body closes, t = body ++ closes ∧ (∀ e ∈ body, e.isFclose = false) ∧
    ∀ e ∈ closes, e.isFclose = true

/-- In a trace whose `fclose`s come last, nothing before an event other than `fclose` is an
`fclose`. -/
theorem ClosesLast.not_fclose_before {a b : List Event} {x : Event} (h : ClosesLast t)
    (ht : t = a ++ x :: b) (hx : x.isFclose = false) : ∀ e ∈ a, e.isFclose = false := by
  obtain ⟨body, closes, rfl, hb, hc⟩ := h
  rcases List.append_eq_append_iff.1 ht with ⟨a', rfl, hcl⟩ | ⟨c', rfl, -⟩
  · exact absurd (hc x (by simp [hcl])) (by simp [hx])
  · exact fun e he => hb e (List.mem_append_left _ he)

/-! ## A failed call stops -/

/-- The trace `t` stopped at a failed setup call: the setup calls before it, in order and each
succeeding, then the failed one, then only `fclose`s. -/
def Plan.StoppedAt (plan : Plan) (t : List Event) : Prop :=
  ∃ i c pre e post, plan.setup[i]? = some c ∧ Made (plan.setup.take i) pre ∧
    c.result e = some false ∧ t = pre ++ e :: post ∧ ∀ x ∈ post, x.isFclose = true

/-- Before the command the trace is the setup calls made so far; once a setup call has failed,
the trace has stopped at it. -/
def Plan.Halts (plan : Plan) (t : List Event) (p : Progress) : Prop :=
  match p.phase with
  | .setup i => Made (plan.setup.take i) t
  | .failed => plan.StoppedAt t
  | .sent _ | .rejected _ => True

theorem Plan.Halts.init : plan.Halts [] Progress.init := .nil

theorem Plan.Halts.step (hh : plan.Halts t p) (hs : plan.Step p e p') : plan.Halts (t ++ [e]) p' := by
  cases hs with
  | @close f _ hc =>
    cases hph : p.phase with
    | setup i => simp [hph, Phase.closing] at hc
    | failed =>
      simp only [Plan.Halts, hph] at hh ⊢
      obtain ⟨i, c, pre, e, post, hc, hm, he, rfl, hp⟩ := hh
      exact ⟨i, c, pre, e, post ++ [.fclose f], hc, hm, he, by simp,
        List.forall_mem_append.2 ⟨hp, by simp [Event.isFclose]⟩⟩
    | sent k | rejected s => simp only [Plan.Halts, hph]
  | @setupOk i _ _ _ hp hc he ha =>
    simp only [Plan.Halts, hp] at hh
    have hph : p'.phase = .setup (i + 1) := by
      rcases Progress.advance_eq_some ha with ⟨_, _, _, _, rfl⟩ | ⟨_, rfl⟩ <;> rfl
    simp only [Plan.Halts, hph, List.take_succ, hc]
    exact hh.snoc he
  | setupFailed hp hc he =>
    simp only [Plan.Halts, hp] at hh ⊢
    exact ⟨_, _, t, e, [], hc, hh, he, rfl, nofun⟩
  | @command _ s _ _ => by_cases h0 : s = 0 <;> simp [Plan.Halts, h0]
  | write => trivial

theorem Plan.halts_of_run (h : plan.run t = some p) : plan.Halts t p :=
  plan.run_induction .init (fun hh hs => hh.step hs) h

/-- An accepted call that sends no command stopped at a failed setup call. -/
theorem Plan.stoppedAt_of_accepts (h : plan.accepts r = true)
    (hc : ∀ e ∈ r.trace, e.isCommand = false) : plan.StoppedAt r.trace := by
  obtain ⟨p, hrun, hfin⟩ := Plan.accepts_eq_true h
  have hr := plan.reached_of_run hrun
  have hh := plan.halts_of_run hrun
  have sent : ∀ s pre post, r.trace ≠ pre ++ .execSecurityV2 plan.command s :: post :=
    fun s pre post ht => by simpa [Event.isCommand] using hc (.execSecurityV2 plan.command s) (by simp [ht])
  generalize r.outcome = o at hfin
  cases Plan.Ends.of_finish hfin with
  | failed hph | indeterminate hph => simpa only [Plan.Halts, hph] using hh
  | rejected hph =>
    simp only [Plan.Reached, hph] at hr
    obtain ⟨-, pre, post, ht, -⟩ := hr
    exact absurd ht (sent _ _ _)
  | success hph | invalid hph | nullDeref hph | outOfBounds hph =>
    simp only [Plan.Reached, hph] at hr
    obtain ⟨-, -, pre, post, ht, -⟩ := hr
    exact absurd ht (sent _ _ _)

end

end Htool
