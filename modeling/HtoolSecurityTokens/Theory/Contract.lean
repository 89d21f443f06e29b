import HtoolSecurityTokens.Theory.Protocol

/-!
# What a plan guarantees

Two invariants of `Plan.run`, each proved once by `Plan.run_induction`:

* `Plan.Reached`: the shape of the trace in each phase: the setup calls made so far, then at
  most one command, then the writes, each of a planned field to the stream of its sink;
* `Progress.Tracks`: the streams the machine records are those the trace opened, and the live
  ones are those opened and not closed since.

From them and the ways a call may end (`Plan.Ends`), `Plan.Contract.of_accepts`: a call that its
plan accepts keeps the contract of a token query (`Plan.Contract`); the facts about streams,
`Plan.closesOnlyOpen_of_accepts` and `Plan.closesAllAfterCommand_of_accepts`; and where undefined
behaviour can happen, `Plan.quiet_of_indeterminate`, `Plan.absent_of_nullDeref` and
`Plan.outside_of_outOfBounds`.
-/

namespace Htool

/-! ## Traces -/

/-- The trace `t` is the setup calls `cs`, each of which succeeded. -/
def Made (cs : List SetupCall) (t : List Event) : Prop :=
  List.Forall₂ (fun c e => c.result e = some true) cs t

/-- The trace has neither the command nor a write. -/
def Quiet (t : List Event) : Prop := ∀ e ∈ t, e.isCommand = false ∧ e.isWrite = false

/-- The trace opened the stream `f`. -/
def Opened (t : List Event) (f : Handle) : Prop := ∃ path, Event.fopen path (some f) ∈ t

/-- The stream that the `j`-th event of `pre` opened. -/
def streamOf (pre : List Event) (j : Nat) : Option Handle := pre[j]?.bind Event.opened

/-- Each recorded stream is the one that its setup call opened in `pre`. -/
def Streams (pre : List Event) (streams : List (Nat × Handle)) : Prop :=
  ∀ j f, (j, f) ∈ streams → streamOf pre j = some f

/-- The writes `ws` hand the fields of `fields`, in order and each whole, to the stream that its
setup call opened in `pre`. -/
def Handed (pre : List Event) (fields : List (Nat × Bytes)) (ws : List Event) : Prop :=
  List.Forall₂ (fun w e => ∃ f n, e = .fwrite f w.2 n ∧ streamOf pre w.1 = some f) fields ws

theorem Made.quiet {cs : List SetupCall} {t : List Event} (h : Made cs t) : Quiet t := by
  induction h with
  | nil => intro e he; cases he
  | cons hr _ ih =>
    intro e he
    rcases List.mem_cons.1 he with rfl | he
    · exact SetupCall.quiet_of_result hr
    · exact ih e he

theorem Made.snoc {cs : List SetupCall} {t : List Event} {c : SetupCall} {e : Event}
    (h : Made cs t) (hc : c.result e = some true) : Made (cs ++ [c]) (t ++ [e]) :=
  List.rel_append h (.cons hc .nil)

theorem Quiet.filter_command {t : List Event} (h : Quiet t) : t.filter Event.isCommand = [] :=
  List.filter_eq_nil_iff.2 fun e he => by simp [(h e he).1]

theorem Quiet.filter_write {t : List Event} (h : Quiet t) : t.filter Event.isWrite = [] :=
  List.filter_eq_nil_iff.2 fun e he => by simp [(h e he).2]

theorem Quiet.append {a b : List Event} (ha : Quiet a) (hb : Quiet b) : Quiet (a ++ b) := by
  intro e he
  rcases List.mem_append.1 he with he | he
  exacts [ha e he, hb e he]

theorem quiet_fclose (f : Handle) : Quiet [.fclose f] := by
  simp [Quiet, Event.isCommand, Event.isWrite]

theorem streamOf_append {pre : List Event} {j : Nat} {f : Handle} (post : List Event)
    (h : streamOf pre j = some f) : streamOf (pre ++ post) j = some f := by
  obtain ⟨e, he, -⟩ := Option.bind_eq_some.1 h
  have hj : j < pre.length := (List.getElem?_eq_some_iff.1 he).1
  rwa [streamOf, List.getElem?_append_left hj]

theorem streamOf_length (pre : List Event) (e : Event) :
    streamOf (pre ++ [e]) pre.length = e.opened := by
  simp [streamOf]

theorem opened_append_of_opened_none {t : List Event} {e : Event} (he : e.opened = none)
    (f : Handle) : Opened (t ++ [e]) f ↔ Opened t f := by
  simp only [Opened, List.mem_append, List.mem_singleton]
  refine exists_congr fun path => or_iff_left ?_
  rintro rfl
  cases he

theorem opened_append_fopen (t : List Event) (path : String) (g f : Handle) :
    Opened (t ++ [.fopen path (some g)]) f ↔ Opened t f ∨ f = g := by
  simp only [Opened, List.mem_append, List.mem_singleton, Event.fopen.injEq, Option.some.injEq]
  constructor
  · rintro ⟨q, h | ⟨-, rfl⟩⟩
    exacts [.inl ⟨q, h⟩, .inr rfl]
  · rintro (⟨q, h⟩ | rfl)
    exacts [⟨q, .inl h⟩, ⟨path, .inr ⟨rfl, rfl⟩⟩]

/-- A marked event `y` of `pre ++ x :: post`, where `pre` has no marked event, is `x` or lies in
`post`. -/
theorem eq_or_mem_of_append_cons {P : Event → Bool} {pre post a b : List Event} {x y : Event}
    (h : a ++ y :: b = pre ++ x :: post) (hpre : ∀ e ∈ pre, P e = false) (hy : P y) :
    (a = pre ∧ y = x ∧ b = post) ∨ ∃ mid, a = pre ++ x :: mid ∧ post = mid ++ y :: b := by
  rcases List.append_eq_append_iff.1 h with ⟨_ | ⟨z, mid⟩, rfl, h'⟩ | ⟨_ | ⟨z, mid⟩, rfl, h'⟩
  · simp only [List.nil_append, List.cons.injEq] at h'
    exact .inl ⟨(List.append_nil a).symm, h'⟩
  · simp only [List.cons_append, List.cons.injEq] at h'
    obtain ⟨rfl, -⟩ := h'
    have := hpre y (List.mem_append_right _ (List.mem_cons_self _ _))
    simp [hy] at this
  · simp only [List.nil_append, List.cons.injEq] at h'
    exact .inl ⟨List.append_nil pre, h'.1.symm, h'.2.symm⟩
  · simp only [List.cons_append, List.cons.injEq] at h'
    exact .inr ⟨mid, by rw [h'.1], h'.2⟩

/-! ## The shape of a trace -/

/-- The shape of the trace `t` that led to `p`, by phase. -/
def Plan.Reached (plan : Plan) (t : List Event) (p : Progress) : Prop :=
  match p.phase with
  | .setup i => i ≤ plan.setup.length ∧ Made (plan.setup.take i) t ∧ Streams t p.streams
  | .failed => Quiet t
  | .rejected s => s ≠ 0 ∧ ∃ pre post, t = pre ++ .execSecurityV2 plan.command s :: post ∧
      Made plan.setup pre ∧ Quiet post
  | .sent k => k ≤ plan.writes.length ∧ (0 < k → plan.valid) ∧ ∃ pre post,
      t = pre ++ .execSecurityV2 plan.command 0 :: post ∧ Made plan.setup pre ∧
      Streams pre p.streams ∧ (∀ e ∈ post, e.isCommand = false) ∧
      Handed pre (plan.writes.take k) (post.filter Event.isWrite)

section
variable {plan : Plan} {t : List Event} {p p' : Progress} {e : Event}

theorem Plan.Reached.init : plan.Reached [] Progress.init :=
  ⟨Nat.zero_le _, .nil, fun _ _ h => by cases h⟩

/-- The next setup call succeeded. -/
theorem Plan.Reached.setupOk {i : Nat} {c : SetupCall} (hp : p.phase = .setup i)
    (hr : plan.Reached t p) (hc : plan.setup[i]? = some c) (he : c.result e = some true)
    (ha : p.advance i e = some p') : plan.Reached (t ++ [e]) p' := by
  rw [Plan.Reached, hp] at hr
  obtain ⟨-, hm, hs⟩ := hr
  have hi : i < plan.setup.length := (List.getElem?_eq_some_iff.1 hc).1
  have hm' : Made (plan.setup.take (i + 1)) (t ++ [e]) := by
    rw [List.take_succ, hc]
    exact hm.snoc he
  have hlen : t.length = i := by simpa [hi.le] using hm.length_eq.symm
  rcases Progress.advance_eq_some ha with ⟨path, f, rfl, -, rfl⟩ | ⟨-, rfl⟩
  · refine ⟨hi, hm', ?_⟩
    rintro j g hj
    rcases List.mem_cons.1 hj with hj | hj
    · cases hj
      rw [← hlen, streamOf_length]
      rfl
    · exact streamOf_append _ (hs j g hj)
  · exact ⟨hi, hm', fun j g hj => streamOf_append _ (hs j g hj)⟩

/-- The next setup call failed. -/
theorem Plan.Reached.setupFailed {i : Nat} {c : SetupCall} (hp : p.phase = .setup i)
    (hr : plan.Reached t p) (he : c.result e = some false) :
    plan.Reached (t ++ [e]) { p with phase := .failed } := by
  rw [Plan.Reached, hp] at hr
  exact hr.2.1.quiet.append fun x hx => by
    rw [List.mem_singleton.1 hx]
    exact SetupCall.quiet_of_result he

/-- The command was sent after the last setup call. -/
theorem Plan.Reached.command {i : Nat} {s : Int} (hp : p.phase = .setup i)
    (hr : plan.Reached t p) (hc : plan.setup[i]? = none) :
    plan.Reached (t ++ [.execSecurityV2 plan.command s])
      { p with phase := if s = 0 then .sent 0 else .rejected s } := by
  rw [Plan.Reached, hp] at hr
  obtain ⟨-, hm, hs⟩ := hr
  rw [List.take_of_length_le (List.getElem?_eq_none_iff.1 hc)] at hm
  by_cases h0 : s = 0
  · subst h0
    exact ⟨Nat.zero_le _, nofun, t, [], rfl, hm, hs, nofun, by simp [Handed]⟩
  · simp only [Plan.Reached, h0, if_false]
    exact ⟨h0, t, [], rfl, hm, nofun⟩

/-- The next field was written. -/
theorem Plan.Reached.write {k j : Nat} {f : Handle} {data : Bytes} {n : Nat}
    (hp : p.phase = .sent k) (hr : plan.Reached t p) (hw : plan.writes[k]? = some (j, data))
    (hv : plan.valid) (hj : (j, f) ∈ p.streams) :
    plan.Reached (t ++ [.fwrite f data n]) { p with phase := .sent (k + 1) } := by
  rw [Plan.Reached, hp] at hr
  obtain ⟨-, -, pre, post, rfl, hm, hs, hc, hh⟩ := hr
  refine ⟨(List.getElem?_eq_some_iff.1 hw).1, fun _ => hv, pre, post ++ [.fwrite f data n],
    by simp, hm, hs, List.forall_mem_append.2 ⟨hc, by simp [Event.isCommand]⟩, ?_⟩
  rw [List.take_succ, hw, List.filter_append]
  exact List.rel_append hh (.cons ⟨f, n, rfl, hs j f hj⟩ .nil)

/-- A stream was closed. -/
theorem Plan.Reached.close {f : Handle} (hp : p.phase.closing) (hr : plan.Reached t p) :
    plan.Reached (t ++ [.fclose f]) { p with live := p.live.erase f } := by
  cases hph : p.phase with
  | setup i => simp [hph, Phase.closing] at hp
  | failed =>
    simp only [Plan.Reached, hph] at hr ⊢
    exact hr.append (quiet_fclose f)
  | rejected s =>
    simp only [Plan.Reached, hph] at hr ⊢
    obtain ⟨hs, pre, post, rfl, hm, hq⟩ := hr
    exact ⟨hs, pre, post ++ [.fclose f], by simp, hm, hq.append (quiet_fclose f)⟩
  | sent k =>
    simp only [Plan.Reached, hph] at hr ⊢
    obtain ⟨hk, hv, pre, post, rfl, hm, hs, hc, hh⟩ := hr
    refine ⟨hk, hv, pre, post ++ [.fclose f], by simp, hm, hs,
      List.forall_mem_append.2 ⟨hc, by simp [Event.isCommand]⟩, ?_⟩
    simpa [Event.isWrite] using hh

theorem Plan.Reached.step (hr : plan.Reached t p) (hs : plan.Step p e p') :
    plan.Reached (t ++ [e]) p' := by
  cases hs with
  | close _ hc => exact hr.close hc
  | setupOk hp hc he ha => exact hr.setupOk hp hc he ha
  | setupFailed hp _ he => exact hr.setupFailed hp he
  | command hp hc => exact hr.command hp hc
  | write hp hw hv hj => exact hr.write hp hw hv hj

theorem Plan.reached_of_run (h : plan.run t = some p) : plan.Reached t p :=
  plan.run_induction .init (fun hr hs => hr.step hs) h

/-! ## The streams -/

/-- What the machine records of the streams of the trace `t`: its streams are those `t` opened,
its live streams are those `t` opened and has not closed, each once, and `t` closed only streams
it opened. -/
structure Progress.Tracks (t : List Event) (p : Progress) : Prop where
  streams : ∀ f, f ∈ p.streams.map Prod.snd ↔ Opened t f
  nodup : p.live.Nodup
  live : ∀ f, f ∈ p.live ↔ Opened t f ∧ .fclose f ∉ t
  closed : ∀ f, .fclose f ∈ t → Opened t f

theorem Progress.Tracks.init : Progress.init.Tracks [] where
  streams f := by simp [Progress.init, Opened]
  nodup := List.nodup_nil
  live f := by simp [Progress.init, Opened]
  closed _ h := by cases h

/-- An event that neither opens nor closes a stream. -/
theorem Progress.Tracks.other (h : p.Tracks t) (ho : e.opened = none) (hc : ∀ f, e ≠ .fclose f)
    (ph : Phase) : { p with phase := ph }.Tracks (t ++ [e]) := by
  have hcl : ∀ f, Event.fclose f ∈ t ++ [e] ↔ Event.fclose f ∈ t := fun f => by
    simp only [List.mem_append, List.mem_singleton, or_iff_left (Ne.symm (hc f))]
  exact ⟨fun f => (h.streams f).trans (opened_append_of_opened_none ho f).symm, h.nodup,
    fun f => by rw [h.live f, opened_append_of_opened_none ho, hcl],
    fun f hf => (opened_append_of_opened_none ho f).2 (h.closed f ((hcl f).1 hf))⟩

/-- A new stream is opened. -/
theorem Progress.Tracks.fopen {f : Handle} (h : p.Tracks t) (hf : f ∉ p.streams.map Prod.snd)
    (path : String) (i : Nat) :
    (⟨.setup (i + 1), (i, f) :: p.streams, f :: p.live⟩ : Progress).Tracks
      (t ++ [.fopen path (some f)]) := by
  have hcl : ∀ g, Event.fclose g ∈ t ++ [.fopen path (some f)] ↔ Event.fclose g ∈ t := fun g => by
    simp
  have hnew : ¬Opened t f := fun ho => hf ((h.streams f).2 ho)
  refine ⟨fun g => ?_, List.nodup_cons.2 ⟨fun hl => hnew ((h.live f).1 hl).1, h.nodup⟩,
    fun g => ?_, fun g hg => (opened_append_fopen ..).2 (.inl (h.closed g ((hcl g).1 hg)))⟩
  · rw [opened_append_fopen, ← h.streams g]
    simp [or_comm]
  · rw [List.mem_cons, h.live g, opened_append_fopen, hcl]
    constructor
    · rintro (rfl | ⟨ho, hn⟩)
      exacts [⟨.inr rfl, fun hc => hnew (h.closed _ hc)⟩, ⟨.inl ho, hn⟩]
    · rintro ⟨ho | rfl, hn⟩
      exacts [.inr ⟨ho, hn⟩, .inl rfl]

/-- A live stream is closed. -/
theorem Progress.Tracks.close {f : Handle} (h : p.Tracks t) (hf : f ∈ p.live) :
    { p with live := p.live.erase f }.Tracks (t ++ [Event.fclose f]) := by
  have ho := opened_append_of_opened_none (t := t) (e := .fclose f) rfl
  refine ⟨fun g => (h.streams g).trans (ho g).symm, h.nodup.erase f, fun g => ?_, fun g hg => ?_⟩
  · rw [h.nodup.mem_erase_iff, h.live g, ho]
    simp only [List.mem_append, List.mem_singleton, Event.fclose.injEq]
    tauto
  · rw [ho]
    rcases List.mem_append.1 hg with hg | hg
    · exact h.closed g hg
    · cases List.mem_singleton.1 hg
      exact ((h.live f).1 hf).1

theorem Progress.Tracks.step (h : p.Tracks t) (hs : plan.Step p e p') : p'.Tracks (t ++ [e]) := by
  cases hs with
  | close hf _ => exact h.close hf
  | setupOk _ _ he ha =>
    rcases Progress.advance_eq_some ha with ⟨path, f, rfl, hf, rfl⟩ | ⟨ho, rfl⟩
    · exact h.fopen hf path _
    · exact h.other ho (fun f hf => by simp [hf] at he) _
  | setupFailed _ _ he =>
    exact h.other (SetupCall.opened_of_result_false he) (fun f hf => by simp [hf] at he) _
  | command => exact h.other (by rfl) (fun _ h => by cases h) _
  | write => exact h.other (by rfl) (fun _ h => by cases h) _

theorem Plan.tracks_of_run (h : plan.run t = some p) : p.Tracks t :=
  plan.run_induction .init (fun hr hs => hr.step hs) h

end

/-! ## The contract of a token query -/

/-- What a token query promises about a finished call `r`, for its plan. -/
structure Plan.Contract (plan : Plan) (r : Run) : Prop where
  /-- The command is sent only once every setup call has succeeded, and it is the plan's. -/
  command_after_setup : ∀ pre cmd s post, r.trace = pre ++ .execSecurityV2 cmd s :: post →
    cmd = plan.command ∧ Made plan.setup pre
  /-- The command is sent at most once. -/
  command_once : (r.trace.filter Event.isCommand).length ≤ 1
  /-- A call that returns without sending the command returns -1. -/
  unsent : r.trace.filter Event.isCommand = [] → ∀ v, r.outcome = .returned v → v = -1
  /-- A non-zero status of the command is what the call returns. -/
  rejected : ∀ pre cmd s post, r.trace = pre ++ .execSecurityV2 cmd s :: post → s ≠ 0 →
    r.outcome = .returned s
  /-- Nothing is written before the command has returned 0 with a reply that passes the
  query's checks. -/
  writes_after_success : ∀ a e b, r.trace = a ++ e :: b → e.isWrite →
    plan.valid ∧ ∃ pre mid, a = pre ++ .execSecurityV2 plan.command 0 :: mid
  /-- The call returns 0 only when every stage succeeded, and then its writes hand each planned
  field, whole, to the stream of its sink. -/
  success : r.outcome = .returned 0 → plan.valid ∧ ∃ pre post,
    r.trace = pre ++ .execSecurityV2 plan.command 0 :: post ∧ Made plan.setup pre ∧
    Handed pre plan.writes (r.trace.filter Event.isWrite)

theorem mem_of_eq_append_cons {t a b : List Event} {e : Event} (h : t = a ++ e :: b) : e ∈ t := by
  simp [h]

/-- A command in a trace with one command is that one. -/
theorem command_unique {t pre post a b : List Event} {x : Event} {cmd : Command} {s : Int}
    (ht : t = pre ++ x :: post) (hpre : Quiet pre) (hpost : ∀ e ∈ post, e.isCommand = false)
    (h : t = a ++ .execSecurityV2 cmd s :: b) : a = pre ∧ Event.execSecurityV2 cmd s = x := by
  rcases eq_or_mem_of_append_cons (P := Event.isCommand) (h.symm.trans ht)
    (fun e he => (hpre e he).1) rfl with ⟨ha, hx, -⟩ | ⟨mid, -, rfl⟩
  · exact ⟨ha, hx⟩
  · exact absurd (hpost (.execSecurityV2 cmd s) (by simp)) (by simp [Event.isCommand])

/-- A write in a trace whose setup calls precede the command comes after the command. -/
theorem write_after {t pre post a b : List Event} {x e : Event} (ht : t = pre ++ x :: post)
    (hpre : Quiet pre) (hx : x.isWrite = false) (h : t = a ++ e :: b) (hw : e.isWrite) :
    ∃ mid, a = pre ++ x :: mid ∧ post = mid ++ e :: b := by
  rcases eq_or_mem_of_append_cons (P := Event.isWrite) (h.symm.trans ht)
    (fun e he => (hpre e he).2) hw with ⟨-, rfl, -⟩ | hm
  · simp [hx] at hw
  · exact hm

theorem filter_command_eq {pre post : List Event} {cmd : Command} {s : Int} (hpre : Quiet pre)
    (hpost : ∀ e ∈ post, e.isCommand = false) :
    (pre ++ .execSecurityV2 cmd s :: post).filter Event.isCommand = [.execSecurityV2 cmd s] := by
  rw [List.filter_append, hpre.filter_command, List.filter_cons,
    List.filter_eq_nil_iff.2 fun e he => by simp [hpost e he]]
  rfl

theorem filter_write_eq {pre post : List Event} {cmd : Command} {s : Int} (hpre : Quiet pre) :
    (pre ++ .execSecurityV2 cmd s :: post).filter Event.isWrite = post.filter Event.isWrite := by
  rw [List.filter_append, hpre.filter_write, List.filter_cons]
  rfl

section
variable {plan : Plan} {r : Run}

/-- A call that failed before its command, and returns only -1. -/
theorem Plan.Contract.of_failed (hq : Quiet r.trace)
    (hv : ∀ v, r.outcome = .returned v → v = -1) : plan.Contract r where
  command_after_setup _ _ _ _ ht :=
    absurd (hq _ (mem_of_eq_append_cons ht)).1 (by simp [Event.isCommand])
  command_once := by simp [hq.filter_command]
  unsent _ := hv
  rejected _ _ _ _ ht := absurd (hq _ (mem_of_eq_append_cons ht)).1 (by simp [Event.isCommand])
  writes_after_success _ _ _ ht hw := absurd (hq _ (mem_of_eq_append_cons ht)).2 (by simp [hw])
  success h := absurd (hv 0 h) (by decide)

/-- A call whose command returned the non-zero `s`, and that returns `s`. -/
theorem Plan.Contract.of_rejected {s : Int} {pre post : List Event} (hs : s ≠ 0)
    (ht : r.trace = pre ++ .execSecurityV2 plan.command s :: post) (hm : Made plan.setup pre)
    (hq : Quiet post) (hv : r.outcome = .returned s) : plan.Contract r := by
  have hc : ∀ e ∈ post, e.isCommand = false := fun e he => (hq e he).1
  refine ⟨fun a cmd s' b h => ?_, by simp [ht, filter_command_eq hm.quiet hc],
    fun h => by simp [ht, filter_command_eq hm.quiet hc] at h, fun a cmd s' b h _ => ?_,
    fun a e b h hw => ?_, fun h => absurd (Outcome.returned.inj (hv.symm.trans h)) hs⟩
  · obtain ⟨rfl, hx⟩ := command_unique ht hm.quiet hc h
    cases hx
    exact ⟨rfl, hm⟩
  · obtain ⟨-, hx⟩ := command_unique ht hm.quiet hc h
    cases hx
    exact hv
  · obtain ⟨mid, -, rfl⟩ := write_after ht hm.quiet rfl h hw
    exact absurd (hq e (by simp)).2 (by simp [hw])

/-- A call whose command returned 0, after which it wrote the first `k` fields. -/
theorem Plan.Contract.of_sent {k : Nat} {pre post : List Event}
    (ht : r.trace = pre ++ .execSecurityV2 plan.command 0 :: post) (hm : Made plan.setup pre)
    (hc : ∀ e ∈ post, e.isCommand = false) (hk : 0 < k → plan.valid)
    (hh : Handed pre (plan.writes.take k) (post.filter Event.isWrite))
    (hv : ∀ v, r.outcome = .returned v → plan.valid → v = 0 ∧ k = plan.writes.length)
    (hi : ∀ v, r.outcome = .returned v → plan.valid = false → v = -1) : plan.Contract r := by
  refine ⟨fun a cmd s b h => ?_, by simp [ht, filter_command_eq hm.quiet hc],
    fun h => by simp [ht, filter_command_eq hm.quiet hc] at h, fun a cmd s b h hs => ?_,
    fun a e b h hw => ?_, fun h => ?_⟩
  · obtain ⟨rfl, hx⟩ := command_unique ht hm.quiet hc h
    cases hx
    exact ⟨rfl, hm⟩
  · obtain ⟨-, hx⟩ := command_unique ht hm.quiet hc h
    cases hx
    exact absurd rfl hs
  · obtain ⟨mid, rfl, rfl⟩ := write_after ht hm.quiet rfl h hw
    refine ⟨hk ?_, pre, mid, rfl⟩
    have hlen := hh.length_eq
    have : 0 < (List.filter Event.isWrite (mid ++ e :: b)).length :=
      List.length_pos_of_mem (a := e) (by simp [hw])
    simp only [List.length_take] at hlen
    omega
  · cases hval : plan.valid
    · exact absurd (hi 0 h hval) (by decide)
    · obtain ⟨-, rfl⟩ := hv 0 h hval
      rw [List.take_of_length_le le_rfl] at hh
      exact ⟨rfl, pre, post, ht, hm, by rwa [ht, filter_write_eq hm.quiet]⟩

/-- A call that its plan accepts keeps the contract of a token query. -/
theorem Plan.Contract.of_accepts (h : plan.accepts r = true) : plan.Contract r := by
  obtain ⟨p, hrun, hfin⟩ := Plan.accepts_eq_true h
  have hr := plan.reached_of_run hrun
  generalize ho : r.outcome = o at hfin
  cases Plan.Ends.of_finish hfin with
  | failed hph | indeterminate hph =>
    simp only [Plan.Reached, hph] at hr
    exact .of_failed hr fun v hv => by cases ho.symm.trans hv <;> rfl
  | rejected hph =>
    simp only [Plan.Reached, hph] at hr
    obtain ⟨hs, pre, post, ht, hm, hq⟩ := hr
    exact .of_rejected hs ht hm hq ho
  | success hph | invalid hph | nullDeref hph | outOfBounds hph =>
    simp only [Plan.Reached, hph] at hr
    obtain ⟨-, hk, pre, post, ht, hm, -, hc, hh⟩ := hr
    exact .of_sent ht hm hc hk hh (fun v hv _ => by cases ho.symm.trans hv <;> simp_all)
      (fun v hv _ => by cases ho.symm.trans hv <;> simp_all)

/-! ## Streams and undefined behaviour -/

theorem Plan.Step.fclose_live {p p' : Progress} {f : Handle} (h : plan.Step p (.fclose f) p') :
    f ∈ p.live := by
  cases h with
  | close hf _ => exact hf
  | setupOk _ _ he _ => simp at he
  | setupFailed _ _ he => simp at he

/-- Every `fclose` of the trace closes a stream that the trace opened before it and has not
closed since. -/
def ClosesOnlyOpen (t : List Event) : Prop :=
  ∀ a f b, t = a ++ .fclose f :: b → Opened a f ∧ .fclose f ∉ a

/-- A call that sent its command and returned has closed every stream it opened. -/
def ClosesAllAfterCommand (r : Run) : Prop :=
  (∃ cmd s, Event.execSecurityV2 cmd s ∈ r.trace) → ∀ v, r.outcome = .returned v →
    ∀ f, Opened r.trace f → .fclose f ∈ r.trace

theorem Plan.closesOnlyOpen_of_accepts (h : plan.accepts r = true) : ClosesOnlyOpen r.trace := by
  intro a f b ht
  obtain ⟨p, hrun, -⟩ := Plan.accepts_eq_true h
  rw [ht, ← List.singleton_append, ← List.append_assoc] at hrun
  obtain ⟨q, hq⟩ := Plan.run_of_append hrun
  rw [Plan.run_append_singleton] at hq
  obtain ⟨p₀, h₀, hs⟩ := Option.bind_eq_some.1 hq
  exact ((Plan.tracks_of_run h₀).live f).1 (Plan.Step.of_step hs).fclose_live

theorem Plan.closesAllAfterCommand_of_accepts (h : plan.accepts r = true) :
    ClosesAllAfterCommand r := by
  rintro ⟨cmd, s, hc⟩ v hv f hf
  obtain ⟨p, hrun, hfin⟩ := Plan.accepts_eq_true h
  rw [hv] at hfin
  have hlive : p.live = [] := by
    cases Plan.Ends.of_finish hfin with
    | failed hph =>
      have hr := plan.reached_of_run hrun
      simp only [Plan.Reached, hph] at hr
      exact absurd (hr _ hc).1 (by simp [Event.isCommand])
    | rejected _ hl | success _ _ hl | invalid _ _ hl => exact hl
  by_contra hn
  simpa [hlive] using ((Plan.tracks_of_run hrun).live f).2 ⟨hf, hn⟩

/-- An accepted call returns 0, -1, or the non-zero status that its command returned. -/
theorem Plan.returned_of_accepts (h : plan.accepts r = true) {v : Int}
    (hv : r.outcome = .returned v) :
    v = 0 ∨ v = -1 ∨ v ≠ 0 ∧ ∃ cmd, Event.execSecurityV2 cmd v ∈ r.trace := by
  obtain ⟨p, hrun, hfin⟩ := Plan.accepts_eq_true h
  rw [hv] at hfin
  cases Plan.Ends.of_finish hfin with
  | success => exact .inl rfl
  | failed | invalid => exact .inr (.inl rfl)
  | rejected hph =>
    have hr := plan.reached_of_run hrun
    simp only [Plan.Reached, hph] at hr
    obtain ⟨hs, pre, post, ht, -, -⟩ := hr
    exact .inr (.inr ⟨hs, plan.command, by simp [ht]⟩)

/-- An accepted call reads an indeterminate `FILE*` only after a setup call failed: it sent no
command and wrote nothing. -/
theorem Plan.quiet_of_indeterminate (h : plan.accepts r = true) {var : String}
    (hv : r.outcome = .undefined (.indeterminate var)) : Quiet r.trace := by
  obtain ⟨p, hrun, hfin⟩ := Plan.accepts_eq_true h
  rw [hv] at hfin
  cases Plan.Ends.of_finish hfin with
  | indeterminate hph => simpa only [Plan.Reached, hph] using plan.reached_of_run hrun

/-- An accepted call dereferences `NULL` only when the reply passed the checks and left out a
handle the query reads. -/
theorem Plan.absent_of_nullDeref (h : plan.accepts r = true) {var : String}
    (hv : r.outcome = .undefined (.nullDeref var)) : plan.valid ∧ plan.present = false := by
  obtain ⟨p, -, hfin⟩ := Plan.accepts_eq_true h
  rw [hv] at hfin
  cases Plan.Ends.of_finish hfin with
  | nullDeref _ hval hp => exact ⟨hval, hp⟩

/-- An accepted call reads past the response buffer only when the reply passed the checks and
placed a handle outside the buffer. -/
theorem Plan.outside_of_outOfBounds (h : plan.accepts r = true) {var : String}
    (hv : r.outcome = .undefined (.outOfBounds var)) : plan.valid ∧ plan.inBounds = false := by
  obtain ⟨p, -, hfin⟩ := Plan.accepts_eq_true h
  rw [hv] at hfin
  cases Plan.Ends.of_finish hfin with
  | outOfBounds _ hval hb => exact ⟨hval, hb⟩

/-- An accepted call of a plan whose reply leaves out no handle and places every handle inside
the buffer has no undefined behaviour but reading an indeterminate `FILE*`. -/
theorem Plan.indeterminate_of_undefined (h : plan.accepts r = true) (hp : plan.present)
    (hb : plan.inBounds) {u : UB} (hu : r.outcome = .undefined u) : ∃ var, u = .indeterminate var := by
  rcases u with var | var | var
  · exact ⟨var, rfl⟩
  · simpa [hp] using (Plan.absent_of_nullDeref h hu).2
  · simpa [hb] using (Plan.outside_of_outOfBounds h hu).2

/-- An accepted call whose command returned 0 with a reply that fails the query's checks returns
-1 and writes nothing. -/
theorem Plan.returns_of_invalid (h : plan.accepts r = true) (hval : plan.valid = false)
    (hc : Event.execSecurityV2 plan.command 0 ∈ r.trace) :
    r.outcome = .returned (-1) ∧ r.trace.filter Event.isWrite = [] := by
  obtain ⟨p, hrun, hfin⟩ := Plan.accepts_eq_true h
  have hr := plan.reached_of_run hrun
  generalize ho : r.outcome = o at hfin
  cases Plan.Ends.of_finish hfin with
  | failed hph | indeterminate hph =>
    simp only [Plan.Reached, hph] at hr
    simpa [Event.isCommand] using (hr _ hc).1
  | rejected hph =>
    simp only [Plan.Reached, hph] at hr
    obtain ⟨hs, pre, post, ht, hm, hq⟩ := hr
    obtain ⟨a, b, hab⟩ := List.append_of_mem hc
    obtain ⟨-, hx⟩ := command_unique ht hm.quiet (fun e he => (hq e he).1) hab
    cases hx
    exact absurd rfl hs
  | success _ hv | nullDeref _ hv | outOfBounds _ hv => simp [hval] at hv
  | invalid hph =>
    simp only [Plan.Reached, hph] at hr
    obtain ⟨-, -, pre, post, ht, hm, -, -, hh⟩ := hr
    simp only [List.take_zero, Handed, List.forall₂_nil_left_iff] at hh
    exact ⟨rfl, by rw [ht, filter_write_eq hm.quiet, hh]⟩

end

end Htool
