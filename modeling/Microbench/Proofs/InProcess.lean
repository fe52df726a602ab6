import Microbench.Proofs.Bracket
import Microbench.Proofs.Conduct
import Microbench.Proofs.Rounds

/-!
Cycles in this process. What a failure leads to is the same wherever it comes from: a notice, and the end
of the run if failures are to stop it. A cycle in this process is its script, then a result that is merged
or the notice of a failure (`Harness.runEmbedded_goes`).
-/

namespace Microbench

variable {σ α : Type}

/-- What the sink refuses something with is no failure of a benchmark, of a worker or of the link. -/
def Sink.Plain (sink : Sink σ) : Prop := ∀ f, sink.Refuses f → f.isReported = false

theorem Sink.plain_of_takes {sink : Sink σ} (takes : ∀ e, sink.Takes e) : sink.Plain :=
  fun f refused => absurd refused (Sink.not_refuses takes f)

namespace Action

def round? : Action → Option Round
  | executed d _ kind index => some ⟨d, kind, index⟩
  | _ => none

def launched? : Action → Option WorkerArgs
  | launched args => some args
  | _ => none

def IsOuter (a : Action) : Prop := a.round? = none ∧ a.launched? = none ∧ a.report? = none

theorem IsCycle.launched? {a : Action} (h : a.IsCycle) : a.launched? = none := by
  cases a with
  | launched => exact h.elim
  | _ => rfl

theorem IsCycle.report? {a : Action} (h : a.IsCycle) : a.report? = none := by
  cases a with
  | merged => exact h.elim
  | _ => rfl

theorem IsServed.launched? {a : Action} (h : a.IsServed) : a.launched? = none := by
  cases a with
  | launched => exact h.elim
  | _ => rfl

theorem IsServed.round? {a : Action} (h : a.IsServed) : a.round? = none := by
  cases a with
  | executed => exact h.elim
  | _ => rfl

end Action

/-- The iterations that the executor of this process was asked for, in order. -/
def World.rounds (w : World σ) : List Round := w.trace.toList.filterMap Action.round?

def Deed.action (d : Descriptor) (p : Params) : Deed → Action
  | tell c => .told (.call c) none
  | execute kind index => .executed d p kind index

namespace Script

variable (d : Descriptor) (p : Params)

def actions (s : Script α) : List Action := s.deeds.map (Deed.action d p)

theorem play_goes (sink : Sink σ) (s : Script α) (w : World σ) :
    (s.play sink d p).Goes sink w fun outcome actions =>
      outcome = s.outcome ∧ actions = s.actions d p := by
  obtain ⟨deeds, outcome⟩ := s
  induction deeds generalizing w with
  | nil => exact .settle ⟨rfl, rfl⟩
  | cons deed deeds ih =>
    have step : (Script.mk (deed :: deeds) outcome).play sink d p =
        deed.act sink d p >>= fun _ => (Script.mk deeds outcome).play sink d p := by
      simp [play]
    have rest (w' : World σ) : ((Script.mk deeds outcome).play sink d p).Goes sink w'
        fun o bs => o = outcome ∧ deed.action d p :: bs = (deed :: deeds).map (Deed.action d p) := by
      refine (ih w').mono ?_
      rintro o bs ⟨rfl, rfl⟩
      exact ⟨rfl, rfl⟩
    rw [step]
    cases deed with
    | tell c => exact .after (.tell ⟨rfl, rfl⟩) fun _ => rest _
    | execute kind index => exact .after (.note rfl) fun _ => rest _

theorem rounds_actions (s : Script α) : (s.actions d p).filterMap Action.round? = s.rounds d := by
  rw [actions, List.filterMap_map, rounds]
  refine congrArg (List.filterMap · s.deeds) (funext fun deed => ?_)
  cases deed <;> rfl

theorem isCycle_of_mem {s : Script α} : ∀ a ∈ s.actions d p, a.IsCycle := by
  intro a ha
  obtain ⟨deed, -, rfl⟩ := List.mem_map.1 ha
  cases deed <;> trivial

end Script

def Failure.notice : Failure → List Action
  | workerExit d code => [
      .logged ⟨.warn, s!"WARNING: Forked process returned code: {code}" ++ " for " ++ d.text, none⟩,
      .told (.call (.println s!"WARNING: Forked process returned code: {code}")) none]
  | f =>
    if f.isReported then
      [.logged ⟨.warn, f.message, none⟩, .told (.call (.exception f.message)) none]
    else []

theorem Failure.isOuter_of_mem_notice {f : Failure} : ∀ a ∈ f.notice, a.IsOuter := by
  intro a ha
  unfold Failure.notice at ha
  split at ha
  · simp only [List.mem_cons, List.not_mem_nil, or_false] at ha
    rcases ha with rfl | rfl <;> exact ⟨rfl, rfl, rfl⟩
  · split at ha
    · simp only [List.mem_cons, List.not_mem_nil, or_false] at ha
      rcases ha with rfl | rfl <;> exact ⟨rfl, rfl, rfl⟩
    · contradiction

namespace Harness

variable (h : Harness σ) (d : Descriptor) (p : Params)

/-- What a failure comes to: those that are not reported stop the run, the others only if they are to. -/
def verdict : Option Failure → Except Failure Unit
  | none => .ok ()
  | some f => if f.isReported && !f.isFatal h.options.failOnError then .ok () else .error f

theorem report_goes (f : Failure) (w : World σ) : (h.report f).Goes h.sink w fun outcome actions =>
    outcome = (if f.isFatal h.options.failOnError then .error f else .ok ()) ∧
      actions = [.logged ⟨.warn, f.message, none⟩, .told (.call (.exception f.message)) none] := by
  refine .after (.log _ _) fun _ => .after (.tell ⟨rfl, rfl⟩) fun _ => ?_
  split
  · exact .throw ⟨rfl, rfl⟩
  · exact .pure ⟨rfl, rfl⟩

def cycle : Script (Option Run) := Cycle.script h.executor h.options.detailed d p

def cycleActions : List Action :=
  (h.cycle d p).actions d p ++ match (h.cycle d p).outcome with
    | .ok (some run) => [.merged d run]
    | .ok none => []
    | .error f => f.notice

theorem cycle_goes (w : World σ) : (Cycle.run h.setting d p).Goes h.sink w fun outcome actions =>
    outcome = (h.cycle d p).outcome ∧ actions = (h.cycle d p).actions d p := by
  rw [Cycle.run_eq_play]
  exact Script.play_goes d p h.sink _ w

/-- A cycle in this process goes its way, unless the sink refuses something. -/
theorem runEmbedded_goes (plain : h.sink.Plain) (w : World σ) :
    (h.runEmbedded d p).Goes h.sink w fun outcome actions =>
      outcome = h.verdict (h.cycle d p).failure? ∧ actions = h.cycleActions d p := by
  rcases ran : (Cycle.run h.setting d p).run w with ⟨result, w'⟩
  have attempted : (Act.attempt (Cycle.run h.setting d p)).run w = (.ok result, w') := by
    rw [Act.run_attempt, ran]
  have goes := h.cycle_goes d p w
  rw [Act.Goes, ran] at goes
  rcases goes with ⟨actions, continued, same, rfl⟩ | ⟨f, refused, failed⟩
  · have first : (Act.attempt (Cycle.run h.setting d p)).Goes h.sink w fun outcome actions =>
        outcome = .ok result ∧ actions = (h.cycle d p).actions d p := .of_run attempted continued ⟨rfl, rfl⟩
    refine first.after fun {w''} _ => ?_
    unfold cycleActions Script.failure?
    rcases Cycle.script_ends (h.cycle d p) rfl with ⟨outcome, -⟩ | ⟨run, outcome, -⟩ |
      ⟨reason, outcome, -⟩ | ⟨outcome, -⟩
    all_goals
      rw [outcome] at same ⊢
      subst same
    · exact .pure ⟨rfl, rfl⟩
    · refine (Act.Goes.merge d run).mono ?_
      rintro outcome actions ⟨rfl, rfl⟩
      exact ⟨rfl, rfl⟩
    · refine (h.report_goes (.benchmarkFailed d reason) w'').mono ?_
      rintro outcome actions ⟨rfl, rfl⟩
      refine ⟨?_, rfl⟩
      cases fatal : (Failure.benchmarkFailed d reason).isFatal h.options.failOnError <;>
        simp [verdict, Failure.isReported, Failure.root, fatal]
    · exact .throw ⟨rfl, by simp [Failure.notice, Failure.isReported, Failure.root]⟩
  · -- The refusal comes back from the cycle as its failure, and is none that is reported.
    obtain rfl : result = .error f := failed
    refine .inr ⟨f, refused, ?_⟩
    rw [runEmbedded, Act.run_bind_ok attempted]
    simp only [plain f refused]
    rfl

section Actions

/-- What stands behind the script in what is noted of a cycle. -/
theorem cycleActions_eq : ∃ closing, h.cycleActions d p = (h.cycle d p).actions d p ++ closing ∧
    closing.filterMap Action.report? = (h.cycle d p).reports d ∧
    ∀ a ∈ closing, a.round? = none ∧ a.launched? = none := by
  refine ⟨_, rfl, ?_⟩
  rcases Cycle.script_ends (h.cycle d p) rfl with ⟨outcome, -, reports⟩ | ⟨run, outcome, -, reports⟩ |
    ⟨reason, outcome, -, reports⟩ | ⟨outcome, -, reports⟩
  all_goals rw [outcome, reports]
  · simp
  · simp [Action.report?, Action.round?, Action.launched?]
  · simp [Failure.notice, Failure.isReported, Failure.root, Action.report?, Action.round?,
      Action.launched?]
  · simp [Failure.notice, Failure.isReported, Failure.root]

theorem reports_cycleActions :
    (h.cycleActions d p).filterMap Action.report? = (h.cycle d p).reports d := by
  obtain ⟨closing, all, reports, -⟩ := h.cycleActions_eq d p
  have none : ((h.cycle d p).actions d p).filterMap Action.report? = [] :=
    List.filterMap_eq_nil_iff.2 fun a ha => (Script.isCycle_of_mem d p a ha).report?
  rw [all, List.filterMap_append, none, reports, List.nil_append]

/-- The rounds of a cycle are those that it plans, up to the first that fails. -/
theorem rounds_cycleActions : (h.cycleActions d p).filterMap Action.round? =
    upTo (h.executor.failure? p) (p.rounds d) := by
  obtain ⟨closing, all, -, quiet⟩ := h.cycleActions_eq d p
  have none : closing.filterMap Action.round? = [] :=
    List.filterMap_eq_nil_iff.2 fun a ha => (quiet a ha).1
  rw [all, List.filterMap_append, Script.rounds_actions, none, List.append_nil]
  exact (Cycle.script_tries h.executor h.options.detailed d p).rounds

theorem launched_cycleActions : ∀ a ∈ h.cycleActions d p, a.launched? = none := by
  obtain ⟨closing, all, -, quiet⟩ := h.cycleActions_eq d p
  intro a ha
  rw [all] at ha
  rcases List.mem_append.1 ha with own | last
  · exact (Script.isCycle_of_mem d p a own).launched?
  · exact (quiet a last).2

theorem failure_cycle : (h.cycle d p).failure? = (p.rounds d).findSome? (h.executor.failure? p) :=
  (Cycle.script_tries h.executor h.options.detailed d p).failure

theorem reports_cycle_of_failed {r : Round} (hr : r ∈ p.rounds d)
    (failed : (h.executor.failure? p r).isSome) : (h.cycle d p).reports d = [] := by
  have some : (h.cycle d p).failure?.isSome := by
    rw [failure_cycle, List.isSome_findSome?]
    exact List.any_eq_true.2 ⟨r, hr, failed⟩
  unfold Script.failure? at some
  unfold Script.reports
  split at some
  · contradiction
  · rename_i failure
    rw [failure]

theorem reports_cycle_of_unmeasured {p : Params} (unmeasured : p.measurement.count = 0) :
    (h.cycle d p).reports d = [] := by
  unfold Script.reports
  split
  · rename_i run outcome
    have := Cycle.eq_none_of_unmeasured unmeasured outcome
    contradiction
  · rfl

end Actions

end Harness

end Microbench
