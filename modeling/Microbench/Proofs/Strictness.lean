import Microbench.Proofs.Trials

/-!
Runs that stop at the first failure. What can fail in a run are the iterations in this process and the
workers, in the order of the schedule; the first of them that fails is the last that is tried.
-/

namespace Microbench

variable {σ : Type}

/-- What can fail in a run: an iteration in this process, or a worker with the number of those before it. -/
inductive Ask where
  | iteration (round : Round) (params : Params)
  | worker (fork : Fork) (number : Nat)

namespace Ask

def descriptor : Ask → Descriptor
  | iteration r _ => r.descriptor
  | worker f _ => f.descriptor

def action (port : UInt16) : Ask → Action
  | iteration r p => .executed r.descriptor p r.kind r.index
  | worker f _ => .launched (f.args port)

end Ask

def Action.isAsk (a : Action) : Bool := a.round?.isSome || a.launched?.isSome

theorem Action.IsOuter.not_ask {a : Action} (outer : a.IsOuter) : a.isAsk = false := by
  simp [isAsk, outer.1, outer.2.1]

theorem Action.IsServed.not_ask {a : Action} (served : a.IsServed) : a.isAsk = false := by
  simp [isAsk, served.round?, served.launched?]

def Trial.asks : Trial → List Ask
  | cycle d p => (p.rounds d).map (.iteration · p)
  | fork f n => [.worker f n]

/-- The first element of a list that has a property is where the list is split by it. -/
theorem eq_of_append_cons {α : Type} {fails : α → Bool} {xs ys xs' ys' : List α} {x x' : α}
    (same : xs ++ x :: ys = xs' ++ x' :: ys') (fine : ∀ y ∈ xs, fails y = false) (failed : fails x = true)
    (fine' : ∀ y ∈ xs', fails y = false) (failed' : fails x' = true) : xs = xs' ∧ x = x' := by
  induction xs generalizing xs' with
  | nil =>
    cases xs' with
    | nil => exact ⟨rfl, (List.cons.inj same).1⟩
    | cons y xs' =>
      obtain ⟨rfl, -⟩ := List.cons.inj same
      simp [fine' x List.mem_cons_self] at failed
  | cons y xs ih =>
    cases xs' with
    | nil =>
      obtain ⟨rfl, -⟩ := List.cons.inj same
      simp [fine y List.mem_cons_self] at failed'
    | cons y' xs' =>
      obtain ⟨rfl, rest⟩ := List.cons.inj same
      obtain ⟨rfl, rfl⟩ := ih rest (fun z hz => fine z (List.mem_cons_of_mem y hz))
        fun z hz => fine' z (List.mem_cons_of_mem y hz)
      exact ⟨rfl, rfl⟩

namespace Script

variable {α : Type} (d : Descriptor) (p : Params)

theorem asks_actions (deeds : List Deed) (outcome : Except Failure α) (port : UInt16) :
    (deeds.map (Deed.action d p)).filter Action.isAsk =
      (((Script.mk deeds outcome).rounds d).map (Ask.iteration · p)).map (Ask.action port) := by
  induction deeds with
  | nil => rfl
  | cons deed deeds ih => cases deed <;> simpa [Script.rounds, Deed.action, Action.isAsk, Action.round?,
      Action.launched?, Ask.action] using ih

end Script

namespace Harness

variable (h : Harness σ) (plan : Plan) (port : UInt16)

/-- Everything that can fail in a run, in order. -/
def schedule : List Ask :=
  (h.cycles plan).flatMap (fun (d, p) => (p.rounds d).map (.iteration · p)) ++
    (h.forks plan).zipIdx.map fun (f, n) => .worker f n

/-- How something fails, if it does. -/
def fault? : Ask → Option Failure
  | .iteration r p => h.executor.failure? p r
  | .worker f n => (h.launch port f n).failure? f.descriptor

/-- What is done for a worker that was started; nothing is done for an iteration. -/
def Handled : Ask → List Action → Prop
  | .iteration .., served => served = []
  | .worker f n, served => h.Served (h.launch port f n) served

theorem schedule_eq : h.schedule plan = (h.trials plan).flatMap Trial.asks := by
  rw [schedule, trials, List.flatMap_append, List.flatMap_map, List.flatMap_map, List.map_eq_flatMap]
  rfl

section Asks

variable {h plan port} {past actions : List Action}

theorem failure?_eq (t : Trial) : h.failure? port t = t.asks.findSome? (h.fault? port) := by
  cases t with
  | cycle d p =>
    rw [Trial.asks, List.findSome?_map]
    exact h.failure_cycle d p
  | fork f n => simp [Trial.asks, failure?, fault?]

theorem asks_of_quiet (quiet : ∀ a ∈ actions, a.isAsk = false) : actions.filter Action.isAsk = [] :=
  List.filter_eq_nil_iff.2 fun a ha => by simp [quiet a ha]

/-- A trial that is gone through tries everything in it. -/
theorem Step.asks {t : Trial} (step : h.Step h.Cycled port t past (.ok ()) actions)
    (fine : h.failure? port t = none) : actions.filter Action.isAsk = t.asks.map (Ask.action port) := by
  cases t with
  | cycle d p =>
    obtain ⟨closing, all, -, quiet⟩ := h.cycleActions_eq d p
    have tries := Cycle.script_tries h.executor h.options.detailed d p
    have none : closing.filter Action.isAsk = [] :=
      asks_of_quiet fun a ha => by simp [Action.isAsk, (quiet a ha).1, (quiet a ha).2]
    have rounds : (h.cycle d p).rounds d = p.rounds d := by
      rw [cycle, tries.rounds, upTo_eq_self]
      rwa [← failure_cycle]
    rw [step.2, all, List.filter_append, none, List.append_nil, Script.actions,
      Script.asks_actions d p _ (h.cycle d p).outcome port, rounds]
    rfl
  | fork f n =>
    obtain ⟨tail, rfl, quiet⟩ := Attempted.tail step
    have none : tail.filter Action.isAsk = [] :=
      asks_of_quiet fun a ha => (quiet a ha).elim (·.not_ask) (·.not_ask)
    rw [List.filter_append, none]
    rfl

theorem Step.asks_of_cycle {d : Descriptor} {p : Params} {f : Failure} {a : Ask} {before after : List Ask}
    (cycled : h.Cycled d p (.error f) actions) (asks : (Trial.cycle d p).asks = before ++ a :: after)
    (fine : ∀ x ∈ before, h.fault? port x = none) (failed : h.fault? port a = some f) :
    ∃ earlier, actions = earlier ++ a.action port :: f.notice ∧
      earlier.filter Action.isAsk = before.map (Ask.action port) ∧ h.Handled port a [] := by
  have tries := Cycle.script_tries h.executor h.options.detailed d p
  obtain ⟨first, last, rounds, rfl, same⟩ := List.map_eq_append_iff.1 asks
  obtain ⟨r, last, rfl, rfl, rfl⟩ := List.map_eq_cons_iff.1 same
  have going : first.findSome? (h.executor.failure? p) = none :=
    List.findSome?_eq_none_iff.2 fun r hr => fine _ (List.mem_map_of_mem hr)
  have stopped : h.executor.failure? p r = some f := failed
  have failure : (h.cycle d p).failure? = some f := by
    rw [failure_cycle, rounds, List.findSome?_append, going, Option.none_or, List.findSome?_cons, stopped]
  have outcome : (h.cycle d p).outcome = .error f := by
    unfold Script.failure? at failure
    split at failure
    · contradiction
    · rename_i outcome
      rw [outcome, Option.some.inj failure]
  -- The failing round is the last thing that the script does.
  obtain ⟨deeds, kind, index, ends⟩ := tries.last (by rw [← cycle, failure]; rfl)
  have tried : (h.cycle d p).rounds d = first ++ [r] := by
    rw [cycle, tries.rounds, rounds, upTo_append_of_none going]
    simp [upTo, stopped]
  have split : (h.cycle d p).rounds d =
      (Script.mk deeds (h.cycle d p).outcome).rounds d ++ [⟨d, kind, index⟩] := by
    rw [Script.rounds, cycle, ends, List.filterMap_append]
    rfl
  obtain ⟨rfl, one⟩ := List.append_inj' (split.symm.trans tried) rfl
  obtain rfl := (List.cons.inj one).1
  refine ⟨deeds.map (Deed.action d p), ?_, Script.asks_actions d p deeds _ port, rfl⟩
  rw [cycled.2, cycleActions, outcome, Script.actions, cycle, ends, List.map_append, List.append_assoc]
  rfl

/-- A trial that fails ends with what failed in it. -/
theorem Step.asks_of_error {t : Trial} {f : Failure} {a : Ask} {before after : List Ask}
    (step : h.Step h.Cycled port t past (.error f) actions) (asks : t.asks = before ++ a :: after)
    (fine : ∀ x ∈ before, h.fault? port x = none) (failed : h.fault? port a = some f) :
    ∃ earlier served, actions = earlier ++ a.action port :: (served ++ f.notice) ∧
      earlier.filter Action.isAsk = before.map (Ask.action port) ∧ h.Handled port a served := by
  cases t with
  | cycle d p =>
    obtain ⟨earlier, all, none, handled⟩ := Step.asks_of_cycle step asks fine failed
    exact ⟨earlier, [], all, none, handled⟩
  | fork f n =>
    obtain ⟨rfl, rfl, rfl⟩ : before = [] ∧ a = .worker f n ∧ after = [] := by
      cases before with
      | nil => simpa [Trial.asks, eq_comm] using asks
      | cons => simp [Trial.asks] at asks
    cases step with
    | stopped serves _ _ => exact ⟨[.logged f.entry, .told (.call (.println f.line)) none], _, rfl, rfl, serves⟩

/-- What can fail in trials that do not fail does not fail. -/
theorem fault?_of_settled {trials : List Trial} (settled : ∀ t ∈ trials, h.failure? port t = none) :
    ∀ x ∈ trials.flatMap Trial.asks, h.fault? port x = none := by
  intro x hx
  obtain ⟨t, ht, hx⟩ := List.mem_flatMap.1 hx
  have none := settled t ht
  rw [failure?_eq] at none
  exact List.findSome?_eq_none_iff.1 none x hx

theorem names_of_fault? (calm : ∀ d p kind index, h.executor d p kind index ≠ .panicked) {a : Ask}
    {f : Failure} (failed : h.fault? port a = some f) : f.Names a.descriptor := by
  cases a with
  | iteration r p => exact Executor.names_of_failure? calm failed
  | worker f n => exact Launch.names_of_failure? failed

section Strict

variable (strict : h.options.failOnError = true)
  (calm : ∀ d p kind index, h.executor d p kind index ≠ .panicked)
include strict calm

/-- Whatever fails in a trial fails the run. -/
theorem Step.outcome_of_strict {t : Trial} {outcome : Except Failure Unit}
    (step : h.Step h.Cycled port t past outcome actions) :
    outcome = (h.failure? port t).elim (.ok ()) .error := by
  rw [step.outcome_eq]
  cases failed : h.failure? port t with
  | none => rfl
  | some f =>
    obtain ⟨d, names⟩ := names_of_failure? calm failed
    rw [verdict_of_names names, strict]
    rfl

theorem Step.settled {t : Trial} (step : h.Step h.Cycled port t past (.ok ()) actions) :
    h.failure? port t = none := by
  have outcome := step.outcome_of_strict strict calm
  cases failed : h.failure? port t with
  | none => rfl
  | some f => simp [failed] at outcome

theorem Step.failed {t : Trial} {f : Failure} (step : h.Step h.Cycled port t past (.error f) actions) :
    h.failure? port t = some f := by
  have outcome := step.outcome_of_strict strict calm
  cases failed : h.failure? port t with
  | none => simp [failed] at outcome
  | some g => simpa [failed] using outcome.symm

/-- A chain of trials behind a first failure of the schedule ends with that failure. -/
theorem asks_of_chain {planned : Except Failure Unit}
    (chain : Chain (h.Step h.Cycled port) (h.trials plan) past planned actions) {before after : List Ask}
    {a : Ask} {f : Failure} (schedule : h.schedule plan = before ++ a :: after)
    (fine : ∀ x ∈ before, h.fault? port x = none) (failed : h.fault? port a = some f) :
    planned = .error f ∧ ∃ earlier served, actions = earlier ++ a.action port :: (served ++ f.notice) ∧
      earlier.filter Action.isAsk = before.map (Ask.action port) ∧ h.Handled port a served := by
  rw [schedule_eq] at schedule
  cases planned with
  | ok _ =>
    have settled : ∀ t ∈ h.trials plan, h.failure? port t = none := by
      intro t ht
      obtain ⟨past, actions, step⟩ := chain.exists_of_ok t ht
      exact step.settled strict calm
    have none := fault?_of_settled settled a (by simp [schedule])
    simp [failed] at none
  | error e =>
    obtain ⟨done, t, rest, first, last, trials, rfl, going, stopped⟩ := chain.exists_of_error
    have settled : ∀ t ∈ done, h.failure? port t = none := by
      intro t ht
      obtain ⟨past, actions, step⟩ := going.exists_of_ok t ht
      exact step.settled strict calm
    have here := stopped.failed strict calm
    rw [failure?_eq] at here
    obtain ⟨before', a', after', asks, failed', fine'⟩ := List.findSome?_eq_some_iff.1 here
    -- Both are the first failure of the schedule.
    have same : before ++ a :: after =
        (done.flatMap Trial.asks ++ before') ++ a' :: (after' ++ rest.flatMap Trial.asks) := by
      rw [← schedule, trials, List.flatMap_append, List.flatMap_cons, asks]
      simp
    have early : ∀ x ∈ done.flatMap Trial.asks ++ before', (h.fault? port x).isSome = false := by
      intro x hx
      rcases List.mem_append.1 hx with gone | here
      · simp [fault?_of_settled settled x gone]
      · simpa using fine' x here
    obtain ⟨rfl, rfl⟩ := eq_of_append_cons same (fun x hx => by simp [fine x hx]) (by simp [failed])
      early (by simp [failed'])
    obtain rfl := Option.some.inj (failed.symm.trans failed')
    obtain ⟨earlier, served, rfl, tried, handled⟩ :=
      Step.asks_of_error stopped asks (fun x hx => by simpa using fine' x hx) failed
    refine ⟨rfl, first ++ earlier, served, by simp, ?_, handled⟩
    have all : first.filter Action.isAsk = done.flatMap fun t => t.asks.map (Ask.action port) :=
      Chain.flatMap_eq rfl (fun _ _ => List.filter_append ..)
        (fun t ht _ _ step => Step.asks step (settled t ht)) going
    rw [List.filter_append, all, tried, List.map_append, List.map_flatMap]

end Strict

end Asks

/-- Where nothing but benchmarks and workers fails, and failures are to stop the run, the first failure in
the order of the schedule is the last thing that is tried: a worker that has failed is served to its end,
the failure is noticed once, and the run is ended with what was merged and returns the failure. -/
theorem run_strict [PatternEngine] {plan : Plan} {port : UInt16} (sound : h.Sound plan port)
    (strict : h.options.failOnError = true) {before after : List Ask} {a : Ask} {f : Failure}
    (schedule : h.schedule plan = before ++ a :: after) (fine : ∀ x ∈ before, h.fault? port x = none)
    (failed : h.fault? port a = some f) (s : σ) :
    f.Names a.descriptor ∧ ∃ w earlier served,
      h.run.run (World.start s) = (.error f, w) ∧
      w.trace.toList = earlier ++ a.action port :: (served ++ (f.notice ++
        [.logged ⟨.error, "Run aborted: " ++ f.fullText, none⟩, .told (.runEnd w.store) none,
          .told (.call .flush) none])) ∧
      earlier.filter Action.isAsk = before.map (Ask.action port) ∧ h.Handled port a served ∧
      w.store = Store.empty.mergeReports ((earlier ++ served).filterMap Action.report?) ∧
      ∀ d, w.store.get? d = Run.mergeAll (runsOf d ((earlier ++ served).filterMap Action.report?)) := by
  have plain := Sink.plain_of_takes sound.takes
  refine ⟨names_of_fault? sound.calm failed, ?_⟩
  obtain ⟨planned, first, actions, w, ran, trace, -, outer, store, chain⟩ :=
    sound.course (h.runEmbedded_goes · · plain) Cycled.launchless (fun chain => by
      obtain ⟨stopped, -⟩ := asks_of_chain strict sound.calm chain schedule fine failed
      contradiction) s
  obtain ⟨rfl, earlier, served, rfl, tried, handled⟩ :=
    asks_of_chain strict sound.calm chain schedule fine failed
  have merged : w.store = Store.empty.mergeReports ((first ++ earlier ++ served).filterMap Action.report?) := by
    have opening : first.filterMap Action.report? = [] :=
      List.filterMap_eq_nil_iff.2 fun x hx => (outer x (List.mem_append_left _ hx)).2.2
    have notice : f.notice.filterMap Action.report? = [] :=
      List.filterMap_eq_nil_iff.2 fun x hx => (Failure.isOuter_of_mem_notice x hx).2.2
    have asked : (a.action port).report? = none := by cases a <;> rfl
    rw [store, List.filterMap_append, List.filterMap_cons_none asked, List.filterMap_append, notice,
      List.append_nil, List.filterMap_append, List.filterMap_append, opening, List.nil_append]
  refine ⟨w, first ++ earlier, served, ran, ?_, ?_, handled, merged, fun d => ?_⟩
  · rw [trace, closing, aborted]
    simp
  · have none := asks_of_quiet fun a ha => (outer a (List.mem_append_left _ ha)).not_ask
    rw [List.filter_append, none, tried, List.nil_append]
  · rw [merged, Store.get?_mergeReports_empty]

attribute [local instance] PatternEngine.plain

/-- A worker that exits with a failure, after it has reported, is the last that is started. -/
theorem run_strict_of_mixed : ∃ w earlier served,
    (mixed .none true steady breaking).run.run (World.start #[]) = (.error (.workerExit away 1), w) ∧
      w.trace.toList = earlier ++ .launched (.of Link.host 4000 away false) ::
        (served ++ ((Failure.workerExit away 1).notice ++
          [.logged ⟨.error, "Run aborted: " ++ (Failure.workerExit away 1).fullText, none⟩,
            .told (.runEnd w.store) none, .told (.call .flush) none])) ∧
      served.filterMap Action.report? = [(away, seven)] := by
  have sound : (mixed .none true steady breaking).Sound mixedPlan 4000 := sound_mixed calm_steady
  have schedule : (mixed .none true steady breaking).schedule mixedPlan = [
      .iteration ⟨here, .warmup, 1⟩ hereParams, .iteration ⟨here, .measurement, 1⟩ hereParams,
      .worker ⟨away, awayParams, true, 1⟩ 0] ++ .worker ⟨away, awayParams, false, 1⟩ 1 ::
        [.worker ⟨away, awayParams, false, 2⟩ 2] := rfl
  have failed : (mixed .none true steady breaking).fault? 4000 (.worker ⟨away, awayParams, false, 1⟩ 1) =
      some (.workerExit away 1) := rfl
  have fine : ∀ x ∈ [Ask.iteration ⟨here, .warmup, 1⟩ hereParams,
      .iteration ⟨here, .measurement, 1⟩ hereParams, .worker ⟨away, awayParams, true, 1⟩ 0],
      (mixed .none true steady breaking).fault? 4000 x = none := by
    simp only [List.forall_mem_cons]
    exact ⟨rfl, rfl, rfl, fun _ none => absurd none List.not_mem_nil⟩
  obtain ⟨-, w, earlier, served, ran, trace, -, handled, -⟩ :=
    run_strict _ sound rfl schedule fine failed #[]
  exact ⟨w, earlier, served, ran, trace, handled.merged.trans reports_breaking⟩

end Harness

end Microbench
