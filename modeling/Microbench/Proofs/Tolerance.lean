import Microbench.Proofs.Trials

/-!
Runs that go on after failures. Each trial leaves its reports in the store, whatever becomes of the others;
so such a run returns its results, and what fails of one descriptor changes nothing for another.
-/

namespace Microbench

open Std

variable {σ : Type}

/-- Of the elements of a list, those that give something are enough. -/
theorem flatMap_eq_filter {α β : Type} {f g : α → List β} {keep : α → Bool} {xs : List α}
    (kept : ∀ x ∈ xs, keep x = true → f x = g x) (dropped : ∀ x ∈ xs, keep x = false → f x = []) :
    xs.flatMap f = (xs.filter keep).flatMap g := by
  induction xs with
  | nil => rfl
  | cons x xs ih =>
    have rest := ih (fun y hy => kept y (List.mem_cons_of_mem x hy))
      fun y hy => dropped y (List.mem_cons_of_mem x hy)
    cases here : keep x with
    | true =>
      rw [List.filter_cons_of_pos here, List.flatMap_cons, List.flatMap_cons, rest,
        kept x List.mem_cons_self here]
    | false =>
      rw [List.filter_cons_of_neg (by simp [here]), List.flatMap_cons, rest,
        dropped x List.mem_cons_self here, List.nil_append]

namespace Harness

variable (h : Harness σ) (plan : Plan) (port : UInt16)

/-- What a run that goes on after failures leaves in the store. -/
def results : Store := Store.empty.mergeReports ((h.trials plan).flatMap (h.reportsOf port))

/-- Workers report nothing but the descriptor that they were started for. -/
def Own : Prop := ∀ t ∈ (h.forks plan).zipIdx,
  ∀ report ∈ h.reports (h.launch port t.1 t.2), report.1 = t.1.descriptor

def behaving (executor : Executor) (launcher : Launcher) : Harness σ := { h with executor, launcher }

/-- Behaviour that differs in nothing but the iterations and the workers of `d`. -/
structure AgreesBut (d : Descriptor) (executor : Executor) (launcher : Launcher) : Prop where
  iterations : ∀ e, e ≠ d → executor e = h.executor e
  workers : ∀ (f : Fork) n, f.descriptor ≠ d → launcher n (f.args port) = h.launcher n (f.args port)

section Results

variable {h plan port} {d : Descriptor}

theorem Sound.tolerant_run [PatternEngine] (sound : h.Sound plan port) (tolerant : h.options.failOnError = false)
    (unwritten : h.options.resultFile = none) (s : σ) :
    ∃ before actions w, h.run.run (World.start s) = (.ok w.store, w) ∧
      w.trace.toList = before ++ (actions ++ closing (.ok ()) w.store) ∧
      .told .runStart none ∈ before ∧ (∀ a ∈ before ++ closing (.ok ()) w.store, a.IsOuter) ∧
      w.store = h.results plan port ∧
      Chain (h.Step h.Cycled port) (h.trials plan) before (.ok ()) actions := by
  have settled (t : Trial) : h.verdict (h.failure? port t) = .ok () := by
    cases failed : h.failure? port t with
    | none => rfl
    | some f =>
      obtain ⟨d, names⟩ := names_of_failure? sound.calm failed
      rw [verdict_of_names names, tolerant]
      rfl
  have plain := Sink.plain_of_takes sound.takes
  obtain ⟨planned, before, actions, w, ran, trace, started, outer, store, chain⟩ :=
    sound.course (h.runEmbedded_goes · · plain) Cycled.launchless (fun _ => unwritten) s
  obtain rfl : planned = .ok () := chain.ok_of_each fun t _ _ _ _ step => by
    rw [step.outcome_eq, settled]
  have reports : actions.filterMap Action.report? = (h.trials plan).flatMap (h.reportsOf port) :=
    Chain.flatMap_eq rfl (fun _ _ => List.filterMap_append) (fun _ _ _ _ step => step.reports) chain
  exact ⟨before, actions, w, ran, trace, started, outer, by rw [store, reports, results], chain⟩

theorem get?_results : (h.results plan port).get? d =
    Run.mergeAll ((h.trials plan).flatMap fun t => runsOf d (h.reportsOf port t)) := by
  rw [results, Store.get?_mergeReports_empty,
    runsOf_flatMap]

theorem runsOf_cycle (e : Descriptor) (p : Params) (other : e ≠ d) :
    runsOf d ((h.cycle e p).reports e) = [] := by
  refine runsOf_eq_nil fun report hr => ?_
  unfold Script.reports at hr
  split at hr
  · rw [List.mem_singleton.1 hr]
    exact other
  · contradiction

theorem runsOf_fork (own : h.Own plan port) {t : Fork × Nat} (ht : t ∈ (h.forks plan).zipIdx)
    (other : t.1.descriptor ≠ d) : runsOf d (h.reports (h.launch port t.1 t.2)) = [] :=
  runsOf_eq_nil fun report hr => (own t ht report hr) ▸ other

/-- Of a descriptor whose measured cycle does not give a result here, only its workers do. -/
theorem get?_results_of_forks (silent : ∀ p, (d, p) ∈ h.embedded plan → (h.cycle d p).reports d = []) :
    (h.results plan port).get? d = Run.mergeAll ((h.forks plan).zipIdx.flatMap fun t =>
      runsOf d (h.reports (h.launch port t.1 t.2))) := by
  have cycles : ((h.cycles plan).map Trial.ofCycle).flatMap
      (fun t => runsOf d (h.reportsOf port t)) = [] := by
    rw [List.flatMap_map]
    refine List.flatMap_eq_nil_iff.2 fun (e, p) planned => ?_
    by_cases same : e = d
    · subst same
      refine (congrArg (runsOf e) ?_ : _ = runsOf e [])
      rcases List.mem_append.1 planned with bulk | embedded
      · obtain ⟨_, -, same⟩ := List.mem_map.1 bulk
        obtain ⟨rfl, rfl⟩ := Prod.mk.inj same
        exact h.reports_cycle_of_unmeasured _ rfl
      · exact silent p embedded
    · exact runsOf_cycle e p same
  rw [get?_results, trials, List.flatMap_append, cycles, List.nil_append, List.flatMap_map]
  rfl

theorem get?_results_of_failed (own : h.Own plan port) (alone : (h.paramsOf d).forks = 0)
    (failed : ∃ r ∈ (h.embeddedParams (h.paramsOf d)).rounds d,
      (h.executor.failure? (h.embeddedParams (h.paramsOf d)) r).isSome) :
    (h.results plan port).get? d = none := by
  have workers : (h.forks plan).zipIdx.flatMap
      (fun t => runsOf d (h.reports (h.launch port t.1 t.2))) = [] := by
    refine List.flatMap_eq_nil_iff.2 fun t ht => runsOf_fork own ht ?_
    intro same
    obtain ⟨e, he, hf⟩ := List.mem_flatMap.1 (List.fst_mem_of_mem_zipIdx ht)
    obtain rfl := (Fork.of_mem_list hf).1.symm.trans same
    simpa [alone] using (List.mem_filter.1 he).2
  rw [get?_results_of_forks fun p planned => ?_, workers]
  · rfl
  · obtain ⟨e, -, same⟩ := List.mem_map.1 planned
    obtain ⟨rfl, rfl⟩ := Prod.mk.inj same
    obtain ⟨r, hr, failed⟩ := failed
    exact h.reports_cycle_of_failed e _ hr failed

/-- What becomes of one descriptor does not change the results of another. -/
theorem get?_results_behaving {executor : Executor} {launcher : Launcher}
    (agrees : h.AgreesBut port d executor launcher) (own : h.Own plan port)
    (own' : (h.behaving executor launcher).Own plan port) {e : Descriptor} (other : e ≠ d) :
    ((h.behaving executor launcher).results plan port).get? e = (h.results plan port).get? e := by
  have same : ∀ t ∈ h.trials plan,
      runsOf e ((h.behaving executor launcher).reportsOf port t) = runsOf e (h.reportsOf port t) := by
    intro t ht
    -- Only trials of `d` differ, and these report nothing of `e` in either run.
    rcases List.mem_append.1 ht with cycle | fork
    · obtain ⟨⟨d', p⟩, -, rfl⟩ := List.mem_map.1 cycle
      by_cases failing : d' = d
      · subst failing
        exact (runsOf_cycle d' p other.symm).trans (runsOf_cycle d' p other.symm).symm
      · have script : (h.behaving executor launcher).cycle d' p = h.cycle d' p :=
          Cycle.script_congr _ _ _ _ (congrFun (agrees.iterations d' failing) p)
        change runsOf e (((h.behaving executor launcher).cycle d' p).reports d') = _
        rw [script]
        rfl
    · obtain ⟨t, numbered, rfl⟩ := List.mem_map.1 fork
      by_cases failing : t.1.descriptor = d
      · have apart : t.1.descriptor ≠ e := failing ▸ other.symm
        exact (runsOf_fork own' numbered apart).trans (runsOf_fork own numbered apart).symm
      · have launch : (h.behaving executor launcher).launch port t.1 t.2 = h.launch port t.1 t.2 :=
          agrees.workers t.1 t.2 failing
        change runsOf e ((h.behaving executor launcher).reports
          ((h.behaving executor launcher).launch port t.1 t.2)) = _
        rw [launch]
        rfl
  have trials : (h.behaving executor launcher).trials plan = h.trials plan := rfl
  rw [get?_results, get?_results, trials, List.flatMap_def, List.flatMap_def, List.map_congr_left same]

end Results

/-- Where nothing but benchmarks and workers fails, and failures are not to stop the run, it returns its
results. What fails of one descriptor changes nothing for another; a descriptor has no result when the cycle
that measures it here fails, and the merge of all that its forks have reported when it has forks. -/
theorem run_tolerant [PatternEngine] {plan : Plan} {port : UInt16} (sound : h.Sound plan port)
    (tolerant : h.options.failOnError = false) (unwritten : h.options.resultFile = none) (s : σ) :
    ∃ w, h.run.run (World.start s) = (.ok w.store, w) ∧
      (∀ d executor launcher, h.AgreesBut port d executor launcher →
        (∀ p kind index, executor d p kind index ≠ .panicked) →
        h.Own plan port → (h.behaving executor launcher).Own plan port →
        ∃ w', (h.behaving executor launcher).run.run (World.start s) = (.ok w'.store, w') ∧
          ∀ e, e ≠ d → w'.store.get? e = w.store.get? e) ∧
      (h.Own plan port → ∀ d, (h.paramsOf d).forks = 0 →
        (∃ r ∈ (h.embeddedParams (h.paramsOf d)).rounds d,
          (h.executor.failure? (h.embeddedParams (h.paramsOf d)) r).isSome) → w.store.get? d = none) ∧
      (h.Own plan port → ∀ d, (h.paramsOf d).forks ≠ 0 →
        w.store.get? d = Run.mergeAll (((h.forks plan).zipIdx.filter (·.1.descriptor = d)).flatMap fun t =>
          (h.reports (h.launch port t.1 t.2)).map (·.2))) := by
  obtain ⟨-, -, w, ran, -, -, -, store, -⟩ := sound.tolerant_run tolerant unwritten s
  refine ⟨w, ran, ?_, ?_, ?_⟩
  · intro d executor launcher agrees calm own own'
    have sound' : (h.behaving executor launcher).Sound plan port := by
      refine { sound with calm := fun e => ?_ }
      by_cases same : e = d
      · exact same ▸ calm
      · intro p kind index
        change executor e p kind index ≠ .panicked
        rw [agrees.iterations e same]
        exact sound.calm e p kind index
    obtain ⟨-, -, w', ran', -, -, -, store', -⟩ := sound'.tolerant_run tolerant unwritten s
    refine ⟨w', ran', fun e other => ?_⟩
    rw [store, store']
    exact get?_results_behaving agrees own own' other
  · intro own d alone failed
    rw [store]
    exact get?_results_of_failed own alone failed
  · intro own d workers
    rw [store, get?_results_of_forks fun p planned => ?_]
    · refine congrArg Run.mergeAll (flatMap_eq_filter (fun t ht same => ?_) fun t ht other => ?_)
      · exact runsOf_own fun report hr => (own t ht report hr).trans (of_decide_eq_true same)
      · exact runsOf_fork own ht (of_decide_eq_false other)
    · obtain ⟨e, he, same⟩ := List.mem_map.1 planned
      obtain ⟨rfl, -⟩ := Prod.mk.inj same
      simp [workers] at he

theorem own_breaking (executor : Executor) : (mixed .none false executor breaking).Own mixedPlan 4000 := by
  rw [Own, forks_mixed]
  simp only [List.zipIdx_cons, List.zipIdx_nil, List.forall_mem_cons]
  refine ⟨fun r hr => ?_, fun r hr => ?_, fun r hr => ?_, fun _ none => absurd none List.not_mem_nil⟩
  · exact absurd hr List.not_mem_nil
  · have same : r = (away, seven) := List.mem_singleton.1 (reports_breaking ▸ hr)
    exact congrArg Prod.fst same
  · exact absurd hr List.not_mem_nil

attribute [local instance] PatternEngine.plain

/-- Of a benchmark that cannot be measured here there is no result, and of one with a failing worker the
reported run is left; it is the same where the first benchmark can be measured. -/
theorem run_tolerant_of_mixed : ∃ w w',
    (mixed .none false boom breaking).run.run (World.start #[]) = (.ok w.store, w) ∧
      (mixed .none false steady breaking).run.run (World.start #[]) = (.ok w'.store, w') ∧
      w.store.get? here = none ∧ w.store.get? away = some seven ∧ w'.store.get? away = some seven := by
  have sound : (mixed .none false boom breaking).Sound mixedPlan 4000 := sound_mixed calm_boom
  obtain ⟨w, ran, isolated, absent, forked⟩ := run_tolerant _ sound rfl rfl #[]
  have own := own_breaking boom
  have agrees : (mixed .none false boom breaking).AgreesBut 4000 here steady breaking :=
    { iterations := fun e other => by
        funext p kind index
        exact (if_neg fun both => other both.1).symm
      workers := fun _ _ _ => rfl }
  obtain ⟨w', ran', same⟩ := isolated here steady breaking agrees (calm_steady here) own
    (own_breaking steady)
  have here_failed : w.store.get? here = none :=
    absent own here rfl ⟨⟨here, .measurement, 1⟩, by decide, rfl⟩
  have away_kept : w.store.get? away = some seven := by
    rw [forked own away (by decide), forks_mixed]
    change Run.mergeAll ([] ++ (((mixed .none false boom breaking).reports
      (breaking 1 (.of Link.host 4000 away false))).map (·.2) ++ [])) = some seven
    rw [reports_breaking]
    rfl
  exact ⟨w, w', ran, ran', here_failed, away_kept, (same away (by decide)).trans away_kept⟩

end Harness

end Microbench
