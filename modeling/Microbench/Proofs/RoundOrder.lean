import Microbench.Proofs.Planned

/-!
The iterations of this process over a whole run. They are blocks of cycles, one behind the other: what is
warmed up in bulk, and then what is measured here, each block up to its first failing iteration.
-/

namespace Microbench

open Std

variable {σ : Type}

namespace Harness

variable (h : Harness σ) (plan : Plan)

def bulkRounds (d : Descriptor) : List Round :=
  upTo (h.executor.failure? (h.paramsOf d).warmupOnly) (Round.list d .warmup h.options.warmup.count)

def embeddedRounds (d : Descriptor) : List Round :=
  upTo (h.executor.failure? (h.embeddedParams (h.paramsOf d)))
    ((if h.options.warmupMode = .beforeAny then [] else Round.list d .warmup h.options.warmup.count) ++
      Round.list d .measurement h.options.measurement.count)

section Blocks

variable {h} {d : Descriptor} {r : Round}

theorem of_mem_bulkRounds (hr : r ∈ h.bulkRounds d) : r.descriptor = d ∧ r.kind = .warmup :=
  Round.of_mem_list (mem_of_mem_upTo hr)

theorem descriptor_of_mem_embeddedRounds (hr : r ∈ h.embeddedRounds d) : r.descriptor = d := by
  rcases List.mem_append.1 (mem_of_mem_upTo hr) with warmup | measurement
  · split at warmup
    · contradiction
    · exact (Round.of_mem_list warmup).1
  · exact (Round.of_mem_list measurement).1

theorem kind_of_mem_embeddedRounds (before : h.options.warmupMode = .beforeAny)
    (hr : r ∈ h.embeddedRounds d) : r.kind = .measurement := by
  have planned := mem_of_mem_upTo hr
  rw [if_pos before, List.nil_append] at planned
  exact (Round.of_mem_list planned).2

end Blocks

/-- The iterations of a trial in this process, as far as it gets. -/
def roundsOf : Trial → List Round
  | .cycle d p => upTo (h.executor.failure? p) (p.rounds d)
  | .fork .. => []

variable {plan} in
theorem rounds_of_chain {port : UInt16} {past actions : List Action}
    (chain : Chain (h.Step h.Cycled port) (h.trials plan) past (.ok ()) actions) :
    actions.filterMap Action.round? = (h.trials plan).flatMap h.roundsOf := by
  refine Chain.flatMap_eq rfl (fun _ _ => List.filterMap_append) ?_ chain
  rintro (⟨d, p⟩ | ⟨f, n⟩) - past actions done
  · rw [done.2]
    exact h.rounds_cycleActions d p
  · exact Attempted.rounds done

/-- What the options say of iterations holds of everything that is planned. -/
theorem flatMap_roundsOf {plan : Plan} (counts : ∀ d, d ∈ plan.measured ∨ d ∈ plan.warmupOnly →
      (h.paramsOf d).warmup = h.options.warmup ∧ (h.paramsOf d).measurement = h.options.measurement) :
    (h.trials plan).flatMap h.roundsOf = (h.warmupSet plan).keys.flatMap h.bulkRounds ++
      (plan.measured.keys.filter fun d => (h.paramsOf d).forks = 0).flatMap h.embeddedRounds := by
  have forks : ((h.forks plan).zipIdx.map Trial.ofFork).flatMap h.roundsOf = [] := by
    rw [List.flatMap_map]
    exact List.flatMap_eq_nil_iff.2 fun _ _ => rfl
  rw [trials, List.flatMap_append, forks, List.append_nil, cycles, List.map_append, List.flatMap_append]
  congr 1
  · rw [bulk, List.map_map, List.flatMap_map, List.flatMap_def, List.flatMap_def]
    refine congrArg List.flatten (List.map_congr_left fun d hd => ?_)
    have planned := mem_warmupSet.1 (ExtTreeMap.mem_keys.1 hd)
    have same := (counts d (planned.symm.imp_left And.right)).1
    change upTo _ (Round.list d .warmup (h.paramsOf d).warmup.count ++ []) = _
    rw [same, List.append_nil, bulkRounds]
  · rw [embedded, List.map_map, List.flatMap_map, List.flatMap_def, List.flatMap_def]
    refine congrArg List.flatten (List.map_congr_left fun d hd => ?_)
    have planned := ExtTreeMap.mem_keys.1 (List.mem_filter.1 hd).1
    obtain ⟨warmup, measurement⟩ := counts d (.inl planned)
    refine congrArg (upTo _) ?_
    unfold Params.rounds embeddedParams
    rw [WarmupMode.isBulk]
    by_cases before : h.options.warmupMode = .beforeAny
    · simp [before, Params.withoutWarmup, Round.list, measurement]
    · simp [before, warmup, measurement]

section Order

variable {h} {bulk embedded : List Descriptor}

theorem pairwise_rounds (before : h.options.warmupMode = .beforeAny) :
    (bulk.flatMap h.bulkRounds ++ embedded.flatMap h.embeddedRounds).Pairwise fun a b =>
      a.kind = .measurement → b.kind = .measurement := by
  have warmups : ∀ r ∈ bulk.flatMap h.bulkRounds, r.kind = .warmup := by
    intro r hr
    obtain ⟨d, -, hr⟩ := List.mem_flatMap.1 hr
    exact (of_mem_bulkRounds hr).2
  have measurements : ∀ r ∈ embedded.flatMap h.embeddedRounds, r.kind = .measurement := by
    intro r hr
    obtain ⟨d, -, hr⟩ := List.mem_flatMap.1 hr
    exact kind_of_mem_embeddedRounds before hr
  refine List.pairwise_append.2 ⟨?_, ?_, fun a _ b hb _ => measurements b hb⟩
  · refine List.pairwise_of_forall_mem_list fun a ha b _ measured => ?_
    rw [warmups a ha] at measured
    contradiction
  · exact List.pairwise_of_forall_mem_list fun a _ b hb _ => measurements b hb

theorem embedded_of_measurement {r : Round}
    (hr : r ∈ bulk.flatMap h.bulkRounds ++ embedded.flatMap h.embeddedRounds)
    (measured : r.kind = .measurement) : r.descriptor ∈ embedded := by
  rcases List.mem_append.1 hr with warm | own
  · obtain ⟨d, -, warm⟩ := List.mem_flatMap.1 warm
    rw [(of_mem_bulkRounds warm).2] at measured
    contradiction
  · obtain ⟨d, hd, own⟩ := List.mem_flatMap.1 own
    rwa [descriptor_of_mem_embeddedRounds own]

/-- What a descriptor measures stands in one block. -/
theorem exists_block (nodup : embedded.Nodup) (d : Descriptor) : ∃ before block after,
    bulk.flatMap h.bulkRounds ++ embedded.flatMap h.embeddedRounds = before ++ (block ++ after) ∧
      (∀ r ∈ block, r.descriptor = d) ∧
      ∀ r ∈ before ++ after, r.kind = .measurement → r.descriptor ≠ d := by
  by_cases here : d ∈ embedded
  · obtain ⟨first, last, rfl⟩ := List.append_of_mem here
    refine ⟨bulk.flatMap h.bulkRounds ++ first.flatMap h.embeddedRounds, h.embeddedRounds d,
      last.flatMap h.embeddedRounds, by simp, fun r hr => descriptor_of_mem_embeddedRounds hr, ?_⟩
    intro r hr measured same
    have others : d ∉ first ++ last := (List.nodup_cons.1 (List.perm_middle.nodup_iff.1 nodup)).1
    have elsewhere : r ∈ bulk.flatMap h.bulkRounds ++ (first ++ last).flatMap h.embeddedRounds := by
      simpa [or_assoc] using hr
    exact others (same ▸ embedded_of_measurement elsewhere measured)
  · refine ⟨bulk.flatMap h.bulkRounds ++ embedded.flatMap h.embeddedRounds, [], [], by simp, by simp, ?_⟩
    intro r hr measured same
    rw [List.append_nil] at hr
    exact here (same ▸ embedded_of_measurement hr measured)

end Order

/-- The iterations that the executor of this process is asked for in a run that is not aborted: warmups of
what is warmed up in bulk, then what each descriptor without forks runs here, block by block in the order
of descriptors, each block up to its first failing iteration. -/
theorem rounds_of_run [PatternEngine] {plan : Plan} (plain : h.sink.Plain) (named : h.registry.Named)
    (resolved : h.registry.resolve h.options = .ok plan) {s : σ} {outcome : Except Failure Store}
    {w : World σ} (ran : h.run.run (World.start s) = (outcome, w))
    (started : .told .runStart none ∈ w.trace.toList) (unaborted : ¬ w.Aborted) :
    ∃ bulk embedded : List Descriptor,
      bulk.Pairwise (compare · · = .lt) ∧
      (∀ d, d ∈ bulk ↔
        d ∈ plan.warmupOnly ∨ (h.options.warmupMode = .beforeAny ∧ d ∈ plan.measured)) ∧
      embedded.Pairwise (compare · · = .lt) ∧
      (∀ d, d ∈ embedded ↔ d ∈ plan.measured ∧
        ∃ p, h.registry.paramsFor d h.options = .ok p ∧ p.forks = 0) ∧
      w.rounds = bulk.flatMap h.bulkRounds ++ embedded.flatMap h.embeddedRounds ∧
      (h.options.warmupMode = .beforeAny →
        w.rounds.Pairwise fun a b => a.kind = .measurement → b.kind = .measurement) ∧
      (∀ r ∈ w.rounds, r.kind = .measurement →
        r.descriptor ∈ embedded ∧ r.descriptor ∉ plan.warmupOnly) ∧
      ∀ d, ∃ before block after, w.rounds = before ++ (block ++ after) ∧
        (∀ r ∈ block, r.descriptor = d) ∧
        ∀ r ∈ before ++ after, r.kind = .measurement → r.descriptor ≠ d := by
  obtain ⟨knows, counts⟩ := h.paramsOf_of_resolve named resolved
  have apart := (Registry.knows_of_resolve named resolved).2
  obtain ⟨port, before, actions, after, -, trace, outer, -, chain⟩ :=
    exists_chain (h.runEmbedded_goes · · plain) Cycled.launchless named resolved ran started unaborted
  have rounds : w.rounds = (h.warmupSet plan).keys.flatMap h.bulkRounds ++
      (plan.measured.keys.filter fun d => (h.paramsOf d).forks = 0).flatMap h.embeddedRounds := by
    rw [World.rounds, trace, Action.filterMap_within fun a ha => (outer a ha).1, h.rounds_of_chain chain,
      h.flatMap_roundsOf counts]
  refine ⟨_, _, ExtTreeMap.ordered_keys, fun d => ?_, ExtTreeMap.ordered_keys.filter _,
    fun _ => knows.mem_filter (·.forks = 0), rounds, ?_, ?_, ?_⟩
  · rw [ExtTreeMap.mem_keys, mem_warmupSet, WarmupMode.isBulk, beq_iff_eq]
  · rw [rounds]
    exact pairwise_rounds
  · rw [rounds]
    intro r hr measured
    have here := embedded_of_measurement hr measured
    refine ⟨here, fun warmed => apart _ warmed ?_⟩
    exact ExtTreeMap.mem_keys.1 (List.mem_filter.1 here).1
  · rw [rounds]
    exact exists_block (ExtTreeMap.nodup_keys.filter _)

attribute [local instance] PatternEngine.plain

/-- A benchmark that cannot be measured here, and one whose workers cannot be started, after a warmup of
both. -/
theorem rounds_of_run_of_mixed : ∃ outcome w,
    (mixed .beforeAny false boom fun _ _ => Launch.unresolvable).run.run (World.start #[]) = (outcome, w) ∧
      .told .runStart none ∈ w.trace.toList ∧ ¬ w.Aborted ∧
      w.rounds = [⟨here, .warmup, 1⟩, ⟨away, .warmup, 1⟩, ⟨here, .measurement, 1⟩] ∧
      w.rounds.Pairwise fun a b => a.kind = .measurement → b.kind = .measurement := by
  have sound : (mixed .beforeAny false boom fun _ _ => Launch.unresolvable).Sound mixedPlan 4000 :=
    sound_mixed calm_boom
  have started := sound.started rfl #[]
  have calm : ((mixed .beforeAny false boom fun _ _ => Launch.unresolvable).run.run
      (World.start #[])).2.logged.all (fun e => e.level != .error) = true := by decide +kernel
  have rounds : ((mixed .beforeAny false boom fun _ _ => Launch.unresolvable).run.run
      (World.start #[])).2.rounds =
        [⟨here, .warmup, 1⟩, ⟨away, .warmup, 1⟩, ⟨here, .measurement, 1⟩] := by decide +kernel
  rcases ran : (mixed .beforeAny false boom fun _ _ => Launch.unresolvable).run.run (World.start #[]) with
    ⟨outcome, w⟩
  rw [ran] at started calm rounds
  have unaborted := World.not_aborted calm
  obtain ⟨-, -, -, -, -, -, -, ordered, -⟩ := rounds_of_run _ (Sink.plain_of_takes sound.takes) sound.named
    sound.resolved ran started unaborted
  exact ⟨outcome, w, rfl, started, unaborted, rounds, ordered rfl⟩

end Harness

end Microbench
