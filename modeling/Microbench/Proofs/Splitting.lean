import Microbench.Proofs.Conservation
import Microbench.Proofs.Recording

/-!
Samples that are split over threads, iterations and forks. Each thread records its own samples, and what is merged of
them is the distribution that one recorder would have made of all (`Distribution.ofSamples_of_parts`).
-/

namespace Microbench

namespace Value

def sampled (label : String) (unit : TimeUnit) (samples : List UInt64) : Value :=
  ⟨label, unit, .sampleTime (.ofSamples samples)⟩

variable (label : String) (unit : TimeUnit)

theorem merge_sampled (xs ys : List UInt64) :
    (sampled label unit xs).merge (sampled label unit ys) = sampled label unit (xs ++ ys) := by
  rw [sampled, sampled, sampled, Distribution.ofSamples_append]
  rfl

/-- Threads, and iterations as well, put their samples together. -/
theorem ofRuns_sampled {parts : List (List UInt64)} (some_part : parts ≠ []) :
    ofRuns (parts.map (sampled label unit)) = some (sampled label unit parts.flatten) := by
  have later (parts : List (List UInt64)) (xs : List UInt64) :
      (parts.map (sampled label unit)).foldl merge (sampled label unit xs) =
        sampled label unit (xs ++ parts.flatten) := by
    induction parts generalizing xs with
    | nil => rw [List.flatten_nil, List.append_nil, List.map_nil, List.foldl_nil]
    | cons part parts ih =>
      rw [List.map_cons, List.foldl_cons, merge_sampled, ih, List.flatten_cons, List.append_assoc]
  obtain ⟨first, rest, rfl⟩ := List.exists_cons_of_ne_nil some_part
  exact congrArg some (later rest first)

theorem ofThreads_sampled {parts : List (List UInt64)} (some_part : parts ≠ []) :
    ofThreads (parts.map (sampled label unit)) = some (sampled label unit parts.flatten) := by
  rw [← ofRuns_sampled label unit some_part]
  obtain ⟨first, rest, rfl⟩ := List.exists_cons_of_ne_nil some_part
  have other : ¬ (sampled label unit first).measurement.sameKind (.throughput 0 0) := Bool.false_ne_true
  exact ofThreads_eq_ofRuns other _

end Value

/-- A measurement iteration whose threads have timed their calls one by one. -/
structure Timing where
  index : UInt32
  elapsed : UInt64
  threads : List (List UInt64)

namespace Timing

def samples (t : Timing) : List UInt64 := t.threads.flatten

variable (label : String) (unit : TimeUnit)

def iteration (t : Timing) : Iteration where
  index := t.index
  elapsed := t.elapsed
  threads := t.threads.map fun samples => { primary := .sampled label unit samples }

theorem primary_of_sample {t : Timing} (some_thread : t.threads ≠ []) {s : Sample}
    (made : (t.iteration label unit).sample? = some s) : s.primary = .sampled label unit t.samples := by
  have threads := Sample.primary_ofThreads made
  rw [iteration, List.map_map] at threads
  exact Option.some.inj (threads.symm.trans (Value.ofThreads_sampled label unit some_thread))

/-- A run of such iterations has all of their samples. -/
theorem primary_of_measured {fork : List Timing} (some_thread : ∀ t ∈ fork, t.threads ≠ []) {r : Run}
    (measured : Iteration.Measured (fork.map (iteration label unit)) r) :
    r.primary = .sampled label unit (fork.flatMap samples) := by
  obtain ⟨made, each, run⟩ := measured
  have runs := Run.primary_ofSamples (Iteration.kind_of_samples each) run
  have primaries : made.map (·.primary) = (fork.map samples).map (Value.sampled label unit) := by
    clear runs run
    induction fork generalizing made with
    | nil =>
      cases each
      rfl
    | cons t fork ih =>
      cases each with
      | @cons _ s _ made first rest =>
        have front := primary_of_sample label unit (some_thread t List.mem_cons_self) first
        have behind := ih (fun u mem => some_thread u (List.mem_cons_of_mem t mem)) made rest
        rw [List.map_cons, List.map_cons, List.map_cons, front, behind]
  have some_iteration : fork.map samples ≠ [] := by
    intro none
    rw [primaries, none] at runs
    contradiction
  rw [primaries, Value.ofRuns_sampled label unit some_iteration] at runs
  rw [List.flatMap_def]
  exact (Option.some.inj runs).symm

theorem exists_runs {forks : List (List Timing)} (some_iteration : ∀ fork ∈ forks, fork ≠ [])
    (some_thread : ∀ fork ∈ forks, ∀ t ∈ fork, t.threads ≠ []) :
    ∃ runs, List.Forall₂ Iteration.Measured (forks.map (·.map (iteration label unit))) runs := by
  induction forks with
  | nil => exact ⟨[], .nil⟩
  | cons fork forks ih =>
    obtain ⟨runs, each⟩ := ih (fun f mem => some_iteration f (List.mem_cons_of_mem fork mem))
      fun f mem => some_thread f (List.mem_cons_of_mem fork mem)
    have iterations : fork.map (iteration label unit) ≠ [] := by
      simpa using some_iteration fork List.mem_cons_self
    have threads : ∀ i ∈ fork.map (iteration label unit), i.threads ≠ [] := by
      intro i mem
      obtain ⟨t, inside, rfl⟩ := List.mem_map.1 mem
      simpa [iteration] using some_thread fork List.mem_cons_self t inside
    obtain ⟨r, measured⟩ := Iteration.exists_measured iterations threads
    exact ⟨r :: runs, .cons measured each⟩

end Timing

namespace Distribution

/-- However samples are split over recorders, and however their distributions are merged, the result is the
distribution of one recorder that is fed with all samples, and the histogram that is built from it has the
values of that recorder at all quantiles. It is also what becomes of samples that are split over the threads of
iterations, and these over forks, in whichever order and with whatever brackets the runs of the forks are
merged. -/
theorem ofSamples_of_parts :
    (∀ xs ys : List UInt64, ofSamples (xs ++ ys) = (ofSamples xs).merge (ofSamples ys)) ∧
    (∀ (parts : List (List UInt64)) (samples : List UInt64), parts.flatten.Perm samples →
      ∀ t : Bracketing Distribution, t.leaves.Perm (parts.map ofSamples) →
        t.value merge = ofSamples samples ∧
        ∀ q, (t.value merge).histogram?.map (·.valueAt q) =
          if samples = [] then none else some ((Histogram.ofSamples samples).valueAt q)) ∧
    ∀ (label : String) (unit : TimeUnit) (forks : List (List Timing)) (samples : List UInt64),
      (∀ fork ∈ forks, fork ≠ []) → (∀ fork ∈ forks, ∀ i ∈ fork, i.threads ≠ []) →
      (forks.flatten.flatMap Timing.samples).Perm samples →
      ∃ runs, List.Forall₂ Iteration.Measured (forks.map (·.map (Timing.iteration label unit))) runs ∧
        ∀ t : Bracketing Run, t.leaves.Perm runs →
          (t.value Run.merge).primary = ⟨label, unit, .sampleTime (ofSamples samples)⟩ := by
  refine ⟨ofSamples_append, ?_, ?_⟩
  · intro parts samples perm t ordered
    have each : List.Forall₂ (fun xs d => d = ofSamples xs) parts (parts.map ofSamples) :=
      List.forall₂_map_right_iff.2 (List.forall₂_same.2 fun _ _ => rfl)
    have merged : t.value merge = ofSamples parts.flatten := by
      refine Bracketing.value_of_perm (R := fun xs d => d = ofSamples xs) ?_ ?_ each ordered
      · rintro xs ys _ _ rfl rfl
        exact (ofSamples_append xs ys).symm
      · rintro xs ys _ same rfl
        exact ofSamples_perm same
    rw [merged, ofSamples_perm perm]
    refine ⟨rfl, fun q => ?_⟩
    rw [histogram?_ofSamples]
    split <;> rfl
  · intro label unit forks samples some_iteration some_thread perm
    obtain ⟨runs, each⟩ := Timing.exists_runs label unit some_iteration some_thread
    refine ⟨runs, each, fun t ordered => ?_⟩
    have primaries : List.Forall₂
        (fun fork r => r.primary = .sampled label unit (fork.flatMap Timing.samples)) forks runs :=
      ((List.forall₂_and_left _ _).2 ⟨some_thread, List.forall₂_map_left_iff.1 each⟩).imp fun fork r both =>
        Timing.primary_of_measured label unit both.1 both.2
    have merged : (t.value Run.merge).primary = .sampled label unit (forks.flatten.flatMap Timing.samples) := by
      refine Bracketing.value_of_perm
        (R := fun fork r => r.primary = .sampled label unit (fork.flatMap Timing.samples)) ?_ ?_ primaries ordered
      · intro xs ys a b left right
        rw [List.flatMap_append, ← Value.merge_sampled, ← left, ← right]
        rfl
      · intro xs ys r same primary
        rw [primary, Value.sampled, ofSamples_perm (same.flatMap_right _)]
        rfl
    rw [merged, Value.sampled, ofSamples_perm perm]

/-- A call that is too long to be tracked, and a total that saturates, in two recorders and in two forks. The
first fork has an iteration of two threads, the second one an iteration of a single thread. -/
theorem ofSamples_of_parts_of_slow :
    let slow : List UInt64 := [0xffffffffffffffff, 7]
    let quick : List UInt64 := [7, 4000]
    let all : Distribution := ⟨4, 0xffffffffffffffff, [(7, 2), (4001, 1), (3601330077695, 1)]⟩
    (ofSamples quick).merge (ofSamples slow) = all ∧
    (∀ q, all.histogram?.map (·.valueAt q) =
      some ((Histogram.ofSamples [7, 7, 4000, 0xffffffffffffffff]).valueAt q)) ∧
    ∃ first second, Iteration.Measured [Timing.iteration "parse" .seconds ⟨1, 9, [slow, [7]]⟩] first ∧
      Iteration.Measured [Timing.iteration "parse" .seconds ⟨1, 9, [[4000]]⟩] second ∧
      (second.merge first).primary = ⟨"parse", .seconds, .sampleTime all⟩ := by
  intro slow quick all
  obtain ⟨-, split, forked⟩ := ofSamples_of_parts
  have evaluated : ofSamples [7, 7, 4000, 0xffffffffffffffff] = all := by decide
  obtain ⟨merged, quantiles⟩ := split [slow, quick] [7, 7, 4000, 0xffffffffffffffff] (by decide)
    (.pair (.one (ofSamples quick)) (.one (ofSamples slow))) (.swap ..)
  rw [evaluated] at merged
  obtain ⟨runs, each, primary⟩ := forked "parse" .seconds [[⟨1, 9, [slow, [7]]⟩], [⟨1, 9, [[4000]]⟩]]
    [7, 7, 4000, 0xffffffffffffffff] (by simp) (by simp) (by decide)
  rcases each with _ | ⟨first, _ | ⟨second, _ | _⟩⟩
  have reversed := primary (.pair (.one _) (.one _)) (.swap ..)
  rw [evaluated] at reversed
  refine ⟨merged, fun q => ?_, _, _, first, second, reversed⟩
  rw [← merged]
  exact quantiles q

end Distribution

end Microbench
