import Microbench.Proofs.Planned

/-!
What becomes of a trial. How it fails is known from its executor or its launch, and so is what it leaves in
the store; whether its failure fails the run is decided by the options alone.
-/

namespace Microbench

variable {σ : Type}

/-- The failure of an iteration, of a start or of an exit, which names the descriptor. -/
inductive Failure.Names (d : Descriptor) : Failure → Prop where
  | iteration (reason : String) : Names d (.benchmarkFailed d reason)
  | spawn (reason : String) : Names d (.workerSpawn d reason)
  | exit (code : Int) : Names d (.workerExit d code)

theorem Launch.names_of_failure? {launch : Launch} {d : Descriptor} {f : Failure}
    (failed : launch.failure? d = some f) : f.Names d := by
  cases launch with
  | failed reason =>
    obtain rfl := Option.some.inj failed
    exact .spawn reason
  | ran connection exit messages =>
    rw [failure?_ran] at failed
    split at failed
    · contradiction
    · obtain rfl := Option.some.inj failed
      exact .exit _

theorem Executor.names_of_failure? {executor : Executor} {p : Params} {r : Round} {f : Failure}
    (calm : ∀ d p kind index, executor d p kind index ≠ .panicked)
    (failed : executor.failure? p r = some f) : f.Names r.descriptor := by
  unfold failure? at failed
  split at failed
  · contradiction
  · obtain rfl := Option.some.inj failed
    exact .iteration _
  · rename_i panicked
    exact absurd panicked (calm _ _ _ _)

namespace Harness

variable (h : Harness σ) (plan : Plan) (port : UInt16)

def failure? : Trial → Option Failure
  | .cycle d p => (h.cycle d p).failure?
  | .fork f n => (h.launch port f n).failure? f.descriptor

def reportsOf : Trial → List (Descriptor × Run)
  | .cycle d p => (h.cycle d p).reports d
  | .fork f n => h.reports (h.launch port f n)

section Steps

variable {h port} {past actions : List Action} {outcome : Except Failure Unit}

theorem Attempted.reports {f : Fork} {n : Nat} (attempted : h.Attempted port f n past outcome actions) :
    actions.filterMap Action.report? = h.reports (h.launch port f n) := by
  have opening : (f.opening port).filterMap Action.report? = [] := rfl
  cases attempted with
  | done serves _ =>
    have own := serves.reports_append h ((h.launch port f n).failure? f.descriptor)
    rw [List.filterMap_append, opening, ← List.append_assoc, List.filterMap_append, own]
    split
    · exact List.append_nil _
    · exact List.append_nil _
  | @stopped _ failure serves _ _ =>
    have own := serves.reports_append h (some failure)
    rw [notices, Option.toList_some, List.flatMap_singleton] at own
    rw [List.filterMap_append, opening, own]
    rfl

theorem Step.reports {t : Trial} (step : h.Step h.Cycled port t past outcome actions) :
    actions.filterMap Action.report? = h.reportsOf port t := by
  cases t with
  | cycle d p =>
    rw [step.2]
    exact h.reports_cycleActions d p
  | fork f n => exact Attempted.reports step

/-- Whether a trial fails the run is decided by its failure. -/
theorem Step.outcome_eq {t : Trial} (step : h.Step h.Cycled port t past outcome actions) :
    outcome = h.verdict (h.failure? port t) := by
  cases t with
  | cycle d p => exact step.1
  | fork f n =>
    cases step with
    | done _ settled => exact settled.symm
    | stopped _ failed fatal => exact (failed ▸ fatal).symm

theorem verdict_of_names {d : Descriptor} {f : Failure} (names : f.Names d) :
    h.verdict (some f) = if h.options.failOnError then .error f else .ok () := by
  cases strict : h.options.failOnError <;> cases names <;>
    simp [verdict, Failure.isReported, Failure.root, Failure.isFatal, Failure.isConfiguration, strict]

theorem names_of_failure? {t : Trial} (calm : ∀ d p kind index, h.executor d p kind index ≠ .panicked)
    {f : Failure} (failed : h.failure? port t = some f) : ∃ d, f.Names d := by
  cases t with
  | cycle d p =>
    rw [failure?, failure_cycle] at failed
    obtain ⟨r, -, failed⟩ := List.exists_of_findSome?_eq_some failed
    exact ⟨_, Executor.names_of_failure? calm failed⟩
  | fork f n => exact ⟨_, Launch.names_of_failure? failed⟩

end Steps

end Harness

end Microbench
