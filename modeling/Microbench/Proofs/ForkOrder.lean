import Microbench.Proofs.Trials

/-!
The workers of a whole run. They are started one after another, in the order of descriptors, each behind
its line and behind everything that was done for the worker before it; and what the store counts of a
descriptor tells whether a worker has reported.
-/

namespace Microbench

open Std

variable {σ : Type}

def Trial.launches (port : UInt16) : Trial → List WorkerArgs
  | cycle .. => []
  | fork f _ => [f.args port]

/-- Whether a fork measures `d`. -/
def Fork.measures (d : Descriptor) (f : Fork) : Bool := f.descriptor = d && !f.warmup

namespace Harness

variable (h : Harness σ) (plan : Plan)

/-- What a cycle in this process is known to do with any sink. -/
def Loosely (d : Descriptor) (p : Params) (_ : Except Failure Unit) (actions : List Action) : Prop :=
  ∀ a ∈ actions, a.IsCycle ∨ ∃ run, a = .merged d run ∧ (h.cycle d p).outcome = .ok (some run)

section Forks

variable {h plan} {d : Descriptor}

theorem Loosely.launchless {p : Params} {actions : List Action}
    (loosely : h.Loosely d p (.ok ()) actions) : launchesIn actions = 0 := by
  have none : actions.filterMap Action.launched? = [] := by
    refine List.filterMap_eq_nil_iff.2 fun a ha => ?_
    rcases loosely a ha with cycle | ⟨run, rfl, -⟩
    · exact cycle.launched?
    · rfl
  rw [launchesIn, none]
  rfl

end Forks

end Harness

end Microbench
