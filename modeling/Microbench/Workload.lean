import Microbench.Failure

/-!
Benchmark bodies. A workload is called again and again within an iteration; it knows which call it
is, and answers that it is done, that it failed, or by panicking.
-/

namespace Microbench

/-- Where a call of a workload sits within the run. Iterations count from 1, and the calls of one thread in one
iteration from 0. -/
structure Invocation where
  kind : IterationKind
  iteration : UInt32
  number : Nat
  thread : UInt32
  deriving DecidableEq, Repr

def Invocation.isFirst (i : Invocation) : Bool := i.number == 0

inductive WorkResult where
  | done
  | failed (failure : Failure)
  | panicked
  deriving DecidableEq

abbrev Workload := Invocation → WorkResult

end Microbench
