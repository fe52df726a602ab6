import Microbench.Value

/-!
One iteration: the values its threads reported, and the value that sums them up.
-/

namespace Microbench

inductive IterationKind where
  | warmup
  | measurement
  deriving DecidableEq, Repr, Inhabited

abbrev Named (α : Type) := Std.ExtTreeMap String α

namespace Named

/-- One more entry under a name, behind the earlier ones. -/
def gather {α : Type} (groups : Named (List α)) (entry : String × α) : Named (List α) :=
  groups.alter entry.1 fun earlier => some (earlier.getD [] ++ [entry.2])

def group {α : Type} (entries : List (String × α)) : Named (List α) := entries.foldl gather ∅

end Named

/-- What one thread reports for one iteration. -/
structure ThreadResult where
  primary : Value
  secondary : Named Value := ∅
  deriving DecidableEq

/-- One iteration. It has `elapsed` from the start of the first thread to the end of the last, in nanoseconds. -/
structure Sample where
  index : UInt32
  kind : IterationKind
  elapsed : UInt64
  primary : Value
  secondary : Named Value
  rawPrimary : List Value
  rawSecondary : Named (List Value)
  deriving DecidableEq

/-- The sample of an iteration; none if no thread reported anything. -/
def Sample.ofThreads (index : UInt32) (kind : IterationKind) (elapsed : UInt64)
    (threads : List ThreadResult) : Option Sample :=
  (Value.ofThreads (threads.map (·.primary))).map fun primary =>
    let raw := Named.group (threads.flatMap (·.secondary.toList))
    { index, kind, elapsed, primary
      secondary := raw.filterMap fun _ values => Value.ofThreads values
      rawPrimary := threads.map (·.primary)
      rawSecondary := raw }

end Microbench
