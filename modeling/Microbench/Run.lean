import Microbench.Sample
import Microbench.Statistics

/-!
The outcome of running a benchmark: its measurement iterations in one value, and what is left of
each of them, the score. Runs of one benchmark merge in any order.
-/

namespace Microbench

/-- The result of a benchmark. Its `scores` are those of the measurement iterations, ascending, and `contributions`
counts the runs that were merged into it. -/
structure Run where
  primary : Value
  secondary : Named Value
  scores : List Binary64
  contributions : UInt32
  deriving DecidableEq

namespace Run

/-- The measurement iterations among `samples`; none if there are none. -/
def ofSamples (samples : List Sample) : Option Run :=
  let measured := samples.filter (·.kind = .measurement)
  (Value.ofRuns (measured.map (·.primary))).map fun primary =>
    { primary
      secondary := (Named.group (measured.flatMap (·.secondary.toList))).filterMap
        fun _ values => Value.ofRuns values
      scores := Binary64.sort (measured.filterMap (·.primary.score))
      contributions := 1 }

/-- Add a named value to those of the same name. -/
def mergeNamed (values : Named Value) (entry : String × Value) : Named Value :=
  values.alter entry.1 fun
    | some earlier => some (earlier.merge entry.2)
    | none => some entry.2

def merge (a b : Run) : Run where
  primary := a.primary.merge b.primary
  secondary := b.secondary.toList.foldl mergeNamed a.secondary
  scores := Binary64.sort (a.scores ++ b.scores)
  contributions := satAdd32 a.contributions b.contributions

/-- All runs in one; none for no runs. -/
def mergeAll : List Run → Option Run
  | [] => none
  | first :: rest => some (rest.foldl merge first)

def summary (run : Run) : String :=
  let spread :=
    if run.scores.length > 1 then
      let s := Statistics.of run.scores
      "\n  Statistics: (min, avg, max) = (" ++ s.min.fixed 3 ++ ", " ++ s.mean.fixed 3 ++ ", "
        ++ s.max.fixed 3 ++ "), stdev = " ++ s.deviation.fixed 3
    else ""
  let named := run.secondary.toList.map fun (name, value) => "\n" ++ value.summary (some name)
  run.primary.summary none ++ spread ++ String.join named

end Run

end Microbench
