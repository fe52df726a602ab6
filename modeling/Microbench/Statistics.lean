import Microbench.Binary64

/-!
Mean, extremes and population standard deviation of a list of doubles, summed from the front.
-/

namespace Microbench

structure Statistics where
  mean : Binary64
  min : Binary64
  max : Binary64
  deviation : Binary64
  deriving DecidableEq, Repr

namespace Statistics

def sum (values : List Binary64) : Binary64 := values.foldl (· + ·) .zero

/-- All zeros for the empty list. A NaN never counts as an extreme. -/
def of (values : List Binary64) : Statistics :=
  if values.isEmpty then ⟨.zero, .zero, .zero, .zero⟩
  else
    let n := Binary64.ofCount (.ofNat values.length)
    let mean := sum values / n
    { mean
      min := values.foldl .minNum .infinity
      max := values.foldl .maxNum .negInfinity
      deviation := (sum (values.map fun x => (x - mean) * (x - mean)) / n).sqrt }

end Statistics

end Microbench
