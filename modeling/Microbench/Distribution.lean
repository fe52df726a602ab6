import Microbench.Distribution.Histogram

/-!
Individually timed operations in bounded form: their exact number and total time, and one bucket
(largest value, count) per histogram slot in use. Merging adds counts per bucket value.
-/

namespace Microbench

/-- Each bucket is the largest value of a slot, with the number of samples in it. -/
structure Distribution where
  count : UInt64
  total : UInt64
  buckets : List (UInt64 × UInt64)
  deriving DecidableEq, Inhabited

namespace Distribution

def isEmpty (d : Distribution) : Bool := d.count == 0

def ofHistogram (h : Histogram) (total : UInt64) : Distribution := ⟨h.total, total, h.recorded⟩

def ofSamples (samples : List UInt64) : Distribution :=
  ofHistogram (samples.foldl (·.record · 1) .empty) (samples.foldl satAdd 0)

/-- The histogram that the buckets describe; none for an empty distribution. -/
def histogram? (d : Distribution) : Option Histogram :=
  if d.isEmpty then none else some (d.buckets.foldl (fun h (value, n) => h.record value n) .empty)

def addBucket (counts : Std.ExtTreeMap UInt64 UInt64) (bucket : UInt64 × UInt64) :
    Std.ExtTreeMap UInt64 UInt64 :=
  counts.alter bucket.1 fun counted => some (satAdd (counted.getD 0) bucket.2)

def merge (a b : Distribution) : Distribution where
  count := satAdd a.count b.count
  total := satAdd a.total b.total
  buckets := (b.buckets.foldl addBucket (.ofList a.buckets)).toList

end Distribution

end Microbench
