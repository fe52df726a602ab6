import Microbench.Binary64
import Microbench.Count
import Microbench.Distribution.Slot
import Std.Data.ExtTreeMap

/-!
Counts per slot, and the value at a quantile. Both the counts and their total saturate.
-/

namespace Microbench

structure Histogram where
  counts : Std.ExtTreeMap Nat UInt64
  total : UInt64
  deriving DecidableEq

namespace Histogram

def empty : Histogram := ⟨∅, 0⟩

def record (h : Histogram) (value : UInt64) (times : UInt64) : Histogram where
  counts := h.counts.alter (Slot.of (Slot.clamp value.toNat)) fun counted =>
    some (satAdd (counted.getD 0) times)
  total := satAdd h.total times

def recorded (h : Histogram) : List (UInt64 × UInt64) :=
  h.counts.toList.filterMap fun (slot, n) =>
    if n = 0 then none else some (UInt64.ofNat (Slot.high slot), n)

def reaching (target : Nat) : List (Nat × UInt64) → Option Nat
  | [] => none
  | (slot, n) :: rest =>
    if target ≤ n.toNat then some slot else reaching (target - n.toNat) rest

/-- How many samples lie at or below the quantile; at least one. -/
def rank (h : Histogram) (q : Binary64) : UInt64 :=
  max 1 (q * Binary64.ofCount h.total).toFloat.ceil.toUInt64

/-- Value at a quantile between 0 and 1: the smallest value of its slot at quantile 0, else the
largest; 0 when no slot reaches it. -/
def valueAt (h : Histogram) (q : Binary64) : UInt64 :=
  match reaching (h.rank q).toNat h.counts.toList with
  | none => 0
  | some slot =>
    UInt64.ofNat (if q.bits = Binary64.zero.bits then Slot.low slot else Slot.high slot)

end Histogram

end Microbench
