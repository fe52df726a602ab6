/-!
Scores as IEEE 754 double words. A score is kept as its 64 bits, so that writing it down and
reading it back changes nothing, not even the payload of a NaN, and equality is decidable.
`Binary64.totalOrder` is the standard's total order, read off an integer key.
-/

namespace Microbench

structure Binary64 where
  bits : UInt64
  deriving DecidableEq, Repr, Inhabited

namespace Binary64

def toFloat (x : Binary64) : Float := Float.ofBits x.bits
def ofFloat (x : Float) : Binary64 := ⟨x.toBits⟩
def ofCount (n : UInt64) : Binary64 := ofFloat n.toFloat

instance : Add Binary64 := ⟨fun x y => ofFloat (x.toFloat + y.toFloat)⟩
instance : Sub Binary64 := ⟨fun x y => ofFloat (x.toFloat - y.toFloat)⟩
instance : Mul Binary64 := ⟨fun x y => ofFloat (x.toFloat * y.toFloat)⟩
instance : Div Binary64 := ⟨fun x y => ofFloat (x.toFloat / y.toFloat)⟩

def sqrt (x : Binary64) : Binary64 := ofFloat x.toFloat.sqrt
def zero : Binary64 := ⟨0⟩
def infinity : Binary64 := ⟨0x7ff0000000000000⟩
def negInfinity : Binary64 := ⟨0xfff0000000000000⟩

def isNegative (x : Binary64) : Bool := x.bits >>> 63 == 1
def exponentField (x : Binary64) : Nat := ((x.bits >>> 52) &&& 0x7ff).toNat
def fractionField (x : Binary64) : Nat := (x.bits &&& 0xfffffffffffff).toNat
def isNaN (x : Binary64) : Bool := x.exponentField == 2047 && x.fractionField != 0
def isFinite (x : Binary64) : Bool := x.exponentField != 2047

/-- The magnitude of a finite double is `significand * 2 ^ scale`. -/
def significand (x : Binary64) : Nat :=
  if x.exponentField = 0 then x.fractionField else 1 <<< 52 + x.fractionField

def scale (x : Binary64) : Int := (max x.exponentField 1 : Nat) - 1075

/-- The smaller of two doubles; a NaN yields to the other one. -/
def minNum (x y : Binary64) : Binary64 :=
  if x.isNaN then y else if y.isNaN then x else if y.toFloat < x.toFloat then y else x

def maxNum (x y : Binary64) : Binary64 :=
  if x.isNaN then y else if y.isNaN then x else if x.toFloat < y.toFloat then y else x

def totalKey (x : Binary64) : UInt64 :=
  if x.isNegative then ~~~ x.bits else x.bits ||| 0x8000000000000000

/-- The standard's total order: negative NaNs, then numbers ascending with `-0` below `0`,
then positive NaNs. -/
def totalOrder (x y : Binary64) : Bool := x.totalKey ≤ y.totalKey

def sort (xs : List Binary64) : List Binary64 := xs.mergeSort totalOrder

end Binary64

end Microbench
