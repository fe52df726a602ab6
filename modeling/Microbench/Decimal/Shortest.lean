import Microbench.Decimal.Round

/-!
The fewest decimal digits that read back as the same double. The reals that round to a positive
finite double form an interval, whose ends belong to it when the significand is even. Of the
grids with 1, 2, … 17 digits the first one with a point in that interval is taken; of two such
points the nearer, and of two equally near the even one.
-/

namespace Microbench

structure Decimal where
  digits : Nat
  exponent : Int
  deriving DecidableEq, Repr

namespace Decimal

structure Quotient where
  num : Nat
  den : Nat

def Quotient.scaled (q : Quotient) (power : Int) : Quotient :=
  if power ≥ 0 then ⟨q.num * tens power.toNat, q.den⟩ else ⟨q.num, q.den * tens (-power).toNat⟩

/-- Four times the value, and the ends of its interval on the same scale. -/
structure Interval where
  value : Quotient
  low : Nat
  high : Nat
  closed : Bool

def Interval.of (x : Binary64) : Interval :=
  let m := x.significand
  -- Below a power of two the next double is half as far away.
  let lowGap := if x.fractionField = 0 ∧ x.exponentField > 1 then 1 else 2
  let unit := if x.scale ≥ 0 then 1 <<< x.scale.toNat else 1
  let den := if x.scale ≥ 0 then 4 else 4 <<< (-x.scale).toNat
  ⟨⟨4 * m * unit, den⟩, (4 * m - lowGap) * unit, (4 * m + 2) * unit, m % 2 == 0⟩

/-- Whether `point / 10 ^ power` lies in the interval. -/
def Interval.contains (i : Interval) (power : Int) (point : Nat) : Bool :=
  let (scaledPoint, lift) :=
    if power ≥ 0 then (point * i.value.den, tens power.toNat)
    else (point * i.value.den * tens (-power).toNat, 1)
  if i.closed then i.low * lift ≤ scaledPoint && scaledPoint ≤ i.high * lift
  else i.low * lift < scaledPoint && scaledPoint < i.high * lift

def Quotient.decimalExponent (q : Quotient) : Int :=
  let estimate : Int := (binaryExponent q.num q.den * 30103).fdiv 100000
  let reaches (e : Int) : Bool := let s := q.scaled (-e); s.den ≤ s.num
  if reaches (estimate + 1) then estimate + 1
  else if reaches estimate then estimate
  else estimate - 1

/-- The point with `count` digits nearest to the value, if one lies in the interval. -/
def Interval.onGrid (i : Interval) (count : Nat) : Option Decimal :=
  let power : Int := (count : Int) - 1 - i.value.decimalExponent
  let s := i.value.scaled power
  let below := s.num / s.den
  match i.contains power below, i.contains power (below + 1) with
  | false, false => none
  | true, false => some ⟨below, -power⟩
  | false, true => some ⟨below + 1, -power⟩
  | true, true => some ⟨roundDiv s.num s.den, -power⟩

def trim (d : Decimal) : Nat → Decimal
  | 0 => d
  | fuel + 1 =>
    if d.digits ≠ 0 ∧ d.digits % 10 = 0 then trim ⟨d.digits / 10, d.exponent + 1⟩ fuel else d

def shortest (x : Binary64) : Decimal :=
  let interval := Interval.of x
  match (List.range 17).findSome? fun n => interval.onGrid (n + 1) with
  | some d => d.trim 17
  | none => ⟨0, 0⟩

end Decimal

end Microbench
