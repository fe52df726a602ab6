import Microbench.Decimal.Round

/-!
Doubles with a fixed number of decimal places. The exact value is rounded, a half going to the
even neighbour; `NaN`, `inf` and `-inf` stand for the values that have no digits.
-/

namespace Microbench

def padLeft (width : Nat) (text : String) : String :=
  String.ofList (List.replicate (width - text.length) ' ') ++ text

def padRight (width : Nat) (text : String) : String :=
  text ++ String.ofList (List.replicate (width - text.length) ' ')

def zeroPadded (width n : Nat) : String :=
  let digits := Nat.repr n
  String.ofList (List.replicate (width - digits.length) '0') ++ digits

/-- `units / 10 ^ places` in positional notation. -/
def positional (places units : Nat) : String :=
  if places = 0 then Nat.repr units
  else Nat.repr (units / tens places) ++ "." ++ zeroPadded places (units % tens places)

namespace Binary64

/-- The magnitude in units of `10 ^ (-places)`, rounded. -/
def scaledMagnitude (places : Nat) (x : Binary64) : Nat :=
  let lifted := x.significand * tens places
  if x.scale ≥ 0 then lifted <<< x.scale.toNat else roundDiv lifted (1 <<< (-x.scale).toNat)

def fixed (places : Nat) (x : Binary64) : String :=
  if x.isNaN then "NaN"
  else
    let sign := if x.isNegative then "-" else ""
    if x.isFinite then sign ++ positional places (x.scaledMagnitude places) else sign ++ "inf"

end Binary64

end Microbench
