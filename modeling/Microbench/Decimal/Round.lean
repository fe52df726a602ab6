import Microbench.Binary64

/-!
Rounding of exact quotients. `roundDiv` gives the nearest natural number, a half going to the
even neighbour; `Binary64.ofQuotient` gives the nearest double in the same way.
-/

namespace Microbench

def tens (exponent : Nat) : Nat := Nat.pow 10 exponent

/-- The natural number nearest to `num / den`; a half goes to the even neighbour. -/
def roundDiv (num den : Nat) : Nat :=
  let q := num / den
  let twice := 2 * (num % den)
  if twice < den then q else if den < twice then q + 1 else q + q % 2

def binaryExponent (num den : Nat) : Int :=
  let guess : Int := (num.log2 : Int) - (den.log2 : Int)
  let below := if guess ≥ 0 then num < den <<< guess.toNat else num <<< (-guess).toNat < den
  if below then guess - 1 else guess

/-- The double nearest to `num / den`, ties to the even significand, infinite when the
quotient rounds to `2 ^ 1024` or above. -/
def Binary64.ofQuotient (num den : Nat) : Binary64 :=
  if num = 0 ∨ den = 0 then zero
  else
    let low : Int := max (binaryExponent num den - 52) (-1074)
    let significand :=
      if low ≥ 0 then roundDiv num (den <<< low.toNat) else roundDiv (num <<< (-low).toNat) den
    -- A significand of `2 ^ 53` carries into the exponent field by plain addition.
    let word := ((low + 1074).toNat <<< 52) + significand
    if word ≥ 2047 <<< 52 then infinity else ⟨UInt64.ofNat word⟩

end Microbench
