import Microbench.Decimal.Round

/-!
Numbers written in decimal. `readDouble` gives the double nearest to what is written; `readInteger`
reads words of 64 bits with a sign, and the first character that cannot go on decides what is wrong
with the others.
-/

namespace Microbench.Decimal

def digitValue (c : Char) : Nat := c.toNat - '0'.toNat

def naturalOf (digits : List Char) : Nat := digits.foldl (fun n c => n * 10 + digitValue c) 0

inductive IntegerFault where
  | empty
  | digit
  | tooLarge
  | tooSmall
  deriving DecidableEq, Repr

def IntegerFault.message : IntegerFault → String
  | empty => "cannot parse integer from empty string"
  | digit => "invalid digit found in string"
  | tooLarge => "number too large to fit in target type"
  | tooSmall => "number too small to fit in target type"

def readDigits (limit : Nat) (beyond : IntegerFault) (n : Nat) : List Char → Except IntegerFault Nat
  | [] => .ok n
  | c :: rest =>
    if !c.isDigit then .error .digit
    else if n * 10 + digitValue c > limit then .error beyond
    else readDigits limit beyond (n * 10 + digitValue c) rest

def readInteger : List Char → Except IntegerFault Int
  | [] => .error .empty
  | ['+'] | ['-'] => .error .digit
  | '-' :: rest => (readDigits (1 <<< 63) .tooSmall 0 rest).map fun n => -(n : Int)
  | '+' :: rest => (readDigits (1 <<< 63 - 1) .tooLarge 0 rest).map Int.ofNat
  | cs => (readDigits (1 <<< 63 - 1) .tooLarge 0 cs).map Int.ofNat

def toDouble (digits : Nat) (exponent : Int) : Binary64 :=
  -- No double has a decimal point further away than this.
  let point := (Nat.repr digits).length + exponent
  if digits = 0 ∨ point < -400 then .zero
  else if point > 400 then .infinity
  else if exponent ≥ 0 then .ofQuotient (digits * tens exponent.toNat) 1
  else .ofQuotient digits (tens (-exponent).toNat)

def readExponent (cs : List Char) : Option Int :=
  let (negative, digits) := match cs with
    | '-' :: rest => (true, rest)
    | '+' :: rest => (false, rest)
    | _ => (false, cs)
  if digits.isEmpty || !digits.all Char.isDigit then none
  else some (if negative then -(naturalOf digits : Int) else naturalOf digits)

/-- Digits with a point among them or at either end, and an exponent behind them. -/
def readMagnitude (cs : List Char) : Option Binary64 :=
  let whole := cs.takeWhile Char.isDigit
  let (fraction, rest) := match cs.dropWhile Char.isDigit with
    | '.' :: rest => (rest.takeWhile Char.isDigit, rest.dropWhile Char.isDigit)
    | rest => ([], rest)
  if whole.isEmpty && fraction.isEmpty then none
  else
    let exponent := match rest with
      | [] => some 0
      | c :: rest => if c = 'e' ∨ c = 'E' then readExponent rest else none
    exponent.map fun e => toDouble (naturalOf (whole ++ fraction)) (e - fraction.length)

def notANumber : Binary64 := ⟨0x7ff8000000000000⟩

/-- Words that stand for values without digits, in any case. -/
def readWord (cs : List Char) : Option Binary64 :=
  match String.ofList (cs.map Char.toLower) with
  | "inf" | "infinity" => some .infinity
  | "nan" => some notANumber
  | _ => none

def readUnsigned (cs : List Char) : Option Binary64 := (readMagnitude cs).orElse fun _ => readWord cs

def negated (x : Binary64) : Binary64 := ⟨x.bits ^^^ 0x8000000000000000⟩

def readDouble : List Char → Option Binary64
  | '-' :: rest => (readUnsigned rest).map negated
  | '+' :: rest => readUnsigned rest
  | cs => readUnsigned cs

end Microbench.Decimal
