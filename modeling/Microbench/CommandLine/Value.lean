import Microbench.Decimal.Reading
import Microbench.Options
import Microbench.Text.Blank

/-!
Values of settings, read from text.
-/

namespace Microbench.CommandLine

inductive Fault where
  | invalid
  | missing
  | refused (reason : String)
  deriving DecidableEq, Repr

def readOneOf {α : Type} (all : List α) (name : α → String) (text : String) : Except Fault α :=
  match all.find? (name · == text) with
  | some x => .ok x
  | none => .error .invalid

def readMode : String → Except Fault Mode := readOneOf (Mode.concrete ++ [.all]) Mode.label

def readTruth : String → Except Fault Bool := readOneOf [true, false] toString

def readBounded (greatest : Nat) (text : String) : Except Fault Nat :=
  match Decimal.readInteger text.toList with
  | .error e => .error (.refused e.message)
  | .ok n =>
    if 0 ≤ n ∧ n ≤ greatest then .ok n.toNat
    else .error (.refused s!"{n} is not in 0..={greatest}")

def readCount (text : String) : Except Fault UInt32 :=
  (readBounded (UInt32.size - 1) text).map UInt32.ofNat

def readPort (text : String) : Except Fault UInt16 :=
  (readBounded (UInt16.size - 1) text).map UInt16.ofNat

def readPath (text : String) : Except Fault String :=
  if text.isEmpty then .error .missing else .ok text

/-- A unit that a length of time may end with, and what becomes of the number in front of it. -/
structure Suffix where
  text : List Char
  toSeconds : Binary64 → Binary64

def suffixes : List Suffix := [
  ⟨['m', 's'], (· / .ofCount 1000)⟩, ⟨['s'], id⟩, ⟨['m'], (· * .ofCount 60)⟩,
  ⟨['h'], (· * .ofCount 3600)⟩]

def splitSuffix (cs : List Char) : List Char × (Binary64 → Binary64) :=
  match suffixes.find? (·.text.isSuffixOf cs) with
  | some s => (cs.take (cs.length - s.text.length), s.toSeconds)
  | none => (cs, id)

/-- The length of so many seconds, to the nearest nanosecond; a half goes to the even one. -/
def secondsToDuration (x : Binary64) : Except String Duration :=
  if x.isNegative && !x.isNaN && (!x.isFinite || x.significand != 0) then .error "value is negative"
  else match if x.isFinite then Duration.ofNanos? (x.scaledMagnitude 9) else none with
    | some d => .ok d
    | none => .error "value is either too big or NaN"

def readDuration (text : String) : Except Fault Duration :=
  let cs := Text.trimmed text.toList
  if cs.isEmpty then .error (.refused "Duration cannot be empty")
  else
    let (number, toSeconds) := splitSuffix cs
    match Decimal.readDouble number with
    | none => .error (.refused ("Invalid number in duration: " ++ String.ofList number))
    | some x =>
      (secondsToDuration (toSeconds x)).mapError fun reason => .refused ("Invalid duration "
        ++ String.ofList cs ++ ": cannot convert float seconds to Duration: " ++ reason)

end Microbench.CommandLine
