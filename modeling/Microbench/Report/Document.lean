import Microbench.Decimal.Shortest
import Microbench.Decimal.Fixed

/-!
Documents in JavaScript Object Notation, laid out for people: every item on a line of its own, two
blanks deeper than what holds it.
-/

namespace Microbench

inductive Document where
  | null
  | count (n : Nat)
  | number (x : Binary64)
  | text (s : String)
  | list (items : List Document)
  | record (members : List (String × Document))

namespace Document

/-- Decimal point and exponent of a number: from `10 ^ (-5)` up to below `10 ^ 16` the point stands
among the digits, and at least one digit follows it. -/
def decimalText (d : Decimal) : String :=
  let digits := Nat.repr d.digits
  let point : Int := digits.length + d.exponent
  if 0 < point ∧ point ≤ 16 then
    if d.exponent ≥ 0 then digits ++ String.ofList (List.replicate d.exponent.toNat '0') ++ ".0"
    else positional (-d.exponent).toNat d.digits
  else if -5 < point ∧ point ≤ 0 then positional (-d.exponent).toNat d.digits
  else
    let fraction := String.ofList (digits.toList.drop 1)
    let first := String.ofList (digits.toList.take 1)
    first ++ (if fraction.isEmpty then "" else "." ++ fraction) ++ "e" ++ toString (point - 1)

def numberText (x : Binary64) : String :=
  if !x.isFinite then "null"
  else
    let sign := if x.isNegative then "-" else ""
    if x.significand = 0 then sign ++ "0.0" else sign ++ decimalText (.shortest x)

def escapedChar (c : Char) : String :=
  match c with
  | '"' => "\\\""
  | '\\' => "\\\\"
  | '\n' => "\\n"
  | '\r' => "\\r"
  | '\t' => "\\t"
  | '\x08' => "\\b"
  | '\x0c' => "\\f"
  | c =>
    if c.toNat < 0x20 then
      "\\u00" ++ String.ofList [Nat.digitChar (c.toNat / 16), Nat.digitChar (c.toNat % 16)]
    else c.toString

def quotedText (s : String) : String := "\"" ++ String.join (s.toList.map escapedChar) ++ "\""

def newLine (depth : Nat) : String := "\n" ++ String.ofList (List.replicate (2 * depth) ' ')

/-- Items between brackets; nothing at all between the brackets of no items. -/
def enclosed (opening closing : String) (depth : Nat) (items : List String) : String :=
  if items.isEmpty then opening ++ closing
  else
    let inner := newLine (depth + 1)
    opening ++ inner ++ ("," ++ inner).intercalate items ++ newLine depth ++ closing

mutual

def textAt (depth : Nat) : Document → String
  | null => "null"
  | count n => toString n
  | number x => numberText x
  | text s => quotedText s
  | list items => enclosed "[" "]" depth (itemTexts (depth + 1) items)
  | record members => enclosed "\x7b" "\x7d" depth (memberTexts (depth + 1) members)

def itemTexts (depth : Nat) : List Document → List String
  | [] => []
  | d :: rest => textAt depth d :: itemTexts depth rest

def memberTexts (depth : Nat) : List (String × Document) → List String
  | [] => []
  | (name, d) :: rest => (quotedText name ++ ": " ++ textAt depth d) :: memberTexts depth rest

end

def toText (d : Document) : String := textAt 0 d

end Document

end Microbench
