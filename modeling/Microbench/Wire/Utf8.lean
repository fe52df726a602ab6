/-!
Where a byte sequence stops being UTF-8. A fault names the first byte that cannot belong to a
well-formed character, and how many bytes from there on are to be skipped; a sequence that only
ends too early has no such length.
-/

namespace Microbench.Wire

/-- `validUpTo` counts the bytes before the faulty character; the `length` of the fault is missing if the input ends
within that character. -/
structure Utf8Fault where
  validUpTo : Nat
  length : Option Nat
  deriving DecidableEq, Repr

namespace Utf8Fault

def text (f : Utf8Fault) : String :=
  match f.length with
  | some n => s!"invalid utf-8 sequence of {n} bytes from index {f.validUpTo}"
  | none => s!"incomplete utf-8 byte sequence from index {f.validUpTo}"

def within (low high b : UInt8) : Bool := low ≤ b && b ≤ high

/-- Ranges of the bytes that continue a character with this first byte, in order; none if no
character starts with it. -/
def continuations (first : UInt8) : Option (List (UInt8 × UInt8)) :=
  let any := (0x80, 0xbf)
  if first < 0x80 then some []
  else if within 0xc2 0xdf first then some [any]
  else if first = 0xe0 then some [(0xa0, 0xbf), any]
  else if first = 0xed then some [(0x80, 0x9f), any]
  else if within 0xe1 0xef first then some [any, any]
  else if first = 0xf0 then some [(0x90, 0xbf), any, any]
  else if within 0xf1 0xf3 first then some [any, any, any]
  else if first = 0xf4 then some [(0x80, 0x8f), any, any]
  else none

inductive Continued where
  | whole (rest : List UInt8)
  | short
  | broken (taken : Nat)

def Continued.of (taken : Nat) : List (UInt8 × UInt8) → List UInt8 → Continued
  | [], rest => whole rest
  | _ :: _, [] => short
  | (low, high) :: more, b :: rest =>
    if within low high b then Continued.of (taken + 1) more rest else broken taken

/-- First fault in `bytes`, which stand at position `start` and are walked in at most `fuel`
characters. -/
def find (start : Nat) : Nat → List UInt8 → Option Utf8Fault
  | 0, _ => none
  | _, [] => none
  | fuel + 1, first :: rest =>
    match continuations first with
    | none => some ⟨start, some 1⟩
    | some ranges => match Continued.of 1 ranges rest with
      | .whole rest => find (start + 1 + ranges.length) fuel rest
      | .short => some ⟨start, none⟩
      | .broken taken => some ⟨start, some taken⟩

def of (bytes : ByteArray) : Utf8Fault := (find 0 bytes.size bytes.toList).getD ⟨bytes.size, none⟩

end Utf8Fault

end Microbench.Wire
