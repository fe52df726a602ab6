/-!
Slots of the sample histogram. Values below 2048 have a slot each; above, every power of two is
cut into 1024 slots of equal width, up to the end of the power that holds the longest tracked
value. A slot is known by its position, and its values are `low slot … high slot`.
-/

namespace Microbench.Slot

def longest : Nat := 3600000000000

/-- Values from here on have no slot of their own. -/
def limit : Nat := 1 <<< 42

def count : Nat := 33 * 1024

/-- How many low bits of a value its slot ignores. -/
def shift (value : Nat) : Nat := (value ||| 2047).log2 - 10

def of (value : Nat) : Nat := shift value * 1024 + value >>> shift value

def width (slot : Nat) : Nat := slot / 1024 - 1

def low (slot : Nat) : Nat := (slot - width slot * 1024) <<< width slot

def high (slot : Nat) : Nat := ((slot - width slot * 1024 + 1) <<< width slot) - 1

/-- The value that is counted for a sample: times past the last slot count as the longest one. -/
def clamp (value : Nat) : Nat := if value < limit then value else longest

end Microbench.Slot
