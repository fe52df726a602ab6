/-!
Counts that saturate: operations, nanoseconds and contributions are held at the largest word
once a sum reaches it, so adding never loses to wrap-around. The sum is described in `Nat` by
`toNat_satAdd`; commutativity and associativity follow from it.
-/

namespace Microbench

/-- Sum of two 64-bit counts, held at the largest one. -/
def satAdd (a b : UInt64) : UInt64 := UInt64.ofNat (min (a.toNat + b.toNat) (1 <<< 64 - 1))

@[simp] theorem toNat_satAdd (a b : UInt64) :
    (satAdd a b).toNat = min (a.toNat + b.toNat) (1 <<< 64 - 1) := by
  rw [satAdd, UInt64.toNat_ofNat']; omega

theorem satAdd_comm (a b : UInt64) : satAdd a b = satAdd b a := by
  apply UInt64.toNat_inj.1; simp [Nat.add_comm]

theorem satAdd_assoc (a b c : UInt64) : satAdd (satAdd a b) c = satAdd a (satAdd b c) := by
  apply UInt64.toNat_inj.1; simp only [toNat_satAdd]; omega

@[simp] theorem satAdd_zero (a : UInt64) : satAdd a 0 = a := by
  have := a.toNat_lt
  apply UInt64.toNat_inj.1; simp; omega

def satAdd32 (a b : UInt32) : UInt32 := UInt32.ofNat (min (a.toNat + b.toNat) (1 <<< 32 - 1))

@[simp] theorem toNat_satAdd32 (a b : UInt32) :
    (satAdd32 a b).toNat = min (a.toNat + b.toNat) (1 <<< 32 - 1) := by
  rw [satAdd32, UInt32.toNat_ofNat']; omega

theorem satAdd32_comm (a b : UInt32) : satAdd32 a b = satAdd32 b a := by
  apply UInt32.toNat_inj.1; simp [Nat.add_comm]

theorem satAdd32_assoc (a b c : UInt32) :
    satAdd32 (satAdd32 a b) c = satAdd32 a (satAdd32 b c) := by
  apply UInt32.toNat_inj.1; simp only [toNat_satAdd32]; omega

end Microbench
