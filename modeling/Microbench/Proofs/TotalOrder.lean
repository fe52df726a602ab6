import Microbench.Binary64

/-!
The total order of doubles compares words without loss: two doubles at the same place are the same
word. A list of scores therefore has one ascending order, bit for bit.
-/

namespace Microbench.Binary64

theorem isNegative_iff (x : Binary64) : x.isNegative ↔ 1 <<< 63 ≤ x.bits.toNat := by
  have bound := x.bits.toNat_lt
  have word : (x.bits >>> 63 = 1) ↔ x.bits.toNat >>> 63 = 1 := by
    rw [← UInt64.toNat_inj, UInt64.toNat_shiftRight]; rfl
  rw [isNegative, beq_iff_eq, word, Nat.shiftRight_eq_div_pow]
  omega

/-- Negative words count down from the middle, the others up. -/
theorem toNat_totalKey (x : Binary64) :
    x.totalKey.toNat = if 1 <<< 63 ≤ x.bits.toNat then 1 <<< 64 - 1 - x.bits.toNat
      else 1 <<< 63 + x.bits.toNat := by
  by_cases h : 1 <<< 63 ≤ x.bits.toNat
  · rw [if_pos h, totalKey, if_pos (x.isNegative_iff.2 h), UInt64.toNat_not]
    rfl
  · have low : x.bits.toNat < 2 ^ 63 := by omega
    rw [if_neg h, totalKey, if_neg (mt x.isNegative_iff.1 h), UInt64.toNat_or, Nat.or_comm]
    exact (Nat.two_pow_add_eq_or_of_lt low 1).symm

theorem totalKey_inj {x y : Binary64} (h : x.totalKey = y.totalKey) : x = y := by
  have key := congrArg UInt64.toNat h
  have hx := x.bits.toNat_lt
  have hy := y.bits.toNat_lt
  rw [toNat_totalKey, toNat_totalKey] at key
  have bits : x.bits = y.bits := by
    apply UInt64.toNat_inj.1
    split at key <;> split at key <;> omega
  cases x; cases y
  exact congrArg mk bits

theorem totalOrder_trans (x y z : Binary64) (h : x.totalOrder y) (h' : y.totalOrder z) :
    x.totalOrder z := by
  simp only [totalOrder, decide_eq_true_eq] at *
  exact UInt64.le_trans h h'

theorem totalOrder_total (x y : Binary64) : (x.totalOrder y || y.totalOrder x) = true := by
  simp only [totalOrder, Bool.or_eq_true, decide_eq_true_eq]
  exact UInt64.le_total ..

theorem totalOrder_antisymm {x y : Binary64} (h : x.totalOrder y) (h' : y.totalOrder x) : x = y := by
  simp only [totalOrder, decide_eq_true_eq] at h h'
  exact totalKey_inj (UInt64.le_antisymm h h')

theorem sort_perm (xs : List Binary64) : (sort xs).Perm xs := List.mergeSort_perm xs _

theorem sort_pairwise (xs : List Binary64) : (sort xs).Pairwise (totalOrder · ·) :=
  List.pairwise_mergeSort totalOrder_trans totalOrder_total xs

/-- The same scores in any order come out in the same order. -/
theorem sort_eq_of_perm {xs ys : List Binary64} (h : xs.Perm ys) : sort xs = sort ys :=
  ((sort_perm xs).trans (h.trans (sort_perm ys).symm)).eq_of_pairwise
    (fun _ _ _ _ => totalOrder_antisymm) (sort_pairwise xs) (sort_pairwise ys)

theorem sort_append_comm (xs ys : List Binary64) : sort (xs ++ ys) = sort (ys ++ xs) :=
  sort_eq_of_perm List.perm_append_comm

theorem sort_append_assoc (xs ys zs : List Binary64) :
    sort (sort (xs ++ ys) ++ zs) = sort (xs ++ sort (ys ++ zs)) := by
  apply sort_eq_of_perm
  have left := (sort_perm (xs ++ ys)).append_right zs
  have right := (sort_perm (ys ++ zs)).append_left xs
  rw [List.append_assoc] at left
  exact left.trans right.symm

end Microbench.Binary64
