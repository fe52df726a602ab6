import Mathlib.Order.Monotone.Basic
import Mathlib.Tactic.Ring
import Microbench.Distribution.Slot

/-!
Slots cut the values that are tracked into intervals. The largest value of a slot falls back into it, and later
slots hold larger values; so the largest value of a slot tells which slot it is (`of_clamp_high`, `high_lt_high`).
-/

namespace Microbench.Slot

/-- The leading bits of the values in a slot, which it does not ignore. -/
def leading (slot : Nat) : Nat := slot - width slot * 1024

theorem leading_add_width (slot : Nat) : leading slot + width slot * 1024 = slot := by
  simp only [leading, width]
  omega

theorem leading_lt (slot : Nat) : leading slot < 2048 := by
  simp only [leading, width]
  omega

/-- Only the first slots have values with fewer bits. -/
theorem le_leading {slot : Nat} (wide : width slot ≠ 0) : 1024 ≤ leading slot := by
  simp only [leading, width] at *
  omega

theorem low_eq (slot : Nat) : low slot = leading slot * 2 ^ width slot := Nat.shiftLeft_eq ..

theorem high_add_one (slot : Nat) : high slot + 1 = (leading slot + 1) * 2 ^ width slot := by
  have positive : 0 < (leading slot + 1) * 2 ^ width slot :=
    Nat.mul_pos (Nat.succ_pos _) (Nat.two_pow_pos _)
  have shifted : high slot = (leading slot + 1) * 2 ^ width slot - 1 :=
    congrArg (· - 1) (Nat.shiftLeft_eq ..)
  omega

theorem low_le_high (slot : Nat) : low slot ≤ high slot := by
  have low := low_eq slot
  have high := high_add_one slot
  have positive : 0 < 2 ^ width slot := Nat.two_pow_pos _
  rw [Nat.add_mul] at high
  omega

/-- A slot begins right behind the one before it. -/
theorem low_succ (slot : Nat) : low (slot + 1) = high slot + 1 := by
  rw [low_eq, high_add_one]
  by_cases last : leading slot = 2047
  · -- Behind the last slot of a width, the next one has half the leading bits and twice the width.
    have wider : width (slot + 1) = width slot + 1 ∧ leading (slot + 1) = 1024 := by
      simp only [leading, width] at *
      omega
    rw [wider.1, wider.2, last, Nat.pow_succ]
    omega
  · have same : width (slot + 1) = width slot ∧ leading (slot + 1) = leading slot + 1 := by
      simp only [leading, width] at *
      omega
    rw [same.1, same.2]

theorem high_lt_high {slot later : Nat} (lt : slot < later) : high slot < high later := by
  refine strictMono_nat_of_lt_succ (fun slot => ?_) lt
  have next := low_succ slot
  have inside := low_le_high (slot + 1)
  omega

/-- The ignored bits of a value with these leading bits. -/
theorem shift_eq {slot value : Nat} (above : low slot ≤ value) (below : value ≤ high slot) :
    shift value = width slot := by
  have low := low_eq slot
  have high := high_add_one slot
  have lt := leading_lt slot
  have bound : value < 2 ^ (width slot + 11) := by
    calc value < (leading slot + 1) * 2 ^ width slot := by omega
      _ ≤ 2048 * 2 ^ width slot := Nat.mul_le_mul_right _ (by omega)
      _ = 2 ^ (width slot + 11) := by ring
  have upper : value ||| 2047 < 2 ^ (width slot + 11) := by
    refine Nat.or_lt_two_pow bound ?_
    calc 2047 < 2 ^ 11 := by decide
      _ ≤ 2 ^ (width slot + 11) := Nat.pow_le_pow_right (by decide) (by omega)
  have lower : 2 ^ (width slot + 10) ≤ value ||| 2047 := by
    by_cases narrow : width slot = 0
    · rw [narrow]
      exact Nat.le_trans (by decide) Nat.right_le_or
    · calc 2 ^ (width slot + 10) = 1024 * 2 ^ width slot := by ring
        _ ≤ leading slot * 2 ^ width slot := Nat.mul_le_mul_right _ (le_leading narrow)
        _ ≤ value := by omega
        _ ≤ value ||| 2047 := Nat.left_le_or
  have log : (value ||| 2047).log2 = width slot + 10 :=
    (Nat.log2_eq_iff (Nat.ne_of_gt (Nat.lt_of_lt_of_le (Nat.two_pow_pos _) lower))).2 ⟨lower, upper⟩
  rw [shift, log]
  omega

/-- The values between both ends of a slot are in it. -/
theorem of_eq {slot value : Nat} (above : low slot ≤ value) (below : value ≤ high slot) :
    of value = slot := by
  have low := low_eq slot
  have high := high_add_one slot
  have front : value / 2 ^ width slot = leading slot := by
    refine Nat.div_eq_of_lt_le ?_ ?_
    · omega
    · omega
  rw [of, shift_eq above below, Nat.shiftRight_eq_div_pow, front, Nat.add_comm]
  exact leading_add_width slot

/-- Ten bits and the one in front of them are left of a value. -/
theorem front_lt (value : Nat) : value / 2 ^ shift value < 2048 := by
  refine Nat.div_lt_of_lt_mul ?_
  calc value ≤ value ||| 2047 := Nat.left_le_or
    _ < 2 ^ ((value ||| 2047).log2 + 1) := Nat.lt_log2_self
    _ ≤ 2 ^ (shift value + 11) := Nat.pow_le_pow_right (by decide) (by rw [shift]; omega)
    _ = 2 ^ shift value * 2048 := by ring

theorem of_lt_count {value : Nat} (tracked : value < limit) : of value < count := by
  have upper : value ||| 2047 < 2 ^ 42 := Nat.or_lt_two_pow tracked (by decide)
  have positive : value ||| 2047 ≠ 0 := by
    have : 2047 ≤ value ||| 2047 := Nat.right_le_or
    omega
  have log : (value ||| 2047).log2 < 42 := (Nat.log2_lt positive).2 upper
  have front := front_lt value
  have ignored : shift value ≤ 31 := by rw [shift]; omega
  rw [of, Nat.shiftRight_eq_div_pow, count]
  omega

theorem clamp_lt_limit (value : Nat) : clamp value < limit := by
  unfold clamp
  split
  · assumption
  · decide

theorem high_lt_limit {slot : Nat} (used : slot < count) : high slot < limit := by
  have narrow : width slot ≤ 31 := by
    simp only [width, count] at *
    omega
  have lt := leading_lt slot
  have high := high_add_one slot
  have bound : (leading slot + 1) * 2 ^ width slot ≤ limit := by
    calc (leading slot + 1) * 2 ^ width slot ≤ 2048 * 2 ^ width slot := Nat.mul_le_mul_right _ (by omega)
      _ ≤ 2048 * 2 ^ 31 := Nat.mul_le_mul_left _ (Nat.pow_le_pow_right (by decide) narrow)
      _ = limit := by decide
  omega

/-- The largest value of a slot is counted in it again. -/
theorem of_clamp_high {slot : Nat} (used : slot < count) : of (clamp (high slot)) = slot := by
  rw [clamp, if_pos (high_lt_limit used)]
  exact of_eq (low_le_high slot) (Nat.le_refl _)

/-- Where bits of a value are ignored, the first of those that are left is set. -/
theorem le_front (value : Nat) : shift value = 0 ∨ 1024 ≤ value / 2 ^ shift value := by
  by_cases narrow : (value ||| 2047).log2 < 11
  · left
    rw [shift]
    omega
  · right
    have ignored : (value ||| 2047).log2 = shift value + 10 := by
      rw [shift]
      omega
    have lower : 2 ^ (shift value + 10) ≤ value := by
      by_contra short
      have small : 2047 < 2 ^ (shift value + 10) := by
        calc 2047 < 2 ^ 11 := by decide
          _ ≤ 2 ^ (shift value + 10) := Nat.pow_le_pow_right (by decide) (by omega)
      have below := Nat.or_lt_two_pow (Nat.lt_of_not_le short) small
      have positive : value ||| 2047 ≠ 0 := by
        have : 2047 ≤ value ||| 2047 := Nat.right_le_or
        omega
      have := (Nat.log2_lt positive).2 below
      omega
    rw [Nat.le_div_iff_mul_le (Nat.two_pow_pos _)]
    calc 1024 * 2 ^ shift value = 2 ^ (shift value + 10) := by ring
      _ ≤ value := lower

/-- A value is at most the largest one of the slot that it is counted in. -/
theorem le_high_of (value : Nat) : value ≤ high (of value) := by
  have front := front_lt value
  have first := le_front value
  have parts : width (of value) = shift value ∧ leading (of value) = value / 2 ^ shift value := by
    rw [leading, of, Nat.shiftRight_eq_div_pow, width]
    generalize value / 2 ^ shift value = front at *
    omega
  have high := high_add_one (of value)
  rw [parts.1, parts.2] at high
  have inside := Nat.lt_mul_div_succ value (Nat.two_pow_pos (shift value))
  rw [Nat.mul_comm] at inside
  omega

theorem isGreatest_high (slot : Nat) : IsGreatest {value | of value = slot} (high slot) := by
  refine ⟨of_eq (low_le_high slot) (Nat.le_refl _), ?_⟩
  rintro value rfl
  exact le_high_of value

end Microbench.Slot
