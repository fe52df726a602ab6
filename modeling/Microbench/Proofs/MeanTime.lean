import Mathlib.Algebra.Order.Round
import Mathlib.Data.Rat.Floor
import Mathlib.Tactic.Linarith
import Microbench.Proofs.RunSplit

/-!
The time of threads that run side by side. It is the exact mean of their times, a half rounded up, and so it lies among
them and fits a word. Values of another kind than the first are left out before anything is added
(`Value.ofThreads_eq_kept`); what comes of the others does not depend on their order (`Value.ofThreads_of_first`).
-/

namespace Microbench

namespace Value

/-- What it means that `t` is the mean of these times: a half is rounded up, and nothing is left of less than half a
unit for each. -/
structure IsMean (times : List Nat) (t : Nat) : Prop where
  rounded : (t : ℤ) = round ((times.sum : ℚ) / times.length)
  least : ∃ lo, times.min? = some lo ∧ lo ≤ t
  largest : ∃ hi, times.max? = some hi ∧ t ≤ hi
  zero : t = 0 ↔ times.sum < (times.length + 1) / 2

theorem mean_bounds (total : Nat) {n : Nat} (pos : 0 < n) :
    2 * (n * mean total n) ≤ 2 * total + n ∧ 2 * total + n < 2 * (n * (mean total n + 1)) := by
  have lower := Nat.mul_div_le (total + n / 2) n
  have upper := Nat.lt_mul_div_succ (total + n / 2) pos
  rw [mean]
  omega

theorem mean_eq_round (total : Nat) {n : Nat} (pos : 0 < n) : (mean total n : ℤ) = round ((total : ℚ) / n) := by
  obtain ⟨lower, upper⟩ := mean_bounds total pos
  have pos : (0 : ℚ) < n := by exact_mod_cast pos
  have lower : (2 : ℚ) * (n * mean total n) ≤ 2 * total + n := by exact_mod_cast lower
  have upper : (2 : ℚ) * total + n < 2 * (n * (mean total n + 1)) := by exact_mod_cast upper
  have half : (total : ℚ) / n + 1 / 2 = (2 * total + n) / (2 * n) := by field_simp
  rw [round_eq, half, eq_comm, Int.floor_eq_iff, le_div_iff₀ (by linarith), div_lt_iff₀ (by linarith)]
  constructor
  · push_cast
    linarith
  · push_cast
    linarith

theorem mean_eq_zero_iff (total : Nat) {n : Nat} (pos : 0 < n) : mean total n = 0 ↔ total < (n + 1) / 2 := by
  rw [mean, Nat.div_eq_zero_iff]
  omega

/-- A rounded mean is no smaller than all it is taken of. -/
theorem le_mean {times : List Nat} {bound : Nat} (some_time : times ≠ []) (le : ∀ t ∈ times, bound ≤ t) :
    bound ≤ mean times.sum times.length := by
  have le_sum : times.length * bound ≤ times.sum := by
    clear some_time
    induction times with
    | nil => simp
    | cons t times ih =>
      have first := le t List.mem_cons_self
      have rest := ih fun u mem => le u (List.mem_cons_of_mem t mem)
      rw [List.sum_cons, List.length_cons, Nat.succ_mul]
      omega
  rw [mean, Nat.le_div_iff_mul_le (List.length_pos_iff.2 some_time), Nat.mul_comm]
  omega

theorem isMean_mean {times : List Nat} (some_time : times ≠ []) : IsMean times (mean times.sum times.length) where
  rounded := mean_eq_round _ (List.length_pos_iff.2 some_time)
  least := by
    obtain ⟨lo, least⟩ := Option.isSome_iff_exists.1 (List.isSome_min?_iff.2 some_time)
    exact ⟨lo, least, le_mean some_time (List.min?_eq_some_iff.1 least).2⟩
  largest := by
    obtain ⟨hi, largest⟩ := Option.isSome_iff_exists.1 (List.isSome_max?_iff.2 some_time)
    exact ⟨hi, largest, mean_le (List.max?_eq_some_iff.1 largest).2⟩
  zero := mean_eq_zero_iff _ (List.length_pos_iff.2 some_time)

theorem kind_of_mem_kept {first : Value} {rest : List Value} :
    ∀ v ∈ kept first rest, v.measurement.sameKind first.measurement :=
  fun _ mem => (List.mem_filter.1 mem).2

theorem kept_ne_nil (first : Value) (rest : List Value) : kept first rest ≠ [] := by simp [kept_eq_cons]

/-- What is left when the others are left out is kept as it is. -/
theorem ofThreads_eq_kept (first : Value) (rest : List Value) :
    ofThreads (first :: rest) = ofThreads (kept first rest) := by
  have again : kept first (rest.filter (·.measurement.sameKind first.measurement)) = kept first rest := by
    rw [kept, ← kept_eq_cons, kept, List.filter_filter]
    simp only [Bool.and_self]
  rw [kept_eq_cons, ofThreads, ofThreads, again]

theorem span_of_rate {model : Measurement} (rate : model.sameKind (.throughput 0 0)) (threads : List Value) :
    span model threads = mean (threads.map time).sum (threads.map time).length := by
  rw [List.length_map]
  cases model with
  | throughput n t => rfl
  | averageTime | sampleTime | singleShot => contradiction

theorem span_of_other {model : Measurement} (other : ¬ model.sameKind (.throughput 0 0)) (threads : List Value) :
    span model threads = (threads.map time).sum := by
  cases model with
  | throughput n t => exact absurd rfl other
  | averageTime | sampleTime | singleShot => rfl

/-- Of values that can be merged in any order it does not matter in which order the threads stand. -/
theorem ofThreads_perm {model : Value} {xs ys : List Value} (perm : xs.Perm ys) (fits : ∀ v ∈ xs, model.Fits v) :
    ofThreads xs = ofThreads ys := by
  have fits' : ∀ v ∈ ys, model.Fits v := fun v mem => fits v (perm.mem_iff.2 mem)
  cases xs with
  | nil => rw [perm.nil_eq]
  | cons x xs =>
    obtain ⟨y, ys, rfl⟩ := List.exists_cons_of_ne_nil fun none : ys = [] => by simp [none] at perm
    have hx := (fits x List.mem_cons_self).1
    have hy := (fits' y List.mem_cons_self).1
    by_cases rate : model.measurement.sameKind (.throughput 0 0)
    · have rates : ∀ v ∈ x :: xs, v.measurement.sameKind (.throughput 0 0) := fun v mem =>
        Measurement.sameKind_trans (fits v mem).1.kind rate
      have rates' : ∀ v ∈ y :: ys, v.measurement.sameKind (.throughput 0 0) := fun v mem =>
        Measurement.sameKind_trans (fits' v mem).1.kind rate
      have operations : ((x :: xs).map (·.measurement.count)).foldl satAdd 0 =
          ((y :: ys).map (·.measurement.count)).foldl satAdd 0 := by
        apply UInt64.toNat_inj.1
        rw [toNat_foldl_satAdd, toNat_foldl_satAdd, ((perm.map _).map UInt64.toNat).sum_nat]
      rw [ofThreads_throughput rates, ofThreads_throughput rates', operations, (perm.map time).sum_nat,
        perm.length_eq, hx.label.trans hy.label.symm, hx.unit.trans hy.unit.symm]
    · have other {v : Value} (alike : v.Alike model) : ¬ v.measurement.sameKind (.throughput 0 0) := fun same =>
        rate (Measurement.sameKind_trans (Measurement.sameKind_symm alike.kind) same)
      rw [ofThreads_eq_ofRuns (other hx), ofThreads_eq_ofRuns (other hy)]
      exact (merging model).folded_perm perm fits

section Kept

variable {first : Value} {rest : List Value}

theorem exists_ofThreads (first : Value) (rest : List Value) : ∃ v, ofThreads (first :: rest) = some v := by
  rw [ofThreads]
  split <;> exact ⟨_, rfl⟩

/-- The value is called what the first one is called. -/
theorem alike_of_ofThreads {v : Value} (made : ofThreads (first :: rest) = some v) : v.Alike first := by
  rw [ofThreads_eq_kept] at made
  have kind := (ofThreads_sums kind_of_mem_kept made).kind
  rw [← ofThreads_eq_kept, ofThreads] at made
  obtain rfl := Option.some.inj made
  exact ⟨rfl, rfl, kind⟩

/-- The mean is taken without loss. -/
theorem isMean_of_ofThreads (rate : first.measurement.sameKind (.throughput 0 0)) {v : Value}
    (made : ofThreads (kept first rest) = some v) : IsMean ((kept first rest).map time) v.time := by
  have total := (ofThreads_sums kind_of_mem_kept made).time
  have fits := mean_time_le (kept first rest)
  rw [← List.length_map (f := time)] at fits
  rw [List.map_singleton, List.sum_singleton, span_of_rate rate, capped_of_le fits] at total
  rw [total]
  exact isMean_mean (by simp [kept_ne_nil])

end Kept

/-- The values of an iteration's threads, of which there is at least one, come to one value that has the label, the unit
and the kind of the first. Values of another kind are left out, and all of the others are counted. A rate has the mean
of their times, of which there is at least one to divide by, and the mean fits a word; the other kinds are added
as in a run, with the values of another kind or without them. Of values that share label, unit and kind the order does
not matter. -/
theorem ofThreads_of_first (first : Value) (rest : List Value) :
    ∃ v, ofThreads (first :: rest) = some v ∧ ofThreads (kept first rest) = some v ∧ v.Alike first ∧
      v.count = capped ((kept first rest).map count).sum ∧
      (first.measurement.sameKind (.throughput 0 0) →
        0 < (kept first rest).length ∧
        mean ((kept first rest).map time).sum (kept first rest).length ≤ 1 <<< 64 - 1 ∧
        IsMean ((kept first rest).map time) v.time) ∧
      (¬ first.measurement.sameKind (.throughput 0 0) →
        ofRuns (first :: rest) = some v ∧ ofRuns (kept first rest) = some v ∧
        v.time = capped ((kept first rest).map time).sum) ∧
      ((∀ w ∈ first :: rest, first.Fits w) → ∀ order, (first :: rest).Perm order → ofThreads order = some v) := by
  obtain ⟨v, made⟩ := exists_ofThreads first rest
  have made_of_kept := made
  rw [ofThreads_eq_kept] at made_of_kept
  have sums := ofThreads_sums kind_of_mem_kept made_of_kept
  refine ⟨v, made, made_of_kept, alike_of_ofThreads made, ?_, fun rate => ?_, fun other => ?_,
    fun fits order perm => ?_⟩
  · simpa using sums.count
  · exact ⟨List.length_pos_iff.2 (kept_ne_nil first rest), mean_time_le _, isMean_of_ofThreads rate made_of_kept⟩
  · refine ⟨(ofThreads_eq_ofRuns other rest).symm.trans made, ?_, ?_⟩
    · rw [kept_eq_cons] at made_of_kept ⊢
      exact (ofThreads_eq_ofRuns other _).symm.trans made_of_kept
    · simpa [span_of_other other] using sums.time
  · rw [← ofThreads_perm perm fits, made]

/-- Two rates whose operations saturate and whose mean time is a half, with an average time between them that is left
out; and three average times in another order. -/
theorem ofThreads_of_first_of_mixed :
    let rate n t : Value := ⟨"copy", .seconds, .throughput n t⟩
    let average n t : Value := ⟨"copy", .seconds, .averageTime n t⟩
    ofThreads [rate 0xffffffffffffffff 1, average 3 5, rate 1 2] = some (rate 0xffffffffffffffff 2) ∧
    IsMean [1, 2] 2 ∧
    (∀ w ∈ [average 3 5, average 1 0xffffffffffffffff, average 0 2], (average 3 5).Fits w) ∧
    ofThreads [average 0 2, average 1 0xffffffffffffffff, average 3 5] = some (average 4 0xffffffffffffffff) := by
  intro rate average
  obtain ⟨v, made, -, -, -, mean, -⟩ :=
    ofThreads_of_first (rate 0xffffffffffffffff 1) [average 3 5, rate 1 2]
  obtain ⟨w, added, -, -, -, -, -, order⟩ :=
    ofThreads_of_first (average 3 5) [average 1 0xffffffffffffffff, average 0 2]
  have evaluated : ofThreads [rate 0xffffffffffffffff 1, average 3 5, rate 1 2] =
      some (rate 0xffffffffffffffff 2) := by decide
  have sum : ofThreads [average 3 5, average 1 0xffffffffffffffff, average 0 2] =
      some (average 4 0xffffffffffffffff) := by decide
  have fits : ∀ w ∈ [average 3 5, average 1 0xffffffffffffffff, average 0 2], (average 3 5).Fits w := by
    simp [average, Fits, Alike.refl, Ascending, Measurement.Ascending]
    exact ⟨⟨rfl, rfl, rfl⟩, ⟨rfl, rfl, rfl⟩⟩
  obtain rfl := Option.some.inj (made.symm.trans evaluated)
  obtain rfl := Option.some.inj (added.symm.trans sum)
  refine ⟨evaluated, (mean rfl).2.2, fits, order fits _ ?_⟩
  exact List.reverse_perm [average 0 2, average 1 0xffffffffffffffff, average 3 5]

end Value

end Microbench
