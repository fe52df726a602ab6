import Mathlib.Data.List.Basic
import Microbench.Proofs.RunMerge
import Microbench.Proofs.Slots

/-!
Samples that one recorder counts in its histogram. The histogram of appended samples adds the counts of both
parts slot by slot, and the summary of a histogram has all that is needed to build it again
(`Histogram.ofCounted_recorded`); so distributions of samples merge to the distribution of all of them
(`Distribution.ofSamples_append`).
-/

namespace Microbench

open Std

theorem satAdd_ne_zero {m n : UInt64} (positive : n ≠ 0) : satAdd m n ≠ 0 := by
  intro zero
  have sum := congrArg UInt64.toNat zero
  have counted : n.toNat ≠ 0 := fun none => positive (UInt64.toNat_inj.1 none)
  rw [toNat_satAdd] at sum
  change _ = 0 at sum
  omega

theorem zero_satAdd (n : UInt64) : satAdd 0 n = n := by rw [satAdd_comm, satAdd_zero]

theorem foldl_satAdd_eq (ns : List UInt64) : ns.foldl satAdd 0 = (folded satAdd ns).getD 0 := by
  cases ns with
  | nil => rfl
  | cons n ns =>
    rw [List.foldl_cons, zero_satAdd]
    rfl

theorem foldl_satAdd_append (ms ns : List UInt64) :
    (ms ++ ns).foldl satAdd 0 = satAdd (ms.foldl satAdd 0) (ns.foldl satAdd 0) := by
  rw [List.foldl_append, ← satAdd_merging.foldl_op (by simp) trivial trivial, satAdd_zero]

namespace Histogram

def slotOf (value : UInt64) : Nat := Slot.of (Slot.clamp value.toNat)

def top (slot : Nat) : UInt64 := UInt64.ofNat (Slot.high slot)

theorem slotOf_lt (value : UInt64) : slotOf value < Slot.count :=
  Slot.of_lt_count (Slot.clamp_lt_limit _)

theorem toNat_top {slot : Nat} (used : slot < Slot.count) : (top slot).toNat = Slot.high slot :=
  UInt64.toNat_ofNat_of_lt' (Nat.lt_trans (Slot.high_lt_limit used) (by decide))

theorem slotOf_top {slot : Nat} (used : slot < Slot.count) : slotOf (top slot) = slot := by
  rw [slotOf, toNat_top used]
  exact Slot.of_clamp_high used

theorem top_lt_top {slot later : Nat} (lt : slot < later) (used : later < Slot.count) :
    top slot < top later := by
  rw [UInt64.lt_iff_toNat_lt, toNat_top (Nat.lt_trans lt used), toNat_top used]
  exact Slot.high_lt_high lt

theorem record_eq (h : Histogram) (value times : UInt64) : h.record value times =
    ⟨addEntry satAdd h.counts (slotOf value, times), satAdd h.total times⟩ :=
  congrArg (Histogram.mk · (satAdd h.total times)) (alter_satAdd h.counts (slotOf value, times))

/-- The histogram of values that are counted so many times each. -/
def ofCounted (counted : List (UInt64 × UInt64)) : Histogram :=
  counted.foldl (fun h (value, n) => h.record value n) .empty

def ofSamples (samples : List UInt64) : Histogram := samples.foldl (·.record · 1) .empty

theorem ofSamples_eq (samples : List UInt64) : ofSamples samples = ofCounted (samples.map (·, 1)) := by
  rw [ofSamples, ofCounted, List.foldl_map]

def slots (counted : List (UInt64 × UInt64)) : List (Nat × UInt64) :=
  counted.map fun (value, n) => (slotOf value, n)

theorem ofCounted_eq (counted : List (UInt64 × UInt64)) : ofCounted counted =
    ⟨(slots counted).foldl (addEntry satAdd) ∅, (counted.map (·.2)).foldl satAdd 0⟩ := by
  have later (h : Histogram) : counted.foldl (fun h (value, n) => h.record value n) h =
      ⟨(slots counted).foldl (addEntry satAdd) h.counts, (counted.map (·.2)).foldl satAdd h.total⟩ := by
    induction counted generalizing h with
    | nil => rfl
    | cons c counted ih =>
      rw [List.foldl_cons, ih]
      simp only [record_eq]
      rfl
  exact later .empty

theorem getElem?_counts_ofCounted (counted : List (UInt64 × UInt64)) (slot : Nat) :
    (ofCounted counted).counts[slot]? = folded satAdd (under slot (slots counted)) := by
  rw [ofCounted_eq, getElem?_foldl_addEntry, ExtTreeMap.getElem?_empty]
  rfl

theorem counts_ofCounted_append (first second : List (UInt64 × UInt64)) :
    (ofCounted (first ++ second)).counts =
      unionWith satAdd (ofCounted first).counts (ofCounted second).counts := by
  apply ExtTreeMap.ext_getElem?
  intro slot
  rw [getElem?_unionWith, getElem?_counts_ofCounted, getElem?_counts_ofCounted, getElem?_counts_ofCounted,
    ← satAdd_merging.folded_append (by simp), slots, List.map_append, under, List.filterMap_append]
  rfl

theorem total_ofCounted_append (first second : List (UInt64 × UInt64)) :
    (ofCounted (first ++ second)).total = satAdd (ofCounted first).total (ofCounted second).total := by
  simp only [ofCounted_eq, List.map_append]
  exact foldl_satAdd_append ..

/-- What every histogram is that values were recorded in. -/
structure Proper (h : Histogram) : Prop where
  used : ∀ (slot : Nat) (n : UInt64), h.counts[slot]? = some n → slot < Slot.count ∧ n ≠ 0
  total : h.total = (h.counts.toList.map Prod.snd).foldl satAdd 0

theorem proper_empty : empty.Proper where
  used slot n held := by simp [empty] at held
  total := rfl

theorem Proper.record {h : Histogram} (proper : h.Proper) (value : UInt64) {times : UInt64}
    (positive : times ≠ 0) : (h.record value times).Proper := by
  rw [record_eq]
  constructor
  · intro slot n held
    simp only [getElem?_addEntry] at held
    split at held
    · rename_i same
      refine ⟨same ▸ slotOf_lt value, ?_⟩
      cases earlier : h.counts[slot]? with
      | none =>
        rw [earlier] at held
        exact Option.some.inj held ▸ positive
      | some m =>
        rw [earlier] at held
        exact Option.some.inj held ▸ satAdd_ne_zero positive
    · exact proper.used slot n held
  · have values := satAdd_merging.folded_values_addEntry h.counts (slotOf value) times
    rw [foldl_satAdd_eq, values, ← foldl_satAdd_eq, foldl_satAdd_append, ← proper.total, List.foldl_cons,
      zero_satAdd, List.foldl_nil]

theorem proper_ofCounted {counted : List (UInt64 × UInt64)} (positive : ∀ c ∈ counted, c.2 ≠ 0) :
    (ofCounted counted).Proper := by
  have later {h : Histogram} (proper : h.Proper) :
      (counted.foldl (fun h (value, n) => h.record value n) h).Proper := by
    induction counted generalizing h with
    | nil => exact proper
    | cons c counted ih =>
      exact ih (fun c' mem => positive c' (List.mem_cons_of_mem c mem))
        (proper.record c.1 (positive c List.mem_cons_self))
  exact later proper_empty

theorem proper_ofSamples (samples : List UInt64) : (ofSamples samples).Proper := by
  rw [ofSamples_eq]
  refine proper_ofCounted fun c mem => ?_
  obtain ⟨value, -, rfl⟩ := List.mem_map.1 mem
  exact (by decide : (1 : UInt64) ≠ 0)

namespace Proper

variable {h : Histogram}

theorem of_mem (proper : h.Proper) {entry : Nat × UInt64} (mem : entry ∈ h.counts.toList) :
    entry.1 < Slot.count ∧ entry.2 ≠ 0 :=
  proper.used entry.1 entry.2 (ExtTreeMap.mem_toList_iff_getElem?_eq_some.1 mem)

/-- Each slot that is held is listed with its largest value. -/
theorem recorded_eq (proper : h.Proper) :
    h.recorded = h.counts.toList.map fun (slot, n) => (top slot, n) := by
  refine List.filterMap_eq_map_iff_forall_eq_some.2 ?_
  rintro ⟨slot, n⟩ mem
  exact if_neg (proper.of_mem mem).2

/-- What is listed of a histogram is what it was made of, up to the values within a slot. -/
theorem ofCounted_recorded (proper : h.Proper) : ofCounted h.recorded = h := by
  have entries : slots h.recorded = h.counts.toList := by
    rw [proper.recorded_eq, slots, List.map_map]
    refine (List.map_congr_left fun entry mem => ?_).trans (List.map_id _)
    exact Prod.ext (slotOf_top (proper.of_mem mem).1) rfl
  have counts : h.counts.toList.foldl (addEntry satAdd) ∅ = h.counts := by
    apply ExtTreeMap.ext_getElem?
    intro slot
    refine (getElem?_unionWith satAdd ∅ h.counts slot).trans ?_
    rw [ExtTreeMap.getElem?_empty]
    cases h.counts[slot]? <;> rfl
  have total : (h.recorded.map (·.2)).foldl satAdd 0 = h.total := by
    rw [proper.recorded_eq, List.map_map]
    exact proper.total.symm
  rw [ofCounted_eq, entries, counts, total]

end Proper

end Histogram

namespace Distribution

open Histogram

section Counts

variable {h : Histogram}

theorem ascending_ofHistogram (proper : h.Proper) (total : UInt64) : (ofHistogram h total).Ascending := by
  have ascending : h.counts.toList.Pairwise fun a b => top a.1 < top b.1 :=
    ExtTreeMap.ordered_keys_toList.imp_of_mem fun _ mem lt =>
      top_lt_top (compare_eq_lt.1 lt) (proper.of_mem mem).1
  rw [Ascending, ofHistogram, proper.recorded_eq]
  exact List.pairwise_map.2 ascending

/-- A count is found under the largest value of its slot, and nothing is found elsewhere. -/
theorem getElem?_counts_eq_some (proper : h.Proper) {total value n : UInt64} :
    (ofHistogram h total).counts[value]? = some n ↔
      ∃ slot : Nat, h.counts[slot]? = some n ∧ top slot = value := by
  have distinct : (ofHistogram h total).buckets.Pairwise fun a b => ¬ compare a.1 b.1 = .eq :=
    (ascending_ofHistogram proper total).imp fun lt => by simp [compare_eq_lt.2 lt]
  refine (getElem?_ofList_eq_some_iff distinct).trans ?_
  rw [ofHistogram, proper.recorded_eq]
  simp [ExtTreeMap.mem_toList_iff_getElem?_eq_some]

theorem getElem?_counts_top (proper : h.Proper) (total : UInt64) {slot : Nat} (used : slot < Slot.count) :
    (ofHistogram h total).counts[top slot]? = h.counts[slot]? := by
  apply Option.ext
  intro n
  rw [getElem?_counts_eq_some proper]
  constructor
  · rintro ⟨other, held, same⟩
    have slot_eq : other = slot := by
      rw [← slotOf_top (proper.used other n held).1, same, slotOf_top used]
    exact slot_eq ▸ held
  · exact fun held => ⟨slot, held, rfl⟩

theorem getElem?_counts_of_not_top (proper : h.Proper) (total : UInt64) {value : UInt64}
    (other : ∀ slot < Slot.count, top slot ≠ value) : (ofHistogram h total).counts[value]? = none := by
  refine Option.eq_none_iff_forall_ne_some.2 fun n found => ?_
  obtain ⟨slot, held, same⟩ := (getElem?_counts_eq_some proper).1 found
  exact other slot (proper.used slot n held).1 same

end Counts

/-- Summaries merge where histograms do. -/
theorem ofHistogram_merge {g h both : Histogram} (left : g.Proper) (right : h.Proper) (proper : both.Proper)
    (counts : both.counts = unionWith satAdd g.counts h.counts) (total : both.total = satAdd g.total h.total)
    (s t : UInt64) : ofHistogram both (satAdd s t) = (ofHistogram g s).merge (ofHistogram h t) := by
  refine ext_counts (ascending_ofHistogram proper _) (merge_ascending ..) total rfl ?_
  apply ExtTreeMap.ext_getElem?
  intro value
  rw [counts_merge _ (ascending_ofHistogram right t), getElem?_unionWith]
  by_cases used : ∃ slot < Slot.count, top slot = value
  · obtain ⟨slot, used, rfl⟩ := used
    rw [getElem?_counts_top proper _ used, getElem?_counts_top left _ used, getElem?_counts_top right _ used,
      counts, getElem?_unionWith]
  · have other : ∀ slot < Slot.count, top slot ≠ value := fun slot lt same => used ⟨slot, lt, same⟩
    rw [getElem?_counts_of_not_top proper _ other, getElem?_counts_of_not_top left _ other,
      getElem?_counts_of_not_top right _ other]
    rfl

/-- The distribution of all samples is merged from those of its parts. -/
theorem ofSamples_append (xs ys : List UInt64) : ofSamples (xs ++ ys) = (ofSamples xs).merge (ofSamples ys) := by
  have counts := counts_ofCounted_append (xs.map (·, 1)) (ys.map (·, 1))
  have total := total_ofCounted_append (xs.map (·, 1)) (ys.map (·, 1))
  simp only [← List.map_append, ← Histogram.ofSamples_eq] at counts total
  rw [ofSamples, foldl_satAdd_append]
  exact ofHistogram_merge (proper_ofSamples xs) (proper_ofSamples ys) (proper_ofSamples (xs ++ ys)) counts total _ _

theorem ascending_ofSamples (samples : List UInt64) : (ofSamples samples).Ascending :=
  ascending_ofHistogram (proper_ofSamples samples) _

/-- The order of samples is not seen. -/
theorem ofSamples_perm {xs ys : List UInt64} (perm : xs.Perm ys) : ofSamples xs = ofSamples ys := by
  induction perm with
  | nil => rfl
  | cons x _ ih => rw [← List.singleton_append, ofSamples_append, ih, ← ofSamples_append, List.singleton_append]
  | swap x y xs =>
    have swapped : ofSamples [y, x] = ofSamples [x, y] := by
      rw [← List.singleton_append, ofSamples_append, merging.comm (ascending_ofSamples _) (ascending_ofSamples _),
        ← ofSamples_append, List.singleton_append]
    have front (a b : UInt64) : ofSamples (a :: b :: xs) = (ofSamples [a, b]).merge (ofSamples xs) :=
      ofSamples_append [a, b] xs
    rw [front, front, swapped]
  | trans _ _ first second => exact first.trans second

/-- The histogram is built again as it was recorded. -/
theorem histogram?_ofSamples (samples : List UInt64) :
    (ofSamples samples).histogram? = if samples = [] then none else some (.ofSamples samples) := by
  cases samples with
  | nil => rfl
  | cons x xs =>
    have one : (ofSamples [x]).count = 1 := rfl
    have counted : (ofSamples (x :: xs)).count ≠ 0 := by
      rw [← List.singleton_append, ofSamples_append, merge, satAdd_comm, one]
      exact satAdd_ne_zero (by decide)
    have rebuilt := (proper_ofSamples (x :: xs)).ofCounted_recorded
    rw [histogram?, isEmpty, beq_false_of_ne counted]
    exact congrArg some rebuilt

end Distribution

end Microbench
