import Mathlib.Data.List.Perm.Subperm
import Microbench.Proofs.Recording
import Microbench.Proofs.Sizes
import Microbench.Proofs.Totals

/-!
Distributions on their way from the recorder through merges and over the wire. Whichever way they have taken, they
are what one recorder would have made of all samples (`Distribution.Obtained.eq_ofSamples`), and so their buckets are
those of its histogram and rebuild it (`Distribution.Obtained.canonical`).
-/

namespace Microbench

open Std

namespace Histogram

def recordings (h : Histogram) : Nat := (h.counts.toList.map fun entry => entry.2.toNat).sum

theorem recordings_record_le (h : Histogram) (value times : UInt64) :
    (h.record value times).recordings ≤ h.recordings + times.toNat := by
  rw [record_eq]
  rcases toList_addEntry_perm satAdd h.counts (slotOf value) times with listed | ⟨earlier, rest, before, listed⟩
  · have sum := (listed.map fun entry => entry.2.toNat).sum_nat
    simp only [recordings, sum, List.map_cons, List.sum_cons]
    omega
  · have sum := (listed.map fun entry => entry.2.toNat).sum_nat
    have sum_before := (before.map fun entry => entry.2.toNat).sum_nat
    have added := toNat_satAdd earlier times
    simp only [recordings, sum, sum_before, List.map_cons, List.sum_cons]
    omega

theorem recordings_ofSamples_le (samples : List UInt64) : (ofSamples samples).recordings ≤ samples.length := by
  have later (h : Histogram) : (samples.foldl (·.record · 1) h).recordings ≤ h.recordings + samples.length := by
    induction samples generalizing h with
    | nil => exact Nat.le_refl _
    | cons x xs ih =>
      have one := recordings_record_le h x 1
      have rest := ih (h.record x 1)
      rw [List.foldl_cons, List.length_cons]
      have : (1 : UInt64).toNat = 1 := rfl
      omega
  have all := later .empty
  rwa [show empty.recordings = 0 from rfl, Nat.zero_add] at all

theorem toNat_total_ofSamples (samples : List UInt64) : (ofSamples samples).total.toNat = capped samples.length := by
  rw [ofSamples_eq, ofCounted_eq, toNat_foldl_satAdd]
  simp [Function.comp_def]

/-- As long as the number of samples fits into a word, no count is held back. -/
theorem recordings_ofSamples {samples : List UInt64} (few : samples.length < 2 ^ 64) :
    (ofSamples samples).recordings = samples.length ∧ (ofSamples samples).total.toNat = samples.length := by
  have total := toNat_total_ofSamples samples
  have listed := congrArg UInt64.toNat (proper_ofSamples samples).total
  rw [toNat_foldl_satAdd, List.map_map] at listed
  change _ = capped (0 + (ofSamples samples).recordings) at listed
  have le := recordings_ofSamples_le samples
  rw [total] at listed
  simp only [capped] at *
  omega

theorem Proper.length_le {h : Histogram} (proper : h.Proper) : h.counts.toList.length ≤ Slot.count := by
  have distinct : (h.counts.toList.map Prod.fst).Nodup := List.pairwise_map.2 (ne_of_toList h.counts)
  have within : h.counts.toList.map Prod.fst ⊆ List.range Slot.count := by
    intro slot mem
    obtain ⟨entry, held, rfl⟩ := List.mem_map.1 mem
    exact List.mem_range.2 (proper.of_mem held).1
  have le := (distinct.subperm within).length_le
  rwa [List.length_map, List.length_range] at le

end Histogram

namespace Distribution

open Histogram

/-- How a distribution of samples can come about. -/
inductive Obtained : Distribution → List UInt64 → Prop where
  | recorded (xs : List UInt64) : Obtained (ofSamples xs) xs
  | merged {a b xs ys} (left : Obtained a xs) (right : Obtained b ys) : Obtained (a.merge b) (xs ++ ys)
  | sent {a b xs before behind j} (obtained : Obtained a xs)
    (read : codec.read (before ++ codec.encode a ++ behind) before.size = .ok (b, j)) : Obtained b xs

theorem length_buckets_ofSamples_le (xs : List UInt64) : (ofSamples xs).buckets.length ≤ Slot.count := by
  have proper := proper_ofSamples xs
  have listed : (ofSamples xs).buckets = _ := proper.recorded_eq
  rw [listed, List.length_map]
  exact proper.length_le

/-- The distribution is the one that a single recorder makes of all samples. -/
theorem Obtained.eq_ofSamples {d : Distribution} {xs : List UInt64} (obtained : d.Obtained xs) : d = ofSamples xs := by
  induction obtained with
  | recorded xs => rfl
  | merged _ _ left right => rw [left, right, ofSamples_append]
  | @sent a b xs before behind j _ read same =>
    have short : (codec.encode a).size < 1 <<< 64 := by
      have few := length_buckets_ofSamples_le xs
      rw [size_encode, same]
      simp only [Slot.count] at few
      omega
    have back := codec.reads a short before behind
    rw [read] at back
    rw [← same]
    exact congrArg Prod.fst (Except.ok.inj back)

/-- However a distribution has come about, its buckets are in the order of their values, each with the largest value
of a slot and a count that is not zero; the counts add up to the number of samples, and there is at most one bucket
for each slot. The histogram that is rebuilt from it has the same distribution. -/
theorem Obtained.canonical {d : Distribution} {xs : List UInt64} (obtained : d.Obtained xs) (few : xs.length < 2 ^ 64) :
    d.Ascending ∧
    (∀ bucket ∈ d.buckets, bucket.2 ≠ 0 ∧
      ∃ slot < Slot.count, IsGreatest {value : Nat | Slot.of value = slot} bucket.1.toNat) ∧
    d.count.toNat = xs.length ∧ (d.buckets.map (·.2.toNat)).sum = d.count.toNat ∧ d.buckets.length ≤ 33792 ∧
    (d.histogram? = none ↔ xs = []) ∧
    ∀ h, d.histogram? = some h → h = Histogram.ofSamples xs ∧ ofHistogram h d.total = d := by
  obtain rfl := obtained.eq_ofSamples
  have proper := proper_ofSamples xs
  have listed : (ofSamples xs).buckets = _ := proper.recorded_eq
  obtain ⟨sum, total⟩ := recordings_ofSamples few
  refine ⟨ascending_ofSamples xs, fun bucket mem => ?_, total, ?_, length_buckets_ofSamples_le xs, ?_, ?_⟩
  · rw [listed] at mem
    obtain ⟨⟨slot, n⟩, held, rfl⟩ := List.mem_map.1 mem
    obtain ⟨used, positive⟩ := proper.of_mem held
    exact ⟨positive, slot, used, toNat_top used ▸ Slot.isGreatest_high slot⟩
  · rw [listed, List.map_map]
    exact sum.trans total.symm
  · simp [histogram?_ofSamples]
  · intro h rebuilt
    rw [histogram?_ofSamples] at rebuilt
    split at rebuilt
    · contradiction
    · obtain rfl := Option.some.inj rebuilt
      exact ⟨rfl, rfl⟩

/-- What two recorders made, of which one was given a time past the longest one, put together and sent. -/
theorem canonical_of_clamped : ∃ d, Obtained d [7, 5000, 18446744073709551615, 7] ∧
    d.buckets = [(7, 2), (5003, 1), (3601330077695, 1)] ∧ d.count.toNat = 4 ∧
    ∃ h, d.histogram? = some h ∧ ofHistogram h d.total = d := by
  let d := (ofSamples [7, 5000]).merge (ofSamples [18446744073709551615, 7])
  have merged : Obtained d [7, 5000, 18446744073709551615, 7] := .merged (.recorded _) (.recorded _)
  have sent : Obtained d [7, 5000, 18446744073709551615, 7] :=
    .sent merged (codec.reads d (by decide +kernel) .empty .empty)
  obtain ⟨-, -, count, -, -, missing, back⟩ := sent.canonical (by decide)
  cases rebuilt : d.histogram? with
  | none => exact absurd (missing.1 rebuilt) (by decide)
  | some h => exact ⟨d, sent, by decide +kernel, count, h, rebuilt, (back h rebuilt).2⟩

end Distribution

end Microbench
