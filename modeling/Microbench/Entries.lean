import Std.Data.ExtTreeMap

/-!
Maps and the lists of their entries. A map is the map of its entries, and a list in the order of
its keys is the list of entries of its map.
-/

namespace Microbench

open Std

variable {κ ν : Type} {cmp : κ → κ → Ordering} [TransCmp cmp] [LawfulEqCmp cmp] [DecidableEq κ]

theorem getElem?_ofList_eq_some_iff {entries : List (κ × ν)}
    (distinct : entries.Pairwise fun a b => ¬ cmp a.1 b.1 = .eq) {k : κ} {v : ν} :
    (ExtTreeMap.ofList entries cmp)[k]? = some v ↔ (k, v) ∈ entries := by
  constructor
  · intro h
    cases inside : (entries.map Prod.fst).contains k with
    | false =>
      rw [ExtTreeMap.getElem?_ofList_of_contains_eq_false inside] at h
      contradiction
    | true =>
      simp only [List.contains_iff_mem, List.mem_map, Prod.exists, exists_and_right,
        exists_eq_right] at inside
      obtain ⟨w, member⟩ := inside
      rw [ExtTreeMap.getElem?_ofList_of_mem ReflCmp.compare_self distinct member] at h
      rwa [← Option.some.inj h]
  · exact ExtTreeMap.getElem?_ofList_of_mem ReflCmp.compare_self distinct

theorem ofList_toList (m : ExtTreeMap κ ν cmp) : ExtTreeMap.ofList m.toList cmp = m := by
  apply ExtTreeMap.ext_getElem?
  intro k
  apply Option.ext
  intro v
  rw [getElem?_ofList_eq_some_iff ExtTreeMap.distinct_keys_toList,
    ExtTreeMap.mem_toList_iff_getElem?_eq_some]

theorem toList_ofList {entries : List (κ × ν)}
    (ascending : entries.Pairwise fun a b => cmp a.1 b.1 = .lt) :
    (ExtTreeMap.ofList entries cmp).toList = entries := by
  have distinct : entries.Pairwise fun a b => ¬ cmp a.1 b.1 = .eq := ascending.imp (by simp_all)
  have nodup {l : List (κ × ν)} (h : l.Pairwise fun a b => cmp a.1 b.1 = .lt) : l.Nodup := by
    refine h.imp ?_
    rintro a b lt rfl
    exact absurd (lt.symm.trans ReflCmp.compare_self) (by decide)
  have same : (ExtTreeMap.ofList entries cmp).toList.Perm entries := by
    apply (List.perm_ext_iff_of_nodup (nodup ExtTreeMap.ordered_keys_toList) (nodup ascending)).2
    rintro ⟨k, v⟩
    rw [ExtTreeMap.mem_toList_iff_getElem?_eq_some, getElem?_ofList_eq_some_iff distinct]
  refine same.eq_of_pairwise ?_ ExtTreeMap.ordered_keys_toList ascending
  intro a b _ _ lt gt
  rw [OrientedCmp.gt_of_lt lt] at gt
  contradiction

end Microbench
