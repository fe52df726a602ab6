import Microbench.Proofs.RunMerge
import Microbench.Store

/-!
Reports merged into a store, one after another. The entry of a descriptor is the merge of its own
reports in their order (`Store.get?_mergeReports`), and where they agree the order of all reports
does not matter (`Store.mergeReports_perm`).
-/

namespace Microbench

/-- The runs reported of a descriptor, in order. -/
def runsOf (d : Descriptor) (reports : List (Descriptor × Run)) : List Run :=
  (reports.filter (·.1 = d)).map (·.2)

@[simp] theorem runsOf_nil (d : Descriptor) : runsOf d [] = [] := rfl

theorem runsOf_cons (d e : Descriptor) (run : Run) (reports : List (Descriptor × Run)) :
    runsOf d ((e, run) :: reports) = if e = d then run :: runsOf d reports else runsOf d reports := by
  by_cases h : e = d <;> simp [runsOf, h]

theorem runsOf_append (d : Descriptor) (first second : List (Descriptor × Run)) :
    runsOf d (first ++ second) = runsOf d first ++ runsOf d second := by
  simp [runsOf]

theorem runsOf_flatMap {α : Type} (d : Descriptor) (f : α → List (Descriptor × Run)) (xs : List α) :
    runsOf d (xs.flatMap f) = xs.flatMap fun x => runsOf d (f x) := by
  induction xs with
  | nil => rfl
  | cons x xs ih => rw [List.flatMap_cons, List.flatMap_cons, runsOf_append, ih]

theorem runsOf_eq_nil {d : Descriptor} {reports : List (Descriptor × Run)}
    (others : ∀ report ∈ reports, report.1 ≠ d) : runsOf d reports = [] := by
  simpa [runsOf] using others

theorem runsOf_own {d : Descriptor} {reports : List (Descriptor × Run)}
    (own : ∀ report ∈ reports, report.1 = d) : runsOf d reports = reports.map (·.2) := by
  rw [runsOf, List.filter_eq_self.2 (by simpa using own)]

theorem runsOf_perm (d : Descriptor) {reports reports' : List (Descriptor × Run)}
    (h : reports.Perm reports') : (runsOf d reports).Perm (runsOf d reports') :=
  (h.filter _).map _

namespace Store

/-- Merge reports in order. -/
def mergeReports (s : Store) (reports : List (Descriptor × Run)) : Store :=
  reports.foldl (fun s report => s.merge report.1 report.2) s

@[simp] theorem mergeReports_nil (s : Store) : s.mergeReports [] = s := rfl

theorem mergeReports_append (s : Store) (first second : List (Descriptor × Run)) :
    s.mergeReports (first ++ second) = (s.mergeReports first).mergeReports second :=
  List.foldl_append

theorem ext_get? {s t : Store} (h : ∀ d, s.get? d = t.get? d) : s = t := by
  cases s; cases t
  exact congrArg Store.mk (Std.ExtTreeMap.ext_getElem? h)

/-- The entry of a descriptor is the merge of what was there and of its reports; other reports leave
it alone. -/
theorem get?_mergeReports (s : Store) (reports : List (Descriptor × Run)) (d : Descriptor) :
    (s.mergeReports reports).get? d = Run.mergeAll ((s.get? d).toList ++ runsOf d reports) := by
  induction reports generalizing s with
  | nil => cases h : s.get? d <;> simp [h, Run.mergeAll]
  | cons report reports ih =>
    obtain ⟨e, run⟩ := report
    have step := ih (s.merge e run)
    rw [get?_merge] at step
    rw [runsOf_cons, mergeReports, List.foldl_cons]
    refine step.trans ?_
    by_cases same : e = d
    · subst same
      cases h : s.get? e <;> simp [Run.mergeAll]
    · rw [if_neg same, if_neg same]

theorem get?_mergeReports_empty (reports : List (Descriptor × Run)) (d : Descriptor) :
    (empty.mergeReports reports).get? d = Run.mergeAll (runsOf d reports) := by
  rw [get?_mergeReports, get?_empty, Option.toList_none, List.nil_append]

/-- Reports that agree with each other, and with what the store holds, descriptor by descriptor. -/
def Mergeable (s : Store) (reports : List (Descriptor × Run)) : Prop :=
  ∀ d, ((s.get? d).toList ++ runsOf d reports).Pairwise Run.Agree ∧
    ∀ run ∈ (s.get? d).toList ++ runsOf d reports, run.Ascending

/-- Reports that all agree with each other can be merged into an empty store, whatever they are
of. -/
theorem mergeable_empty {reports : List (Descriptor × Run)}
    (agree : (reports.map (·.2)).Pairwise Run.Agree)
    (ascending : ∀ run ∈ reports.map (·.2), run.Ascending) : empty.Mergeable reports := by
  intro d
  have own : (runsOf d reports).Sublist (reports.map (·.2)) := List.filter_sublist.map _
  rw [get?_empty, Option.toList_none, List.nil_append]
  exact ⟨agree.sublist own, fun run hr => ascending run (own.subset hr)⟩

theorem mergeReports_perm {s : Store} {reports reports' : List (Descriptor × Run)}
    (mergeable : s.Mergeable reports) (perm : reports.Perm reports') :
    s.mergeReports reports = s.mergeReports reports' := by
  apply ext_get?
  intro d
  obtain ⟨schema, fits⟩ := Run.exists_schema (mergeable d).1 (mergeable d).2
  have runs := (runsOf_perm d perm).append_left (s.get? d).toList
  rw [get?_mergeReports, get?_mergeReports, Run.mergeAll_eq_folded, Run.mergeAll_eq_folded]
  exact (Run.merging schema).folded_perm runs fits

/-- Runs that reports contribute to a descriptor. -/
def contributed (d : Descriptor) (reports : List (Descriptor × Run)) : Nat :=
  (runsOf d reports).foldr (fun run total => run.contributions.toNat + total) 0

theorem contributed_cons (d e : Descriptor) (run : Run) (reports : List (Descriptor × Run)) :
    contributed d ((e, run) :: reports) =
      (if e = d then run.contributions.toNat else 0) + contributed d reports := by
  rw [contributed, runsOf_cons]
  by_cases same : e = d
  · simp [same, contributed]
  · simp [same, contributed]

theorem toNat_contributions_merge (s : Store) (d e : Descriptor) (run : Run) :
    ((s.merge e run).contributions d).toNat =
      min ((s.contributions d).toNat + if e = d then run.contributions.toNat else 0) (1 <<< 32 - 1) := by
  have small := run.contributions.toNat_lt
  have held := (s.contributions d).toNat_lt
  rw [contributions, get?_merge]
  by_cases same : e = d
  · subst same
    cases before : s.get? e with
    | none =>
      simp [contributions, before]
      omega
    | some r => simp [contributions, before, Run.merge]
  · simp [same, contributions] at held ⊢
    omega

/-- Contributions add up, as far as the count reaches. -/
theorem toNat_contributions_mergeReports (s : Store) (d : Descriptor) (reports : List (Descriptor × Run)) :
    ((s.mergeReports reports).contributions d).toNat =
      min ((s.contributions d).toNat + contributed d reports) (1 <<< 32 - 1) := by
  induction reports generalizing s with
  | nil =>
    have held := (s.contributions d).toNat_lt
    change (s.contributions d).toNat = min ((s.contributions d).toNat + 0) _
    omega
  | cons report reports ih =>
    obtain ⟨e, run⟩ := report
    have first := toNat_contributions_merge s d e run
    change (((s.merge e run).mergeReports reports).contributions d).toNat = _
    rw [ih, first, contributed_cons]
    omega

end Store

end Microbench
