import Mathlib.Algebra.Ring.Nat
import Mathlib.Tactic.SplitIfs
import Microbench.Proofs.Link.Delivery
import Microbench.Proofs.StoreMerge

/-!
What a store holds. However many handles to a store there are, they share its entries, so the merges made through all of
them are one sequence. The entries are what that sequence gives for each descriptor apart, with no score lost or
counted twice, and they are listed in the order of the bytes of the names (`Store.mergeReports_contents`).
-/

namespace Microbench

open Wire

/-- Characters keep their order in UTF-8, whatever follows them. -/
theorem utf8EncodeChar_append_lt {c d : Char} (lt : c < d) (xs ys : List UInt8) :
    String.utf8EncodeChar c ++ xs < String.utf8EncodeChar d ++ ys := by
  have lt : c.val.toNat < d.val.toNat := lt
  have bound : d.val.toNat < 0x110000 := by
    have valid := d.valid
    simp only [UInt32.isValidChar, Nat.isValidChar] at valid
    omega
  unfold String.utf8EncodeChar
  dsimp only
  generalize c.val.toNat = v at *
  generalize d.val.toNat = w at *
  -- Encodings of two lengths differ in the first byte; those of one length have the digits of the code points.
  split_ifs
  all_goals
    simp (disch := omega) only [List.cons_append, List.nil_append, List.cons_lt_cons_iff, UInt8.lt_iff_toNat_lt,
      ← UInt8.toNat_inj, UInt8.toNat_ofNat', Nat.mod_eq_of_lt]
    omega

theorem flatMap_utf8EncodeChar_lt {cs ds : List Char} (lt : cs < ds) :
    cs.flatMap String.utf8EncodeChar < ds.flatMap String.utf8EncodeChar := by
  induction lt with
  | @nil d ds =>
    obtain ⟨b, bs, first⟩ := List.exists_cons_of_ne_nil (String.utf8EncodeChar_ne_nil (c := d))
    rw [List.flatMap_cons, first]
    exact .nil
  | rel lt =>
    rw [List.flatMap_cons, List.flatMap_cons]
    exact utf8EncodeChar_append_lt lt _ _
  | cons _ ih =>
    rw [List.flatMap_cons, List.flatMap_cons]
    exact List.append_left_lt ih

theorem toList_data_toByteArray (s : String) :
    s.toByteArray.data.toList = s.toList.flatMap String.utf8EncodeChar := by
  have encoded : (String.ofList s.toList).toByteArray = s.toList.utf8Encode := String.toByteArray_ofList
  rw [String.ofList_toList] at encoded
  rw [encoded, List.utf8Encode, List.toList_data_toByteArray]

/-- Texts are in the order of their bytes. -/
theorem lt_iff_bytes_lt (s t : String) :
    s < t ↔ s.toByteArray.data.toList < t.toByteArray.data.toList := by
  have keeps {s t : String} (lt : s < t) : s.toByteArray.data.toList < t.toByteArray.data.toList := by
    rw [toList_data_toByteArray, toList_data_toByteArray]
    exact flatMap_utf8EncodeChar_lt lt
  refine ⟨keeps, fun lt => Decidable.not_not.1 fun not_lt => ?_⟩
  by_cases same : s = t
  · rw [same] at lt
    exact List.lt_irrefl _ lt
  · have before : t < s := Decidable.not_not.1 fun le => same (String.le_antisymm le not_lt)
    exact List.lt_asymm lt (keeps before)

namespace Descriptor

/-- Descriptors are in the order of the bytes of their names, then of their modes, then of their threads. -/
def Precedes (a b : Descriptor) : Prop :=
  a.name.toByteArray.data.toList < b.name.toByteArray.data.toList ∨
    a.name = b.name ∧ (a.mode.rank < b.mode.rank ∨ a.mode = b.mode ∧ a.threads < b.threads)

theorem compare_eq_lt_iff (a b : Descriptor) : compare a b = .lt ↔ a.Precedes b := by
  change ((compare a.name b.name).then
    ((compare a.mode.rank b.mode.rank).then (compare a.threads b.threads))) = .lt ↔ _
  have names : compare a.name b.name = .lt ↔ a.name < b.name := compareOfLessAndEq_eq_lt
  have modes : a.mode.rank = b.mode.rank ↔ a.mode = b.mode := ⟨Mode.rank_inj, congrArg Mode.rank⟩
  rw [Ordering.then_eq_lt, Ordering.then_eq_lt, names, lt_iff_bytes_lt, Std.LawfulEqOrd.compare_eq_iff_eq,
    Std.LawfulEqOrd.compare_eq_iff_eq, Nat.compare_eq_lt, Std.compare_eq_lt, modes, Precedes]

end Descriptor

namespace Run

/-- How a run can come about. -/
inductive Built : Run → Prop where
  | measured {samples r} (made : ofSamples samples = some r) : Built r
  | merged {a b} (left : Built a) (right : Built b) : Built (a.merge b)
  | received {a b d e style arrivals back rest} (built : Built a) (fits : (Frame.report d a).Fits)
    (sound : ∀ arrival ∈ arrivals, arrival.Sound style)
    (carries : Stream.content arrivals = (Frame.report d a).bytes ++ back)
    (read : Stream.next style arrivals = .frame (.report e b) rest) : Built b

theorem Built.ascending {r : Run} (built : r.Built) : r.scores.Pairwise (·.totalOrder ·) := by
  induction built with
  | @measured samples r made =>
    obtain ⟨v, -, rfl⟩ := Option.map_eq_some_iff.1 made
    exact Binary64.sort_pairwise _
  | merged _ _ _ _ => exact Binary64.sort_pairwise _
  | received _ fits sound carries read same =>
    obtain ⟨rest, frame, -⟩ := Stream.next_eq_frame sound fits carries
    rw [frame] at read
    cases read
    exact same

theorem Built.foldl {first : Run} {rest : List Run} (built : first.Built) (all : ∀ run ∈ rest, run.Built) :
    (rest.foldl merge first).Built := by
  induction rest generalizing first with
  | nil => exact built
  | cons run rest ih =>
    exact ih (.merged built (all run List.mem_cons_self)) fun other mem => all other (List.mem_cons_of_mem run mem)

theorem scores_foldl_perm (first : Run) (rest : List Run) :
    (rest.foldl merge first).scores.Perm (first.scores ++ rest.flatMap (·.scores)) := by
  induction rest generalizing first with
  | nil => simp
  | cons run rest ih =>
    have step : (first.merge run).scores.Perm (first.scores ++ run.scores) := Binary64.sort_perm _
    rw [List.foldl_cons, List.flatMap_cons, ← List.append_assoc]
    exact (ih (first.merge run)).trans (step.append_right _)

/-- The scores of all runs are those of each of them, in ascending order. -/
theorem scores_of_mergeAll {runs : List Run} (built : ∀ run ∈ runs, run.Built) {r : Run}
    (merged : mergeAll runs = some r) :
    r.scores.Perm (runs.flatMap (·.scores)) ∧ r.scores.Pairwise (·.totalOrder ·) := by
  cases runs with
  | nil => contradiction
  | cons first rest =>
    obtain rfl := Option.some.inj merged
    refine ⟨scores_foldl_perm first rest, Built.ascending ?_⟩
    exact (built first List.mem_cons_self).foldl fun run mem => built run (List.mem_cons_of_mem first mem)

theorem isSome_mergeAll (runs : List Run) : (mergeAll runs).isSome ↔ runs ≠ [] := by
  cases runs <;> simp [mergeAll]

end Run

namespace Store

theorem mem_toList_iff (s : Store) (d : Descriptor) (r : Run) : (d, r) ∈ s.toList ↔ s.get? d = some r :=
  Std.ExtTreeMap.mem_toList_iff_getElem?_eq_some

theorem toList_ascending (s : Store) : (s.toList.map (·.1)).Pairwise Descriptor.Precedes := by
  have ordered : s.toList.Pairwise fun a b => compare a.1 b.1 = .lt := Std.ExtTreeMap.ordered_keys_toList
  exact List.pairwise_map.2 (ordered.imp fun lt => (Descriptor.compare_eq_lt_iff _ _).1 lt)

theorem contributed_eq_sum (d : Descriptor) (reports : List (Descriptor × Run)) :
    contributed d reports = ((runsOf d reports).map (·.contributions.toNat)).sum := by
  rw [contributed, List.sum, List.foldr_map]

/-- A store that is filled by any sequence of merges has an entry for each descriptor that something was merged for, and
no others: the merge of its own runs in their order. Its contributions are added as far as the count reaches, its scores
are exactly those of its runs, in ascending order, and a merge for one descriptor leaves the others as they are. The
entries are listed in the order of the bytes of the names, then of the modes and the threads. -/
theorem mergeReports_contents {reports : List (Descriptor × Run)} (built : ∀ report ∈ reports, report.2.Built) :
    let s := empty.mergeReports reports
    (∀ d, s.get? d = Run.mergeAll (runsOf d reports)) ∧
    (∀ d, (s.contributions d).toNat =
      min ((runsOf d reports).map (·.contributions.toNat)).sum (2 ^ 32 - 1)) ∧
    (∀ d r, s.get? d = some r →
      r.scores.Perm ((runsOf d reports).flatMap (·.scores)) ∧ r.scores.Pairwise (·.totalOrder ·)) ∧
    (∀ d run e, e ≠ d → (s.merge d run).get? e = s.get? e) ∧
    (∀ d r, (d, r) ∈ s.toList ↔ s.get? d = some r) ∧
    (∀ d, d ∈ s.toList.map (·.1) ↔ d ∈ reports.map (·.1)) ∧
    (s.toList.map (·.1)).Pairwise Descriptor.Precedes := by
  intro s
  have entries (d : Descriptor) : s.get? d = Run.mergeAll (runsOf d reports) := by
    exact get?_mergeReports_empty reports d
  refine ⟨entries, fun d => ?_, fun d r held => ?_, fun d run e other => ?_, mem_toList_iff s, fun d => ?_,
    toList_ascending s⟩
  · have counted := toNat_contributions_mergeReports empty d reports
    rw [contributed_eq_sum] at counted
    simpa [contributions] using counted
  · rw [entries] at held
    refine Run.scores_of_mergeAll (fun run mem => ?_) held
    obtain ⟨report, reported, rfl⟩ := List.mem_map.1 mem
    exact built report (List.mem_filter.1 reported).1
  · rw [get?_merge, if_neg other.symm]
  · have listed : d ∈ s.toList.map (·.1) ↔ (s.get? d).isSome := by
      simp [mem_toList_iff, Option.isSome_iff_exists]
    rw [listed, entries, Run.isSome_mergeAll]
    simp [runsOf]

def greek : Descriptor := ⟨"λ", .throughput, 1⟩

def ascii : Descriptor := ⟨"z", .throughput, 1⟩

def iteration (operations : UInt64) : Sample :=
  ⟨1, .measurement, 9, ⟨"copy", .seconds, .throughput operations 2000000000⟩, ∅, [], ∅⟩

def fast : Run := ⟨⟨"copy", .seconds, .throughput 8 2000000000⟩, ∅, [⟨0x4010000000000000⟩], 1⟩

def slow : Run := ⟨⟨"copy", .seconds, .throughput 2 2000000000⟩, ∅, [⟨0x3ff0000000000000⟩], 1⟩

/-- Three runs of two benchmarks; what was merged first is listed last. -/
theorem mergeReports_contents_of_three :
    let s := empty.mergeReports [(greek, fast), (ascii, slow), (greek, slow)]
    Run.ofSamples [iteration 8] = some fast ∧ Run.ofSamples [iteration 2] = some slow ∧
    s.get? greek = some (fast.merge slow) ∧ s.contributions greek = 2 ∧
    (fast.merge slow).scores.Perm (fast.scores ++ slow.scores) ∧
    s.toList.map (·.1) = [ascii, greek] ∧ ascii.Precedes greek := by
  intro s
  have made : Run.ofSamples [iteration 8] = some fast := by decide +kernel
  have made' : Run.ofSamples [iteration 2] = some slow := by decide +kernel
  have built : ∀ report ∈ [(greek, fast), (ascii, slow), (greek, slow)], report.2.Built := by
    simpa using ⟨.measured made, .measured made'⟩
  have own : runsOf greek [(greek, fast), (ascii, slow), (greek, slow)] = [fast, slow] := rfl
  have keys : s.toList.map (·.1) = [ascii, greek] := by decide +kernel
  obtain ⟨entries, counted, scores, -, -, -, ascending⟩ := mergeReports_contents built
  have held := entries greek
  have count := counted greek
  rw [own] at held count
  have kept := (scores greek _ held).1
  rw [own] at kept
  rw [keys] at ascending
  refine ⟨made, made', held, UInt32.toNat_inj.1 (count.trans (by decide)), by simpa using kept, keys, ?_⟩
  simpa using ascending

end Store

end Microbench
