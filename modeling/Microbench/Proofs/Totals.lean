import Mathlib.Algebra.Ring.Nat
import Mathlib.Data.List.Forall2
import Microbench.Proofs.RunMerge

/-!
Sums of counts and times. The threads of an iteration are put together in one way, iterations and runs in another;
`Value.Sums` says what comes of both, and `Value.Totals` the same of a value that not every thread reports. Sums that
saturate early come to the same as one that saturates at the end.
-/

namespace Microbench

def capped (n : Nat) : Nat := min n (1 <<< 64 - 1)

theorem capped_of_le {n : Nat} (le : n ≤ 1 <<< 64 - 1) : capped n = n := Nat.min_eq_left le

theorem capped_toNat (n : UInt64) : capped n.toNat = n.toNat := capped_of_le (Nat.le_pred_of_lt n.toNat_lt)

theorem toNat_satAdd_capped (a b : UInt64) : (satAdd a b).toNat = capped (a.toNat + b.toNat) := toNat_satAdd a b

theorem capped_add_left (m n : Nat) : capped (capped m + n) = capped (m + n) := by
  simp only [capped]
  omega

theorem toNat_foldl_satAdd (a : UInt64) (xs : List UInt64) :
    (xs.foldl satAdd a).toNat = capped (a.toNat + (xs.map UInt64.toNat).sum) := by
  induction xs generalizing a with
  | nil => simp [capped_toNat]
  | cons x xs ih => rw [List.foldl_cons, ih, toNat_satAdd_capped, capped_add_left, List.map_cons, List.sum_cons,
      Nat.add_assoc]

theorem capped_add (m n : Nat) : capped (capped m + capped n) = capped (m + n) := by
  simp only [capped]
  omega

namespace Measurement

def count : Measurement → UInt64
  | throughput n _ | averageTime n _ | singleShot n _ => n
  | sampleTime s => s.count

def time : Measurement → UInt64
  | throughput _ t | averageTime _ t | singleShot _ t => t
  | sampleTime s => s.total

theorem count_add {m n : Measurement} (same : n.sameKind m) :
    (m.add n).count.toNat = capped (m.count.toNat + n.count.toNat) := by
  cases m <;> cases n <;> first | exact toNat_satAdd_capped .. | contradiction

theorem time_add {m n : Measurement} (same : n.sameKind m) :
    (m.add n).time.toNat = capped (m.time.toNat + n.time.toNat) := by
  cases m <;> cases n <;> first | exact toNat_satAdd_capped .. | contradiction

theorem add_other {m n : Measurement} (other : ¬ n.sameKind m) : m.add n = m := by
  cases m <;> cases n <;> first | rfl | contradiction

end Measurement

namespace Value

def count (v : Value) : Nat := v.measurement.count.toNat

def time (v : Value) : Nat := v.measurement.time.toNat

/-- How long an iteration took, by the values of its threads. Threads that are measured for their throughput run
side by side. -/
def span (model : Measurement) (threads : List Value) : Nat :=
  match model with
  | .throughput .. => mean (threads.map time).sum threads.length
  | _ => (threads.map time).sum

/-- The value has the counts and the times of these iterations, each given by the values of its threads. -/
structure Sums (model : Measurement) (iterations : List (List Value)) (v : Value) : Prop where
  kind : v.measurement.sameKind model
  count : v.count = capped (iterations.map fun threads => (threads.map Value.count).sum).sum
  time : v.time = capped (iterations.map (span model)).sum

theorem Sums.merge {model : Measurement} {xs ys : List (List Value)} {v w : Value} (left : v.Sums model xs)
    (right : w.Sums model ys) : (v.merge w).Sums model (xs ++ ys) := by
  have same : w.measurement.sameKind v.measurement :=
    Measurement.sameKind_trans right.kind (Measurement.sameKind_symm left.kind)
  refine ⟨Measurement.sameKind_trans (Measurement.sameKind_add ..) left.kind, ?_, ?_⟩
  · have added : (v.merge w).count = capped (v.count + w.count) := Measurement.count_add same
    rw [added, left.count, right.count, capped_add, List.map_append, List.sum_append_nat]
  · have added : (v.merge w).time = capped (v.time + w.time) := Measurement.time_add same
    rw [added, left.time, right.time, capped_add, List.map_append, List.sum_append_nat]

theorem Sums.perm {model : Measurement} {xs ys : List (List Value)} {v : Value} (perm : xs.Perm ys)
    (sums : v.Sums model xs) : v.Sums model ys := by
  refine ⟨sums.kind, sums.count.trans ?_, sums.time.trans ?_⟩
  · rw [(perm.map _).sum_nat]
  · rw [(perm.map _).sum_nat]

/-- Values whose counts and times are all added. -/
theorem foldl_merge_sums {model : Measurement} {first : Value} {rest : List Value}
    (kind : ∀ v ∈ first :: rest, v.measurement.sameKind model) :
    let v := rest.foldl Value.merge first
    v.measurement.sameKind model ∧ v.count = capped ((first :: rest).map Value.count).sum ∧
      v.time = capped ((first :: rest).map Value.time).sum := by
  induction rest generalizing first with
  | nil =>
    refine ⟨kind first List.mem_cons_self, ?_, ?_⟩
    · simp [Value.count, capped_toNat]
    · simp [Value.time, capped_toNat]
  | cons second rest ih =>
    have same : second.measurement.sameKind first.measurement :=
      Measurement.sameKind_trans (kind second (by simp)) (Measurement.sameKind_symm (kind first (by simp)))
    have merged : (first.merge second).measurement.sameKind model :=
      Measurement.sameKind_trans (Measurement.sameKind_add ..) (kind first (by simp))
    have others : ∀ v ∈ first.merge second :: rest, v.measurement.sameKind model := by
      intro v mem
      rcases List.mem_cons.1 mem with rfl | mem
      · exact merged
      · exact kind v (by simp [mem])
    obtain ⟨same_kind, count, time⟩ := ih others
    have count_added : (first.merge second).count = capped (first.count + second.count) := Measurement.count_add same
    have time_added : (first.merge second).time = capped (first.time + second.time) := Measurement.time_add same
    refine ⟨same_kind, count.trans ?_, time.trans ?_⟩
    · simp only [List.map_cons, List.sum_cons, count_added, capped_add_left, Nat.add_assoc]
    · simp only [List.map_cons, List.sum_cons, time_added, capped_add_left, Nat.add_assoc]

/-- A rounded mean is no larger than all it is taken of. -/
theorem mean_le {times : List Nat} {bound : Nat} (le : ∀ t ∈ times, t ≤ bound) :
    mean times.sum times.length ≤ bound := by
  have sum_le : times.sum ≤ times.length * bound := by
    induction times with
    | nil => simp
    | cons t times ih =>
      have first := le t List.mem_cons_self
      have rest := ih fun u hu => le u (List.mem_cons_of_mem t hu)
      rw [List.sum_cons, List.length_cons, Nat.succ_mul]
      omega
  rw [mean]
  cases length : times.length with
  | zero => simp
  | succ n =>
    rw [length] at sum_le
    refine Nat.le_of_lt_succ (Nat.div_lt_of_lt_mul ?_)
    rw [Nat.mul_succ]
    omega

/-- All values of one kind are kept. -/
theorem kept_of_kind {model : Measurement} {first : Value} {rest : List Value}
    (kind : ∀ v ∈ first :: rest, v.measurement.sameKind model) : kept first rest = first :: rest := by
  refine List.filter_eq_self.2 fun v mem => ?_
  exact Measurement.sameKind_trans (kind v mem) (Measurement.sameKind_symm (kind first List.mem_cons_self))

theorem foldl_addRate {threads : List Value} (kind : ∀ v ∈ threads, v.measurement.sameKind (.throughput 0 0))
    (operations : UInt64) (total : Nat) : threads.foldl addRate (operations, total) =
      ((threads.map (·.measurement.count)).foldl satAdd operations, total + (threads.map time).sum) := by
  induction threads generalizing operations total with
  | nil => rfl
  | cons v threads ih =>
    have rate := kind v List.mem_cons_self
    have added : addRate (operations, total) v =
        (satAdd operations v.measurement.count, total + v.time) := by
      obtain ⟨label, unit, measured⟩ := v
      cases measured <;> first | rfl | contradiction
    rw [List.foldl_cons, added, ih fun w mem => kind w (List.mem_cons_of_mem v mem)]
    simp only [List.map_cons, List.foldl_cons, List.sum_cons, Nat.add_assoc]

theorem mean_time_le (threads : List Value) : mean (threads.map time).sum threads.length ≤ 1 <<< 64 - 1 := by
  have small : ∀ t ∈ threads.map time, t ≤ 1 <<< 64 - 1 := by
    intro t mem
    obtain ⟨v, -, rfl⟩ := List.mem_map.1 mem
    exact Nat.le_pred_of_lt v.measurement.time.toNat_lt
  have le := mean_le small
  rwa [List.length_map] at le

/-- Of throughputs the operations are added, and the time is the mean. -/
theorem ofThreads_throughput {first : Value} {rest : List Value}
    (kind : ∀ v ∈ first :: rest, v.measurement.sameKind (.throughput 0 0)) :
    ofThreads (first :: rest) = some { first with
      measurement := .throughput (((first :: rest).map (·.measurement.count)).foldl satAdd 0)
        (UInt64.ofNat (mean ((first :: rest).map time).sum (first :: rest).length)) } := by
  have first_kind := kind first List.mem_cons_self
  have fits := mean_time_le (first :: rest)
  rw [ofThreads]
  cases measured : first.measurement with
  | throughput => simp only [kept_of_kind kind, foldl_addRate kind, Nat.zero_add, Nat.min_eq_left fits]
  | averageTime | sampleTime | singleShot => simp [measured, Measurement.sameKind] at first_kind

/-- A merge keeps what its first value is called, and adds the measurements. -/
theorem foldl_merge_eq (v : Value) (values : List Value) : values.foldl merge v =
    { v with measurement := (values.map (·.measurement)).foldl Measurement.add v.measurement } := by
  induction values generalizing v with
  | nil => rfl
  | cons w values ih =>
    rw [List.foldl_cons, ih]
    rfl

/-- Values of other kinds add nothing, so it makes no difference to leave them out. -/
theorem foldl_add_filter {model m : Measurement} (same : m.sameKind model) (values : List Value) :
    (values.filter (·.measurement.sameKind model)).foldl (fun sum v => sum.add v.measurement) m =
      (values.map (·.measurement)).foldl Measurement.add m := by
  induction values generalizing m with
  | nil => rfl
  | cons v values ih =>
    by_cases alike : v.measurement.sameKind model
    · have added : (m.add v.measurement).sameKind model :=
        Measurement.sameKind_trans (Measurement.sameKind_add ..) same
      rw [List.filter_cons, if_pos alike]
      exact ih added
    · have other : ¬ v.measurement.sameKind m := fun kind => alike (Measurement.sameKind_trans kind same)
      rw [List.filter_cons, if_neg alike, List.map_cons, List.foldl_cons, Measurement.add_other other]
      exact ih same

theorem kept_eq_cons (first : Value) (rest : List Value) :
    kept first rest = first :: rest.filter (·.measurement.sameKind first.measurement) :=
  List.filter_cons_of_pos (Measurement.sameKind_refl _)

/-- Other kinds than rates are added, as the iterations of a run are. -/
theorem ofThreads_eq_ofRuns {first : Value} (other : ¬ first.measurement.sameKind (.throughput 0 0))
    (rest : List Value) : ofThreads (first :: rest) = ofRuns (first :: rest) := by
  have summed : ((kept first rest).drop 1).foldl (fun sum v => sum.add v.measurement) first.measurement =
      (rest.map (·.measurement)).foldl Measurement.add first.measurement := by
    rw [kept_eq_cons, List.drop_one, List.tail_cons]
    exact foldl_add_filter (Measurement.sameKind_refl _) rest
  rw [ofRuns, foldl_merge_eq, ← summed, ofThreads]
  cases kind : first.measurement with
  | throughput n t => rw [kind] at other; contradiction
  | averageTime | sampleTime | singleShot => rfl

/-- The threads of one iteration add up. -/
theorem ofThreads_sums {model : Measurement} {threads : List Value}
    (kind : ∀ v ∈ threads, v.measurement.sameKind model) {v : Value} (made : ofThreads threads = some v) :
    v.Sums model [threads] := by
  cases threads with
  | nil => contradiction
  | cons first rest =>
    cases model with
    | throughput n t =>
      have rates : ∀ w ∈ first :: rest, w.measurement.sameKind (.throughput 0 0) := fun w mem =>
        Measurement.sameKind_trans (kind w mem) rfl
      rw [ofThreads_throughput rates] at made
      obtain rfl := Option.some.inj made
      have le := mean_time_le (first :: rest)
      refine ⟨rfl, ?_, ?_⟩
      · have counts : ((first :: rest).map (·.measurement.count)).map UInt64.toNat = (first :: rest).map Value.count :=
          List.map_map
        refine (toNat_foldl_satAdd 0 _).trans ?_
        rw [counts]
        simp
      · refine (UInt64.toNat_ofNat_of_lt' (Nat.lt_of_le_of_lt le (by decide))).trans ?_
        simpa [span] using (capped_of_le le).symm
    | averageTime | sampleTime | singleShot =>
      obtain ⟨same, count, time⟩ := foldl_merge_sums kind
      have other : ¬ first.measurement.sameKind (.throughput 0 0) := fun rate =>
        absurd (Measurement.sameKind_trans (Measurement.sameKind_symm (kind first List.mem_cons_self)) rate) nofun
      rw [ofThreads_eq_ofRuns other] at made
      obtain rfl := Option.some.inj made
      exact ⟨same, by simpa using count, by simpa [span] using time⟩

/-- Threads that report nothing add nothing. -/
theorem Sums.append_empty {model : Measurement} {xs ys : List (List Value)} {v : Value} (sums : v.Sums model xs)
    (empty : ∀ threads ∈ ys, threads = []) : v.Sums model (xs ++ ys) := by
  have zeros (f : List Value → Nat) (zero : f [] = 0) : (ys.map f).sum = 0 := by
    refine List.sum_eq_zero_iff_forall_eq_nat.2 fun n mem => ?_
    obtain ⟨threads, inside, rfl⟩ := List.mem_map.1 mem
    rw [empty threads inside, zero]
  refine ⟨sums.kind, ?_, ?_⟩
  · rw [List.map_append, List.sum_append_nat, zeros _ rfl, Nat.add_zero, sums.count]
  · have nothing : span model [] = 0 := by cases model <;> rfl
    rw [List.map_append, List.sum_append_nat, zeros _ nothing, Nat.add_zero, sums.time]

def Totals (model : Measurement) (iterations : List (List Value)) : Option Value → Prop
  | none => ∀ threads ∈ iterations, threads = []
  | some v => v.Sums model iterations ∧ ∃ threads ∈ iterations, threads ≠ []

namespace Totals

variable {model : Measurement} {xs ys : List (List Value)} {o p : Option Value}

theorem perm (perm : xs.Perm ys) (totals : Totals model xs o) : Totals model ys o := by
  cases o with
  | none => exact fun threads mem => totals threads (perm.mem_iff.2 mem)
  | some v =>
    obtain ⟨sums, threads, mem, reported⟩ := totals
    exact ⟨sums.perm perm, threads, perm.mem_iff.1 mem, reported⟩

theorem append (left : Totals model xs o) (right : Totals model ys p) :
    Totals model (xs ++ ys) (Option.merge Value.merge o p) := by
  cases o with
  | none =>
    cases p with
    | none =>
      intro threads mem
      rcases List.mem_append.1 mem with mem | mem
      · exact left threads mem
      · exact right threads mem
    | some w =>
      obtain ⟨sums, threads, mem, reported⟩ := right
      refine ⟨?_, threads, List.mem_append_right xs mem, reported⟩
      exact (sums.append_empty left).perm List.perm_append_comm
  | some v =>
    obtain ⟨sums, threads, mem, reported⟩ := left
    cases p with
    | none => exact ⟨sums.append_empty right, threads, List.mem_append_left ys mem, reported⟩
    | some w => exact ⟨sums.merge right.1, threads, List.mem_append_left ys mem, reported⟩

theorem ofThreads {threads : List Value} (kind : ∀ v ∈ threads, v.measurement.sameKind model) :
    Totals model [threads] (Value.ofThreads threads) := by
  cases made : Value.ofThreads threads with
  | none =>
    intro g mem
    rw [List.mem_singleton.1 mem]
    cases threads with
    | nil => rfl
    | cons first rest => contradiction
  | some v =>
    refine ⟨ofThreads_sums kind made, threads, List.mem_singleton_self threads, ?_⟩
    rintro rfl
    contradiction

end Totals

theorem ofRuns_filterMap_id (values : List (Option Value)) :
    ofRuns (values.filterMap id) = values.foldl (Option.merge merge) none := by
  have later (values : List (Option Value)) (v : Value) :
      values.foldl (Option.merge merge) (some v) = some ((values.filterMap id).foldl merge v) := by
    induction values generalizing v with
    | nil => rfl
    | cons o values ih => cases o <;> exact ih _
  induction values with
  | nil => rfl
  | cons o values ih =>
    cases o with
    | none => exact ih
    | some v => exact (later values v).symm

/-- The iterations of a run add up. -/
theorem Totals.ofRuns {model : Measurement} {iterations : List (List Value)} {values : List (Option Value)}
    (each : List.Forall₂ (fun threads o => Totals model [threads] o) iterations values) :
    Totals model iterations (Value.ofRuns (values.filterMap id)) := by
  have front {before : List (List Value)} {o : Option Value} (totals : Totals model before o) :
      Totals model (before ++ iterations) (values.foldl (Option.merge merge) o) := by
    induction each generalizing before o with
    | nil => simpa using totals
    | cons first _ ih => simpa using ih (totals.append first)
  have empty : Totals model [] none := by simp [Totals]
  rw [ofRuns_filterMap_id]
  exact front empty

end Value

end Microbench
