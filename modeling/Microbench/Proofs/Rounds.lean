import Microbench.Proofs.Script

/-!
The rounds of a cycle: which iterations the executor is asked for, and in what order. A cycle plans its
warmup rounds and then its measured ones, and goes through them up to the first that fails
(`Cycle.script_tries`).
-/

namespace Microbench

section UpTo

variable {α β : Type} {fails : α → Option β} {xs : List α}

/-- The elements up to the first that fails, and that one. -/
def upTo (fails : α → Option β) : List α → List α
  | [] => []
  | x :: xs => x :: if (fails x).isSome then [] else upTo fails xs

theorem upTo_append_of_none (h : xs.findSome? fails = none) (ys : List α) :
    upTo fails (xs ++ ys) = xs ++ upTo fails ys := by
  induction xs with
  | nil => rfl
  | cons x xs ih =>
    rw [List.findSome?_cons] at h
    cases going : fails x with
    | none =>
      rw [going] at h
      simp [upTo, going, ih h]
    | some b => simp [going] at h

theorem upTo_eq_self (h : xs.findSome? fails = none) : upTo fails xs = xs := by
  simpa [upTo] using upTo_append_of_none h []

/-- What stands behind a failure does not matter. -/
theorem upTo_append_of_some {b : β} (h : xs.findSome? fails = some b) (ys : List α) :
    upTo fails (xs ++ ys) = upTo fails xs := by
  induction xs with
  | nil => contradiction
  | cons x xs ih =>
    rw [List.findSome?_cons] at h
    cases failed : fails x with
    | none =>
      rw [failed] at h
      simp [upTo, failed, ih h]
    | some b => simp [upTo, failed]

theorem mem_of_mem_upTo {x : α} (h : x ∈ upTo fails xs) : x ∈ xs := by
  induction xs with
  | nil => exact h
  | cons y ys ih =>
    rcases List.mem_cons.1 h with rfl | h
    · exact List.mem_cons_self
    · split at h
      · contradiction
      · exact List.mem_cons_of_mem _ (ih h)

end UpTo

/-- An iteration that the executor is asked for. -/
structure Round where
  descriptor : Descriptor
  kind : IterationKind
  index : UInt32
  deriving DecidableEq, Repr

def Round.list (d : Descriptor) (kind : IterationKind) (count : UInt32) : List Round :=
  (List.range' 1 count.toNat).map fun i => ⟨d, kind, UInt32.ofNat i⟩

theorem Round.of_mem_list {d : Descriptor} {kind : IterationKind} {count : UInt32} {r : Round}
    (h : r ∈ Round.list d kind count) : r.descriptor = d ∧ r.kind = kind := by
  obtain ⟨i, -, rfl⟩ := List.mem_map.1 h
  exact ⟨rfl, rfl⟩

def Params.rounds (p : Params) (d : Descriptor) : List Round :=
  Round.list d .warmup p.warmup.count ++ Round.list d .measurement p.measurement.count

theorem Params.descriptor_of_mem_rounds {p : Params} {d : Descriptor} {r : Round} (mem : r ∈ p.rounds d) :
    r.descriptor = d := by
  rcases List.mem_append.1 mem with warmup | measured
  · exact (Round.of_mem_list warmup).1
  · exact (Round.of_mem_list measured).1

def Executor.failure? (executor : Executor) (p : Params) (r : Round) : Option Failure :=
  match executor r.descriptor p r.kind r.index with
  | .sample _ => none
  | .failed f => some (.benchmarkFailed r.descriptor f.fullText)
  | .panicked => some .taskPanicked

theorem Executor.failure?_eq_none {executor : Executor} {p : Params} {r : Round} :
    executor.failure? p r = none ↔ ∃ s, executor r.descriptor p r.kind r.index = .sample s := by
  unfold failure?
  cases executor r.descriptor p r.kind r.index <;> simp

namespace Script

variable {α β : Type}

def failure? (s : Script α) : Option Failure :=
  match s.outcome with
  | .ok _ => none
  | .error f => some f

def rounds (d : Descriptor) (s : Script α) : List Round :=
  s.deeds.filterMap fun
    | .execute kind index => some ⟨d, kind, index⟩
    | .tell _ => none

/-- The script goes through the rounds up to the first that fails. That one is the last thing done. -/
structure Tries (d : Descriptor) (fails : Round → Option Failure) (s : Script α) (rs : List Round) :
    Prop where
  rounds : s.rounds d = upTo fails rs
  failure : s.failure? = rs.findSome? fails
  last : s.failure?.isSome → ∃ deeds kind index, s.deeds = deeds ++ [.execute kind index]

namespace Tries

variable {d : Descriptor} {fails : Round → Option Failure} {s : Script α} {l m : List Round}

theorem tell (c : Call) : (Script.tell c).Tries d fails [] := ⟨rfl, rfl, nofun⟩

theorem done (x : α) : (Script.done x).Tries d fails [] := ⟨rfl, rfl, nofun⟩

theorem andThen {f : α → Script β} (first : s.Tries d fails l) (second : ∀ x, (f x).Tries d fails m) :
    (s.andThen f).Tries d fails (l ++ m) := by
  have failure := first.failure
  unfold Script.andThen
  cases outcome : s.outcome with
  | ok x =>
    have going : l.findSome? fails = none := by rw [← failure, failure?, outcome]
    refine ⟨?_, ?_, fun failed => ?_⟩
    · rw [upTo_append_of_none going, ← upTo_eq_self going, ← first.rounds, ← (second x).rounds]
      exact List.filterMap_append
    · rw [List.findSome?_append, going, Option.none_or, ← (second x).failure]
      rfl
    · obtain ⟨deeds, kind, index, last⟩ := (second x).last failed
      exact ⟨s.deeds ++ deeds, kind, index, by rw [List.append_assoc, ← last]⟩
  | error e =>
    have failed : l.findSome? fails = some e := by rw [← failure, failure?, outcome]
    refine ⟨?_, ?_, fun _ => first.last (by rw [failure?, outcome]; rfl)⟩
    · rw [upTo_append_of_some failed, ← first.rounds]
      rfl
    · rw [List.findSome?_append, failed]
      rfl

end Tries

end Script

namespace Cycle

variable (executor : Executor) (detailed : Bool) (d : Descriptor) (p : Params)

theorem executeScript_tries (kind : IterationKind) (index : UInt32) :
    (executeScript executor d p kind index).Tries d (executor.failure? p) [⟨d, kind, index⟩] := by
  refine ⟨?_, ?_, fun _ => ⟨[], kind, index, rfl⟩⟩
  · simp [Script.rounds, executeScript, upTo]
  · simp only [Script.failure?, executeScript, Executor.failure?, List.findSome?_cons, List.findSome?_nil]
    cases executor d p kind index <;> rfl

theorem iterationScript_tries (kind : IterationKind) (index : UInt32) :
    (iterationScript executor detailed d p kind index).Tries d (executor.failure? p)
      [⟨d, kind, index⟩] := by
  refine (Script.Tries.tell _).andThen fun _ => ?_
  refine (executeScript_tries executor d p kind index).andThen (m := []) fun sample => ?_
  refine (Script.Tries.tell _).andThen fun _ => ?_
  refine Script.Tries.andThen (l := []) ?_ fun _ => .done sample
  split
  · exact .tell _
  · exact .done _

theorem iterationsScript_tries (kind : IterationKind) (first n : Nat) :
    (iterationsScript executor detailed d p kind first n).Tries d (executor.failure? p)
      ((List.range' first n).map fun i => ⟨d, kind, UInt32.ofNat i⟩) := by
  induction n generalizing first with
  | zero => exact .done []
  | succ n ih =>
    rw [List.range'_succ, List.map_cons]
    refine (iterationScript_tries executor detailed d p kind _).andThen fun sample => ?_
    simpa using (ih (first + 1)).andThen fun more => .done (sample :: more)

/-- A cycle goes through the rounds that it plans up to the first that fails. -/
theorem script_tries :
    (script executor detailed d p).Tries d (executor.failure? p) (p.rounds d) := by
  refine (Script.Tries.tell _).andThen fun _ => ?_
  refine (iterationsScript_tries executor detailed d p .warmup 1 _).andThen fun _ => ?_
  rw [← List.append_nil (Round.list d .measurement p.measurement.count)]
  refine (iterationsScript_tries executor detailed d p .measurement 1 _).andThen fun samples => ?_
  exact (Script.Tries.tell _).andThen fun _ => .done _

end Cycle

end Microbench
