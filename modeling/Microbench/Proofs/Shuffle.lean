/-!
Several lists shuffled into one. What comes from one list keeps its order, and nothing else is
said of how the lists take turns. Where the lists have owners, those of one owner are its share.
-/

namespace Microbench

variable {α β : Type}

/-- The whole grows one element at a time, and each is the next one of a part. -/
inductive Shuffle : List (List α) → List α → Prop where
  | nil {parts : List (List α)} (empty : ∀ part ∈ parts, part = []) : Shuffle parts []
  | snoc {parts : List (List α)} {part whole : List α} {i : Nat} (before : Shuffle parts whole)
      (place : parts[i]? = some part) (x : α) : Shuffle (parts.set i (part ++ [x])) (whole ++ [x])

namespace Shuffle

theorem append {parts : List (List α)} {part whole : List α} {i : Nat} (before : Shuffle parts whole)
    (place : parts[i]? = some part) (xs : List α) :
    Shuffle (parts.set i (part ++ xs)) (whole ++ xs) := by
  induction xs generalizing parts part whole with
  | nil =>
    obtain ⟨inside, rfl⟩ := List.getElem?_eq_some_iff.1 place
    simpa using before
  | cons x xs ih =>
    obtain ⟨inside, -⟩ := List.getElem?_eq_some_iff.1 place
    have next := ih (before.snoc place x) (List.getElem?_set_self inside)
    rwa [List.set_set, List.append_assoc, List.append_assoc] at next

/-- One more part, from which nothing has come. -/
theorem concat_nil {parts : List (List α)} {whole : List α} (h : Shuffle parts whole) :
    Shuffle (parts ++ [[]]) whole := by
  induction h with
  | nil empty =>
    refine .nil fun part hp => ?_
    rcases List.mem_append.1 hp with old | new
    · exact empty part old
    · exact List.mem_singleton.1 new
  | @snoc parts part whole i before place x ih =>
    have inside := (List.getElem?_eq_some_iff.1 place).1
    have next := ih.snoc ((List.getElem?_append_left inside).trans place) x
    rwa [List.set_append_left _ _ inside] at next

/-- What the elements stand for is shuffled with them. -/
theorem flatMap {parts : List (List α)} {whole : List α} (h : Shuffle parts whole) (f : α → List β) :
    Shuffle (parts.map (·.flatMap f)) (whole.flatMap f) := by
  induction h with
  | nil empty =>
    refine .nil fun part hp => ?_
    obtain ⟨source, hs, rfl⟩ := List.mem_map.1 hp
    rw [empty source hs, List.flatMap_nil]
  | @snoc parts part whole i before place x ih =>
    have place' : (parts.map (·.flatMap f))[i]? = some (part.flatMap f) := by
      rw [List.getElem?_map, place, Option.map_some]
    have next := ih.append place' (f x)
    rw [List.map_set, List.flatMap_append, List.flatMap_append]
    simpa using next

/-- A part is found again by what only its own elements have. -/
theorem filter_eq {parts : List (List α)} {whole : List α} (h : Shuffle parts whole) {p : α → Bool} {k : Nat}
    {part : List α} (place : parts[k]? = some part)
    (own : ∀ i other, parts[i]? = some other → ∀ x ∈ other, p x = decide (i = k)) : whole.filter p = part := by
  induction h generalizing part with
  | nil empty => rw [empty part (List.mem_of_getElem? place), List.filter_nil]
  | @snoc parts old whole i before here x ih =>
    obtain ⟨inside, -⟩ := List.getElem?_eq_some_iff.1 here
    have grown : (parts.set i (old ++ [x]))[i]? = some (old ++ [x]) := List.getElem?_set_self inside
    have own' : ∀ j other, parts[j]? = some other → ∀ y ∈ other, p y = decide (j = k) := by
      intro j other held y mem
      by_cases same : i = j
      · subst same
        obtain rfl := Option.some.inj (here.symm.trans held)
        exact own i _ grown y (List.mem_append_left [x] mem)
      · exact own j other ((List.getElem?_set_ne same).trans held) y mem
    have last := own i _ grown x (List.mem_append_right old List.mem_cons_self)
    by_cases same : i = k
    · subst same
      obtain rfl := Option.some.inj (grown.symm.trans place)
      rw [List.filter_append, ih here own']
      simp [last]
    · rw [List.getElem?_set_ne same] at place
      rw [List.filter_append, ih place own']
      simp [last, same]

/-- Nothing is lost and nothing comes twice. -/
theorem perm {parts : List (List α)} {whole : List α} (h : Shuffle parts whole) :
    whole.Perm parts.flatten := by
  induction h with
  | nil empty => rw [List.flatten_eq_nil_iff.2 empty]
  | @snoc parts part whole i before place x ih =>
    obtain ⟨inside, rfl⟩ := List.getElem?_eq_some_iff.1 place
    have old : parts.take i ++ parts[i] :: parts.drop (i + 1) = parts := by simp
    rw [← old, List.flatten_append, List.flatten_cons] at ih
    rw [List.set_eq_take_append_cons_drop, if_pos inside, List.flatten_append, List.flatten_cons,
      List.append_assoc parts[i]]
    refine (ih.append_right [x]).trans ?_
    rw [List.append_assoc, List.append_assoc]
    exact (List.perm_append_comm.append_left parts[i]).append_left _

end Shuffle

/-- The parts that belong to `n`, where nothing has come from the others. -/
def share (owners : List Nat) (n : Nat) (parts : List (List α)) : List (List α) :=
  parts.mapIdx fun i part => if owners[i]? = some n then part else []

theorem share_concat {owners : List Nat} {parts : List (List α)} (same : owners.length = parts.length)
    (owner n : Nat) : share (owners ++ [owner]) n (parts ++ [[]]) = share owners n parts ++ [[]] := by
  apply List.ext_getElem?
  intro i
  simp only [share, List.getElem?_mapIdx, List.getElem?_append, List.length_mapIdx, ← same]
  split
  · rfl
  · cases i - owners.length <;> simp

theorem share_set (owners : List Nat) (n i : Nat) (parts : List (List α)) (part : List α) :
    share owners n (parts.set i part) =
      (share owners n parts).set i (if owners[i]? = some n then part else []) := by
  apply List.ext_getElem?
  intro j
  simp only [share, List.getElem?_mapIdx, List.getElem?_set, List.length_mapIdx]
  by_cases here : i = j
  · subst here
    by_cases inside : i < parts.length <;> simp [inside]
  · simp [here]

theorem share_of_none {owners : List Nat} {n : Nat} (none : n ∉ owners) (parts : List (List α)) :
    Shuffle (share owners n parts) [] := by
  refine .nil fun part mem => ?_
  obtain ⟨i, inside, rfl⟩ := List.mem_mapIdx.1 mem
  exact if_neg fun owner => none (List.mem_of_getElem? owner)

/-- What comes from a part comes from the share of its owner. -/
theorem Shuffle.share_append {owners : List Nat} {n i : Nat} {parts : List (List α)} {part whole : List α}
    (shuffle : Shuffle (share owners n parts) whole) (place : parts[i]? = some part) (more : List α) :
    Shuffle (share owners n (parts.set i (part ++ more)))
      (whole ++ if owners[i]? = some n then more else []) := by
  have held : (share owners n parts)[i]? = some (if owners[i]? = some n then part else []) := by
    simp [share, place]
  rw [share_set]
  by_cases own : owners[i]? = some n
  · rw [if_pos own] at held
    rw [if_pos own, if_pos own]
    exact shuffle.append held more
  · rw [if_neg own] at held
    obtain ⟨inside, same⟩ := List.getElem?_eq_some_iff.1 held
    have unchanged := List.set_getElem_self inside
    rw [same] at unchanged
    rw [if_neg own, if_neg own, List.append_nil, unchanged]
    exact shuffle

end Microbench
