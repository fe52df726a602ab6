import Microbench.Entries

/-!
Operations that put two things of one kind together. `Merging op P` says that order and brackets do
not matter among the things with `P`; a list of them then has one combination, which
`Merging.folded_perm` and `Merging.folded_leaves` make precise. Maps inherit it from their values.
-/

namespace Microbench

/-- Among what satisfies `P`, the order and the brackets do not matter. -/
structure Merging {α : Type} (op : α → α → α) (P : α → Prop) : Prop where
  closed : ∀ {a b}, P a → P b → P (op a b)
  comm : ∀ {a b}, P a → P b → op a b = op b a
  assoc : ∀ {a b c}, P a → P b → P c → op (op a b) c = op a (op b c)

def folded {α : Type} (op : α → α → α) : List α → Option α
  | [] => none
  | x :: xs => some (xs.foldl op x)

/-- A way to put things together: every pair of brackets holds two parts. -/
inductive Bracketing (α : Type) where
  | one (x : α)
  | pair (left right : Bracketing α)

namespace Bracketing

variable {α : Type}

def leaves : Bracketing α → List α
  | one x => [x]
  | pair left right => left.leaves ++ right.leaves

def value (op : α → α → α) : Bracketing α → α
  | one x => x
  | pair left right => op (left.value op) (right.value op)

def fromLeft (first : α) (rest : List α) : Bracketing α := rest.foldl (fun t x => pair t (one x)) (one first)

theorem foldl_pair (op : α → α → α) (t : Bracketing α) (rest : List α) :
    (rest.foldl (fun t x => pair t (one x)) t).leaves = t.leaves ++ rest ∧
      (rest.foldl (fun t x => pair t (one x)) t).value op = rest.foldl op (t.value op) := by
  induction rest generalizing t with
  | nil => exact ⟨(List.append_nil _).symm, rfl⟩
  | cons x rest ih =>
    obtain ⟨leaves, value⟩ := ih (pair t (one x))
    exact ⟨leaves.trans (List.append_assoc ..), value⟩

theorem leaves_fromLeft (first : α) (rest : List α) : (fromLeft first rest).leaves = first :: rest :=
  (foldl_pair (fun x _ => x) (one first) rest).1

theorem value_fromLeft (op : α → α → α) (first : α) (rest : List α) :
    (fromLeft first rest).value op = rest.foldl op first := (foldl_pair op (one first) rest).2

end Bracketing

namespace Merging

variable {α : Type} {op : α → α → α} {P : α → Prop}

theorem foldl_closed (m : Merging op P) {xs : List α} (all : ∀ x ∈ xs, P x) {a : α} (ha : P a) :
    P (xs.foldl op a) := by
  induction xs generalizing a with
  | nil => exact ha
  | cons x xs ih =>
    exact ih (fun y hy => all y (List.mem_cons_of_mem x hy)) (m.closed ha (all x List.mem_cons_self))

theorem foldl_op (m : Merging op P) {xs : List α} (all : ∀ x ∈ xs, P x) {a b : α} (ha : P a)
    (hb : P b) : xs.foldl op (op a b) = op a (xs.foldl op b) := by
  induction xs generalizing b with
  | nil => rfl
  | cons x xs ih =>
    have hx := all x List.mem_cons_self
    have rest : ∀ y ∈ xs, P y := fun y hy => all y (List.mem_cons_of_mem x hy)
    rw [List.foldl_cons, List.foldl_cons, m.assoc ha hb hx]
    exact ih rest (m.closed hb hx)

theorem folded_closed (m : Merging op P) {xs : List α} (all : ∀ x ∈ xs, P x) {a : α}
    (h : folded op xs = some a) : P a := by
  cases xs with
  | nil => contradiction
  | cons x xs =>
    obtain rfl := Option.some.inj h
    exact m.foldl_closed (fun y hy => all y (List.mem_cons_of_mem x hy)) (all x List.mem_cons_self)

theorem folded_cons (m : Merging op P) {x : α} {xs : List α} (all : ∀ y ∈ x :: xs, P y) :
    folded op (x :: xs) = Option.merge op (some x) (folded op xs) := by
  cases xs with
  | nil => rfl
  | cons y ys =>
    have rest : ∀ z ∈ ys, P z := fun z hz => all z (by simp [hz])
    simp only [folded, List.foldl_cons, Option.merge]
    rw [m.foldl_op rest (all x (by simp)) (all y (by simp))]

/-- What two lists come to is put together from what each of them comes to. -/
theorem folded_append (m : Merging op P) {xs ys : List α} (all : ∀ x ∈ xs ++ ys, P x) :
    folded op (xs ++ ys) = Option.merge op (folded op xs) (folded op ys) := by
  induction xs with
  | nil =>
    rw [List.nil_append]
    cases folded op ys <;> rfl
  | cons x xs ih =>
    have left : ∀ z ∈ x :: xs, P z := fun z hz => all z (List.mem_append_left ys hz)
    have rest : ∀ z ∈ xs ++ ys, P z := fun z hz => all z (List.mem_cons_of_mem x hz)
    rw [List.cons_append] at all ⊢
    rw [m.folded_cons all, ih rest, m.folded_cons left]
    cases hx : folded op xs with
    | none => cases folded op ys <;> rfl
    | some a =>
      cases hy : folded op ys with
      | none => rfl
      | some b =>
        have ha := m.folded_closed (fun z hz => rest z (List.mem_append_left ys hz)) hx
        have hb := m.folded_closed (fun z hz => rest z (List.mem_append_right xs hz)) hy
        simp only [Option.merge]
        rw [m.assoc (all x List.mem_cons_self) ha hb]

/-- The order of a list does not matter. -/
theorem folded_perm (m : Merging op P) {xs ys : List α} (perm : xs.Perm ys)
    (all : ∀ x ∈ xs, P x) : folded op xs = folded op ys := by
  induction perm with
  | nil => rfl
  | @cons x xs ys perm ih =>
    have all' : ∀ z ∈ x :: ys, P z := fun z hz => all z ((perm.cons x).mem_iff.2 hz)
    rw [m.folded_cons all, m.folded_cons all', ih fun z hz => all z (List.mem_cons_of_mem x hz)]
  | swap x y xs =>
    have hx := all x (by simp)
    have hy := all y (by simp)
    simp only [folded, List.foldl_cons]
    rw [m.comm hy hx]
  | trans first _ ih₁ ih₂ => exact (ih₁ all).trans (ih₂ fun z hz => all z (first.mem_iff.2 hz))

/-- Nor do the brackets. -/
theorem folded_leaves (m : Merging op P) (t : Bracketing α) (all : ∀ x ∈ t.leaves, P x) :
    folded op t.leaves = some (t.value op) := by
  induction t with
  | one x => rfl
  | pair left right ihl ihr =>
    rw [Bracketing.leaves, m.folded_append all, ihl fun x hx => all x (List.mem_append_left _ hx),
      ihr fun x hx => all x (List.mem_append_right _ hx)]
    rfl

end Merging

section Maps

open Std

variable {κ ν : Type} {cmp : κ → κ → Ordering} [TransCmp cmp] [LawfulEqCmp cmp]

def addEntry (f : ν → ν → ν) (m : ExtTreeMap κ ν cmp) (entry : κ × ν) : ExtTreeMap κ ν cmp :=
  m.alter entry.1 fun
    | some earlier => some (f earlier entry.2)
    | none => some entry.2

/-- Both maps in one; the values of a common key are combined. -/
def unionWith (f : ν → ν → ν) (m n : ExtTreeMap κ ν cmp) : ExtTreeMap κ ν cmp :=
  n.toList.foldl (addEntry f) m

theorem ne_of_toList (m : ExtTreeMap κ ν cmp) : m.toList.Pairwise (·.1 ≠ ·.1) := by
  refine m.distinct_keys_toList.imp ?_
  rintro a b h same
  rw [same] at h
  exact h ReflCmp.compare_self

variable [DecidableEq κ]

theorem getElem?_addEntry (f : ν → ν → ν) (m : ExtTreeMap κ ν cmp) (k key : κ) (v : ν) :
    (addEntry f m (key, v))[k]? =
      if key = k then Option.merge f m[k]? (some v) else m[k]? := by
  rw [addEntry, ExtTreeMap.getElem?_alter]
  by_cases h : key = k
  · subst h
    rw [if_pos ReflCmp.compare_self, if_pos rfl]
    cases m[key]? <;> rfl
  · rw [if_neg (mt LawfulEqCmp.eq_of_compare h), if_neg h]

theorem getElem?_foldl_addEntry_of_notMem (f : ν → ν → ν) {entries : List (κ × ν)} {k : κ}
    (absent : ∀ e ∈ entries, e.1 ≠ k) (m : ExtTreeMap κ ν cmp) :
    (entries.foldl (addEntry f) m)[k]? = m[k]? := by
  induction entries generalizing m with
  | nil => rfl
  | cons e entries ih =>
    rw [List.foldl_cons, ih fun e' h => absent e' (List.mem_cons_of_mem e h), getElem?_addEntry,
      if_neg (absent e List.mem_cons_self)]

theorem getElem?_foldl_addEntry_of_mem (f : ν → ν → ν) {entries : List (κ × ν)} {k : κ} {v : ν}
    (distinct : entries.Pairwise (·.1 ≠ ·.1)) (member : (k, v) ∈ entries) (m : ExtTreeMap κ ν cmp) :
    (entries.foldl (addEntry f) m)[k]? = Option.merge f m[k]? (some v) := by
  induction entries generalizing m with
  | nil => simp at member
  | cons e entries ih =>
    obtain ⟨head, tail⟩ := List.pairwise_cons.1 distinct
    rw [List.foldl_cons]
    rcases List.mem_cons.1 member with rfl | member
    · rw [getElem?_foldl_addEntry_of_notMem f fun e' h => (head e' h).symm, getElem?_addEntry,
        if_pos rfl]
    · rw [ih tail member, getElem?_addEntry, if_neg (head _ member)]

@[simp] theorem getElem?_unionWith (f : ν → ν → ν) (m n : ExtTreeMap κ ν cmp) (k : κ) :
    (unionWith f m n)[k]? = Option.merge f m[k]? n[k]? := by
  cases h : n[k]? with
  | some v =>
    exact getElem?_foldl_addEntry_of_mem f (ne_of_toList n)
      (ExtTreeMap.mem_toList_iff_getElem?_eq_some.2 h) m
  | none =>
    have absent : ∀ e ∈ n.toList, e.1 ≠ k := by
      rintro ⟨key, v⟩ member rfl
      rw [ExtTreeMap.mem_toList_iff_getElem?_eq_some, h] at member
      contradiction
    rw [unionWith, getElem?_foldl_addEntry_of_notMem f absent]
    cases m[k]? <;> rfl

def under (k : κ) (entries : List (κ × ν)) : List ν :=
  entries.filterMap fun e => if e.1 = k then some e.2 else none

/-- The value of a key is put together from what was there and from its own entries. -/
theorem getElem?_foldl_addEntry (f : ν → ν → ν) (entries : List (κ × ν)) (m : ExtTreeMap κ ν cmp)
    (k : κ) : (entries.foldl (addEntry f) m)[k]? = folded f (m[k]?.toList ++ under k entries) := by
  induction entries generalizing m with
  | nil => cases h : m[k]? <;> simp [h, under, folded]
  | cons e entries ih =>
    obtain ⟨key, v⟩ := e
    rw [List.foldl_cons, ih, getElem?_addEntry]
    by_cases same : key = k
    · cases h : m[k]? <;> simp [same, under, folded, Option.merge]
    · simp [same, under]

theorem getElem?_erase_key (m : ExtTreeMap κ ν cmp) (k key : κ) :
    (m.erase k)[key]? = if k = key then none else m[key]? := by
  rw [ExtTreeMap.getElem?_erase]
  by_cases same : k = key
  · subst same
    rw [if_pos ReflCmp.compare_self, if_pos rfl]
  · rw [if_neg (mt LawfulEqCmp.eq_of_compare same), if_neg same]

/-- The entry of a key can be listed first. -/
theorem toList_perm_erase {m : ExtTreeMap κ ν cmp} {k : κ} {v : ν} (held : m[k]? = some v) :
    m.toList.Perm ((k, v) :: (m.erase k).toList) := by
  have nodup (m : ExtTreeMap κ ν cmp) : m.toList.Nodup :=
    (ne_of_toList m).imp fun apart same => apart (congrArg Prod.fst same)
  have absent : (k, v) ∉ (m.erase k).toList := by
    rw [ExtTreeMap.mem_toList_iff_getElem?_eq_some, getElem?_erase_key, if_pos rfl]
    simp
  refine (List.perm_ext_iff_of_nodup (nodup m) (List.nodup_cons.2 ⟨absent, nodup _⟩)).2 ?_
  rintro ⟨key, w⟩
  rw [List.mem_cons, ExtTreeMap.mem_toList_iff_getElem?_eq_some,
    ExtTreeMap.mem_toList_iff_getElem?_eq_some, getElem?_erase_key]
  by_cases same : k = key
  · subst same
    simp [held, eq_comm]
  · simp [same, Ne.symm same]

theorem erase_addEntry (f : ν → ν → ν) (m : ExtTreeMap κ ν cmp) (k : κ) (v : ν) :
    (addEntry f m (k, v)).erase k = m.erase k := by
  apply ExtTreeMap.ext_getElem?
  intro key
  rw [getElem?_erase_key, getElem?_erase_key, getElem?_addEntry]
  split <;> rfl

theorem erase_of_absent {m : ExtTreeMap κ ν cmp} {k : κ} (absent : m[k]? = none) : m.erase k = m := by
  apply ExtTreeMap.ext_getElem?
  intro key
  rw [getElem?_erase_key]
  split
  · rename_i same
    rw [← same, absent]
  · rfl

/-- An entry that is put into a map is listed with the others, or combined with the one that has its key. -/
theorem toList_addEntry_perm (f : ν → ν → ν) (m : ExtTreeMap κ ν cmp) (k : κ) (v : ν) :
    (addEntry f m (k, v)).toList.Perm ((k, v) :: m.toList) ∨ ∃ earlier rest,
      m.toList.Perm ((k, earlier) :: rest) ∧ (addEntry f m (k, v)).toList.Perm ((k, f earlier v) :: rest) := by
  have entry : (addEntry f m (k, v))[k]? = Option.merge f m[k]? (some v) := by
    rw [getElem?_addEntry, if_pos rfl]
  cases held : m[k]? with
  | none =>
    rw [held] at entry
    have listed := toList_perm_erase entry
    rw [erase_addEntry, erase_of_absent held] at listed
    exact .inl listed
  | some earlier =>
    rw [held] at entry
    have listed := toList_perm_erase entry
    rw [erase_addEntry] at listed
    exact .inr ⟨earlier, _, toList_perm_erase held, listed⟩

/-- All values of a map come to what has been put into it. -/
theorem Merging.folded_values_addEntry {f : ν → ν → ν} (merging : Merging f fun _ => True)
    (m : ExtTreeMap κ ν cmp) (k : κ) (v : ν) :
    folded f ((addEntry f m (k, v)).toList.map Prod.snd) = folded f (m.toList.map Prod.snd ++ [v]) := by
  rcases toList_addEntry_perm f m k v with listed | ⟨earlier, rest, before, listed⟩
  · exact merging.folded_perm ((listed.map Prod.snd).trans (List.perm_append_singleton v _).symm) (by simp)
  · have front : ((earlier :: rest.map Prod.snd) ++ [v]).Perm (earlier :: v :: rest.map Prod.snd) :=
      (List.perm_append_singleton v _).cons earlier
    rw [merging.folded_perm (listed.map Prod.snd) (by simp),
      merging.folded_perm ((before.map Prod.snd).append_right [v]) (by simp)]
    exact (merging.folded_perm front (by simp)).symm

/-- Maps merge as their values do, key by key. -/
theorem Merging.unionWith {f : ν → ν → ν} {P : κ → ν → Prop} (each : ∀ k, Merging f (P k)) :
    Merging (Microbench.unionWith f) fun m : ExtTreeMap κ ν cmp => ∀ k v, m[k]? = some v → P k v where
  closed {m n} hm hn k v h := by
    rw [getElem?_unionWith] at h
    cases hx : m[k]? <;> cases hy : n[k]? <;> simp only [hx, hy, Option.merge] at h
    · contradiction
    · exact hn k v (hy.trans h)
    · exact hm k v (hx.trans h)
    · obtain rfl := Option.some.inj h
      exact (each k).closed (hm k _ hx) (hn k _ hy)
  comm {m n} hm hn := by
    apply ExtTreeMap.ext_getElem?
    intro k
    rw [getElem?_unionWith, getElem?_unionWith]
    cases hx : m[k]? <;> cases hy : n[k]? <;> simp only [Option.merge]
    rw [(each k).comm (hm k _ hx) (hn k _ hy)]
  assoc {m n o} hm hn ho := by
    apply ExtTreeMap.ext_getElem?
    intro k
    simp only [getElem?_unionWith]
    cases hx : m[k]? <;> cases hy : n[k]? <;> cases hz : o[k]? <;> simp only [Option.merge]
    rw [(each k).assoc (hm k _ hx) (hn k _ hy) (ho k _ hz)]

end Maps

end Microbench
