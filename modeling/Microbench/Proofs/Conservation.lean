import Mathlib.Data.List.Forall2
import Mathlib.Data.List.Perm.Basic
import Microbench.Proofs.Totals

/-!
What threads report is all there in the merged run: nothing is dropped or counted twice on the way from the threads
of an iteration to the iterations of a run and to the runs of a benchmark, not even under a name that few of them
report (`Run.conserves_of_forks`).
-/

namespace Microbench

/-- What is known of each leaf and its part, and is kept where two are put together, is known of the whole. -/
theorem Bracketing.value_of_leaves {α β : Type} {op : β → β → β} {R : List α → β → Prop}
    (join : ∀ {xs ys a b}, R xs a → R ys b → R (xs ++ ys) (op a b)) {t : Bracketing β} {parts : List (List α)}
    (each : List.Forall₂ R parts t.leaves) : R parts.flatten (t.value op) := by
  induction t generalizing parts with
  | one b =>
    obtain ⟨part, only, rfl⟩ : ∃ part, R part b ∧ parts = [part] := by
      cases each with
      | cons first rest =>
        cases rest
        exact ⟨_, first, rfl⟩
    simp only [List.flatten_cons, List.flatten_nil, List.append_nil]
    exact only
  | pair left right ihl ihr =>
    have front := ihl (List.forall₂_take_append parts left.leaves right.leaves each)
    have back := ihr (List.forall₂_drop_append parts left.leaves right.leaves each)
    have both := join front back
    rwa [← List.flatten_append, List.take_append_drop] at both

/-- So it is where the order of the parts does not matter, in whichever order the leaves stand. -/
theorem Bracketing.value_of_perm {α β : Type} {op : β → β → β} {R : List α → β → Prop}
    (join : ∀ {xs ys a b}, R xs a → R ys b → R (xs ++ ys) (op a b))
    (reorder : ∀ {xs ys b}, xs.Perm ys → R xs b → R ys b) {t : Bracketing β} {parts : List (List α)}
    {values : List β} (each : List.Forall₂ R parts values) (ordered : t.leaves.Perm values) :
    R parts.flatten (t.value op) := by
  obtain ⟨order, leaves, same⟩ := List.perm_comp_forall₂ ordered each.flip
  exact reorder same.flatten (Bracketing.value_of_leaves join leaves.flip)

namespace Named

variable {α β : Type}

def pick (name : String) (entry : String × α) : Option α := if entry.1 = name then some entry.2 else none

theorem pick_self (name : String) (x : α) : pick name (name, x) = some x := if_pos rfl

theorem pick_of_ne {name : String} {entry : String × α} (other : entry.1 ≠ name) : pick name entry = none :=
  if_neg other

theorem getD_foldl_gather (groups : Named (List α)) (entries : List (String × α)) (name : String) :
    (entries.foldl gather groups)[name]?.getD [] = groups[name]?.getD [] ++ entries.filterMap (pick name) := by
  induction entries generalizing groups with
  | nil => simp
  | cons e entries ih =>
    rw [List.foldl_cons, ih, gather, Std.ExtTreeMap.getElem?_alter]
    by_cases here : e.1 = name
    · subst here
      rw [if_pos Std.ReflCmp.compare_self, List.filterMap_cons_some (pick_self e.1 e.2)]
      simp
    · rw [if_neg (mt Std.LawfulEqCmp.eq_of_compare here), List.filterMap_cons_none (pick_of_ne here)]

/-- Under a name, there is what the entries have there, in their order. -/
theorem getElem?_filterMap_group (f : List α → Option β) (nothing : f [] = none) (entries : List (String × α))
    (name : String) : ((group entries).filterMap fun _ values => f values)[name]? =
      f (entries.filterMap (pick name)) := by
  have picked := getD_foldl_gather ∅ entries name
  rw [Std.ExtTreeMap.getElem?_filterMap', group]
  cases found : (entries.foldl gather ∅)[name]? with
  | none =>
    rw [found] at picked
    have absent : entries.filterMap (pick name) = [] := by simpa using picked.symm
    rw [absent, nothing]
    rfl
  | some values =>
    rw [found] at picked
    have present : entries.filterMap (pick name) = values := by simpa using picked.symm
    rw [present]
    rfl

theorem filterMap_pick_of_mem {entries : List (String × α)} (distinct : entries.Pairwise (·.1 ≠ ·.1))
    {name : String} {x : α} (mem : (name, x) ∈ entries) : entries.filterMap (pick name) = [x] := by
  induction entries with
  | nil => simp at mem
  | cons e entries ih =>
    obtain ⟨head, tail⟩ := List.pairwise_cons.1 distinct
    rcases List.mem_cons.1 mem with rfl | mem
    · have others : entries.filterMap (pick name) = [] :=
        List.filterMap_eq_nil_iff.2 fun e' mem => pick_of_ne (head e' mem).symm
      rw [List.filterMap_cons_some (pick_self name x), others]
    · rw [List.filterMap_cons_none (pick_of_ne (head _ mem)), ih tail mem]

theorem filterMap_pick_toList (m : Named α) (name : String) : m.toList.filterMap (pick name) = m[name]?.toList := by
  cases found : m[name]? with
  | some x => exact filterMap_pick_of_mem (ne_of_toList m) (Std.ExtTreeMap.mem_toList_iff_getElem?_eq_some.2 found)
  | none =>
    refine List.filterMap_eq_nil_iff.2 fun e mem => pick_of_ne ?_
    rintro rfl
    rw [Std.ExtTreeMap.mem_toList_iff_getElem?_eq_some.1 mem] at found
    contradiction

/-- Maps are picked from one by one. -/
theorem filterMap_pick_flatMap {ι : Type} (maps : ι → Named α) (items : List ι) (name : String) :
    (items.flatMap fun i => (maps i).toList).filterMap (pick name) = items.filterMap fun i => (maps i)[name]? := by
  induction items with
  | nil => rfl
  | cons i items ih =>
    rw [List.flatMap_cons, List.filterMap_append, ih, filterMap_pick_toList, List.filterMap_cons]
    cases (maps i)[name]? <;> rfl

end Named

namespace Sample

variable {index : UInt32} {kind : IterationKind} {elapsed : UInt64} {threads : List ThreadResult} {s : Sample}

theorem primary_ofThreads (made : Sample.ofThreads index kind elapsed threads = some s) :
    Value.ofThreads (threads.map (·.primary)) = some s.primary := by
  obtain ⟨primary, aggregated, rfl⟩ := Option.map_eq_some_iff.1 made
  exact aggregated

theorem kind_ofThreads (made : Sample.ofThreads index kind elapsed threads = some s) : s.kind = kind := by
  obtain ⟨primary, -, rfl⟩ := Option.map_eq_some_iff.1 made
  rfl

theorem secondary_ofThreads (made : Sample.ofThreads index kind elapsed threads = some s) (name : String) :
    s.secondary[name]? = Value.ofThreads (threads.filterMap (·.secondary[name]?)) := by
  obtain ⟨primary, -, rfl⟩ := Option.map_eq_some_iff.1 made
  refine (Named.getElem?_filterMap_group Value.ofThreads rfl _ name).trans ?_
  rw [Named.filterMap_pick_flatMap]

end Sample

namespace Run

variable {samples : List Sample} {r : Run}

theorem filter_measured (measured : ∀ s ∈ samples, s.kind = .measurement) :
    samples.filter (·.kind = .measurement) = samples :=
  List.filter_eq_self.2 fun s mem => by simp [measured s mem]

/-- There is a run where something was measured. -/
theorem isSome_ofSamples (measured : ∀ s ∈ samples, s.kind = .measurement) :
    (Run.ofSamples samples).isSome ↔ samples ≠ [] := by
  rw [Run.ofSamples, filter_measured measured, Option.isSome_map]
  cases samples <;> simp [Value.ofRuns]

theorem primary_ofSamples (measured : ∀ s ∈ samples, s.kind = .measurement)
    (made : Run.ofSamples samples = some r) : Value.ofRuns (samples.map (·.primary)) = some r.primary := by
  rw [Run.ofSamples, filter_measured measured] at made
  obtain ⟨primary, aggregated, rfl⟩ := Option.map_eq_some_iff.1 made
  exact aggregated

theorem secondary_ofSamples (measured : ∀ s ∈ samples, s.kind = .measurement)
    (made : Run.ofSamples samples = some r) (name : String) :
    r.secondary[name]? = Value.ofRuns (samples.filterMap (·.secondary[name]?)) := by
  rw [Run.ofSamples, filter_measured measured] at made
  obtain ⟨primary, -, rfl⟩ := Option.map_eq_some_iff.1 made
  refine (Named.getElem?_filterMap_group Value.ofRuns rfl _ name).trans ?_
  rw [Named.filterMap_pick_flatMap]

/-- The run has all that the threads of these iterations report. -/
structure Conserves (model : Measurement) (models : String → Measurement) (iterations : List (List ThreadResult))
    (r : Run) : Prop where
  primary : r.primary.Sums model (iterations.map fun threads => threads.map (·.primary))
  secondary : ∀ name : String, Value.Totals (models name)
    (iterations.map fun threads => threads.filterMap (·.secondary[name]?)) r.secondary[name]?

namespace Conserves

variable {model : Measurement} {models : String → Measurement} {xs ys : List (List ThreadResult)} {a b : Run}

theorem perm (perm : xs.Perm ys) (conserves : a.Conserves model models xs) : a.Conserves model models ys where
  primary := conserves.primary.perm (perm.map _)
  secondary name := (conserves.secondary name).perm (perm.map _)

theorem merge (left : a.Conserves model models xs) (right : b.Conserves model models ys) :
    (a.merge b).Conserves model models (xs ++ ys) where
  primary := by
    rw [List.map_append]
    exact left.primary.merge right.primary
  secondary name := by
    rw [secondary_merge, getElem?_unionWith, List.map_append]
    exact (left.secondary name).append (right.secondary name)

end Conserves

end Run

structure Iteration where
  index : UInt32
  elapsed : UInt64
  threads : List ThreadResult

namespace Iteration

def sample? (i : Iteration) : Option Sample := Sample.ofThreads i.index .measurement i.elapsed i.threads

/-- The run is made of the samples of these iterations. -/
def Measured (iterations : List Iteration) (r : Run) : Prop :=
  ∃ samples, List.Forall₂ (fun i s => i.sample? = some s) iterations samples ∧ Run.ofSamples samples = some r

structure OfKind (model : Measurement) (models : String → Measurement) (i : Iteration) : Prop where
  primary : ∀ t ∈ i.threads, t.primary.measurement.sameKind model
  secondary : ∀ t ∈ i.threads, ∀ (name : String) (v : Value), t.secondary[name]? = some v →
    v.measurement.sameKind (models name)

variable {model : Measurement} {models : String → Measurement}

theorem exists_sample {i : Iteration} (some_thread : i.threads ≠ []) : ∃ s, i.sample? = some s := by
  obtain ⟨t, rest, threads⟩ := List.exists_cons_of_ne_nil some_thread
  have made : ∃ v, Value.ofThreads (i.threads.map (·.primary)) = some v := by
    rw [threads, List.map_cons]
    exact ⟨_, rfl⟩
  obtain ⟨v, made⟩ := made
  exact ⟨_, Option.map_eq_some_iff.2 ⟨v, made, rfl⟩⟩

theorem kind_of_samples {iterations : List Iteration} {samples : List Sample}
    (each : List.Forall₂ (fun i s => sample? i = some s) iterations samples) :
    ∀ s ∈ samples, s.kind = .measurement := by
  induction each with
  | nil => simp
  | cons made _ ih =>
    intro s mem
    rcases List.mem_cons.1 mem with rfl | mem
    · exact Sample.kind_ofThreads made
    · exact ih s mem

theorem exists_measured {iterations : List Iteration} (some_iteration : iterations ≠ [])
    (some_thread : ∀ i ∈ iterations, i.threads ≠ []) : ∃ r, Measured iterations r := by
  obtain ⟨samples, each⟩ : ∃ samples, List.Forall₂ (fun i s => sample? i = some s) iterations samples := by
    clear some_iteration
    induction iterations with
    | nil => exact ⟨[], .nil⟩
    | cons i iterations ih =>
      obtain ⟨s, made⟩ := exists_sample (some_thread i List.mem_cons_self)
      obtain ⟨samples, each⟩ := ih fun j mem => some_thread j (List.mem_cons_of_mem i mem)
      exact ⟨s :: samples, .cons made each⟩
  have some_sample : samples ≠ [] := by
    cases each with
    | nil => contradiction
    | cons => exact List.cons_ne_nil _ _
  obtain ⟨r, made⟩ := Option.isSome_iff_exists.1 ((Run.isSome_ofSamples (kind_of_samples each)).2 some_sample)
  exact ⟨r, samples, each, made⟩

/-- The threads of an iteration add up in its sample. -/
theorem totals_of_sample {i : Iteration} (kinds : i.OfKind model models) {s : Sample} (made : i.sample? = some s) :
    Value.Totals model [i.threads.map (·.primary)] (some s.primary) ∧
      ∀ name : String,
        Value.Totals (models name) [i.threads.filterMap (·.secondary[name]?)] s.secondary[name]? := by
  constructor
  · have all : ∀ v ∈ i.threads.map (·.primary), v.measurement.sameKind model := by
      intro v mem
      obtain ⟨t, inside, rfl⟩ := List.mem_map.1 mem
      exact kinds.primary t inside
    rw [← Sample.primary_ofThreads made]
    exact Value.Totals.ofThreads all
  · intro name
    rw [Sample.secondary_ofThreads made]
    refine Value.Totals.ofThreads fun v mem => ?_
    obtain ⟨t, inside, reported⟩ := List.mem_filterMap.1 mem
    exact kinds.secondary t inside name v reported

theorem conserves_of_measured {iterations : List Iteration} (kinds : ∀ i ∈ iterations, i.OfKind model models)
    {r : Run} (measured : Measured iterations r) : r.Conserves model models (iterations.map threads) := by
  obtain ⟨samples, each, made⟩ := measured
  have measured := kind_of_samples each
  have totals := ((List.forall₂_and_left _ _).2 ⟨kinds, each⟩).imp fun i s both =>
    totals_of_sample both.1 both.2
  constructor
  · have primary := Value.Totals.ofRuns (List.forall₂_map_left_iff.2 (List.forall₂_map_right_iff.2
      (totals.imp fun _ _ both => both.1)))
    have all : samples.filterMap (id ∘ fun s => some s.primary) = samples.map (·.primary) :=
      congrFun List.filterMap_eq_map samples
    rw [List.filterMap_map, all, Run.primary_ofSamples measured made] at primary
    rw [List.map_map]
    exact primary.1
  · intro name
    have secondary := Value.Totals.ofRuns (List.forall₂_map_left_iff.2 (List.forall₂_map_right_iff.2
      (totals.imp fun _ _ both => both.2 name)))
    rw [List.filterMap_map] at secondary
    rw [Run.secondary_ofSamples measured made, List.map_map]
    exact secondary

end Iteration

namespace Run

variable {model : Measurement} {models : String → Measurement}

/-- Runs in brackets have all that each of them has. -/
theorem Conserves.bracketed {t : Bracketing Run} {forks : List (List Iteration)}
    (each : List.Forall₂ (fun fork r => Conserves model models (fork.map Iteration.threads) r) forks t.leaves) :
    (t.value Run.merge).Conserves model models (forks.flatten.map Iteration.threads) := by
  refine Bracketing.value_of_leaves (fun left right => ?_) each
  rw [List.map_append]
  exact left.merge right

/-- However the threads, iterations and forks of a benchmark are given, their run has the counts and the times of
all of them, in whichever order and with whatever brackets the runs of the forks are merged: of the primary value,
and under each name of the value that is reported there, if any is. -/
theorem conserves_of_forks {forks : List (List Iteration)} (some_fork : forks ≠ [])
    (some_iteration : ∀ fork ∈ forks, fork ≠ [])
    (some_thread : ∀ fork ∈ forks, ∀ i ∈ fork, i.threads ≠ [])
    (kinds : ∀ fork ∈ forks, ∀ i ∈ fork, i.OfKind model models) :
    ∃ runs, List.Forall₂ Iteration.Measured forks runs ∧
      (∀ order, order.Perm runs → ∃ r, mergeAll order = some r ∧
        r.Conserves model models (forks.flatten.map Iteration.threads)) ∧
      ∀ t : Bracketing Run, t.leaves.Perm runs →
        (t.value merge).Conserves model models (forks.flatten.map Iteration.threads) := by
  obtain ⟨runs, each⟩ : ∃ runs, List.Forall₂ Iteration.Measured forks runs := by
    clear some_fork kinds
    induction forks with
    | nil => exact ⟨[], .nil⟩
    | cons fork forks ih =>
      obtain ⟨r, measured⟩ := Iteration.exists_measured (some_iteration fork List.mem_cons_self)
        (some_thread fork List.mem_cons_self)
      obtain ⟨runs, each⟩ := ih (fun g mem => some_iteration g (List.mem_cons_of_mem fork mem))
        fun g mem => some_thread g (List.mem_cons_of_mem fork mem)
      exact ⟨r :: runs, .cons measured each⟩
  have bracketed (t : Bracketing Run) (perm : t.leaves.Perm runs) :
      (t.value merge).Conserves model models (forks.flatten.map Iteration.threads) := by
    have conserves := ((List.forall₂_and_left _ _).2 ⟨kinds, each⟩).imp fun fork r both =>
      Iteration.conserves_of_measured both.1 both.2
    -- The leaves are the runs in another order; their forks are put in the same order.
    obtain ⟨order, ordered, same⟩ := List.perm_comp_forall₂ perm conserves.flip
    exact (Conserves.bracketed ordered.flip).perm (same.flatten.map _)
  refine ⟨runs, each, fun order perm => ?_, bracketed⟩
  cases order with
  | nil =>
    obtain rfl := perm.nil_eq
    cases each
    contradiction
  | cons first rest =>
    have conserves := bracketed (.fromLeft first rest) (by rwa [Bracketing.leaves_fromLeft])
    rw [Bracketing.value_fromLeft] at conserves
    exact ⟨_, rfl, conserves⟩

/-- What a thread reports that counts operations, and may pause. -/
def paused (operations time : UInt64) (pause? : Option UInt64) : ThreadResult where
  primary := ⟨"copy", .seconds, .throughput operations time⟩
  secondary := pause?.elim ∅ fun t => .ofList [("pause", pause t)]

theorem paused_ofKind {i : Iteration}
    (all : ∀ t ∈ i.threads, ∃ operations time pause?, t = paused operations time pause?) :
    i.OfKind (.throughput 0 0) fun _ => .singleShot 0 0 := by
  constructor
  · intro t mem
    obtain ⟨_, _, _, rfl⟩ := all t mem
    rfl
  · intro t mem name v reported
    obtain ⟨_, _, pause?, rfl⟩ := all t mem
    cases pause? with
    | none => simp [paused] at reported
    | some time =>
      have pauses : (sampled time ⟨0⟩).secondary[name]? = some v := reported
      obtain rfl := eq_of_secondary_sampled pauses
      rfl

/-- The second fork saturates the count of operations. In the first iteration of the first fork one thread pauses,
in the second none. -/
theorem conserves_of_forks_of_two :
    let forks : List (List Iteration) :=
      [[⟨1, 9, [paused 3 7 none, paused 5 8 (some 4)]⟩, ⟨2, 9, [paused 1 2 none]⟩],
        [⟨1, 9, [paused 0xffffffffffffffff 5 (some 6)]⟩]]
    ∃ runs r, List.Forall₂ Iteration.Measured forks runs ∧ mergeAll runs.reverse = some r ∧
      r.primary.count = 1 <<< 64 - 1 ∧ r.primary.time = 15 ∧
      ∃ v, r.secondary["pause"]? = some v ∧ v.count = 2 ∧ v.time = 10 := by
  intro forks
  have kinds : ∀ fork ∈ forks, ∀ i ∈ fork, i.OfKind (.throughput 0 0) fun _ => .singleShot 0 0 := by
    intro fork mem i inside
    refine paused_ofKind fun t inner => ?_
    have reporting : t ∈ forks.flatten.flatMap Iteration.threads :=
      List.mem_flatMap.2 ⟨i, List.mem_flatten.2 ⟨fork, mem, inside⟩, inner⟩
    simp only [forks, List.flatten_cons, List.flatten_nil, List.cons_append, List.nil_append, List.flatMap_cons,
      List.flatMap_nil, List.mem_cons, List.not_mem_nil, or_false] at reporting
    rcases reporting with rfl | rfl | rfl | rfl <;> exact ⟨_, _, _, rfl⟩
  have some_fork : forks ≠ [] := by simp [forks]
  have some_iteration : ∀ fork ∈ forks, fork ≠ [] := by simp [forks]
  have some_thread : ∀ fork ∈ forks, ∀ i ∈ fork, i.threads ≠ [] := by simp [forks]
  obtain ⟨runs, each, ordered, -⟩ := conserves_of_forks some_fork some_iteration some_thread kinds
  obtain ⟨r, merged, conserves⟩ := ordered runs.reverse runs.reverse_perm
  refine ⟨runs, r, each, merged, conserves.primary.count, conserves.primary.time, ?_⟩
  have pauses := conserves.secondary "pause"
  have reported : (forks.flatten.map Iteration.threads).map (fun threads =>
      threads.filterMap (·.secondary["pause"]?)) = [[pause 4], [], [pause 6]] := by rfl
  rw [reported] at pauses
  cases found : r.secondary["pause"]? with
  | none =>
    rw [found] at pauses
    exact absurd (pauses [pause 4] List.mem_cons_self) (List.cons_ne_nil _ _)
  | some v =>
    rw [found] at pauses
    exact ⟨v, rfl, pauses.1.count, pauses.1.time⟩

end Run

end Microbench
