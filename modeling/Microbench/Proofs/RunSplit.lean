import Microbench.Proofs.Conservation

/-!
Iterations that are split over two runs. Labels and units are those of the first iteration, and all else is sums and a
sorted list; so the merged run is the run of all iterations, made in two parts instead of one
(`Run.ofSamples_of_append`).
-/

namespace Microbench

namespace Value

/-- Values of one kind are merged part by part, whatever they are called. -/
theorem ofRuns_append {xs ys : List Value}
    (kind : ∀ v ∈ xs ++ ys, ∀ w ∈ xs ++ ys, v.measurement.sameKind w.measurement)
    (ascending : ∀ v ∈ xs ++ ys, v.Ascending) :
    ofRuns (xs ++ ys) = Option.merge merge (ofRuns xs) (ofRuns ys) := by
  cases xs with
  | nil =>
    rw [List.nil_append]
    cases ofRuns ys <;> rfl
  | cons x xs =>
    cases ys with
    | nil => rw [List.append_nil]; rfl
    | cons y ys =>
      have first : x ∈ x :: xs ++ y :: ys := List.mem_cons_self
      have fits {l : List Value} (within : ∀ v ∈ l, v ∈ x :: xs ++ y :: ys) :
          ∀ m ∈ l.map (·.measurement), x.measurement.Fits m := by
        intro m mem
        obtain ⟨v, inside, rfl⟩ := List.mem_map.1 mem
        exact ⟨kind v (within v inside) x first, ascending v (within v inside)⟩
      have merging := Measurement.merging x.measurement
      have left := merging.foldl_closed (fits (l := xs) (by simp +contextual))
        (fits (l := [x]) (by simp) x.measurement List.mem_cons_self)
      have middle := fits (l := [y]) (by simp) y.measurement List.mem_cons_self
      have right := fits (l := ys) (by simp +contextual)
      simp only [ofRuns, Option.merge, List.cons_append, foldl_merge_eq, List.foldl_append, List.foldl_cons, merge]
      rw [merging.foldl_op right left middle]

end Value

namespace Sample

/-- What two samples have under one name is of one kind. -/
structure Agree (s t : Sample) : Prop where
  primary : s.primary.measurement.sameKind t.primary.measurement
  secondary : ∀ (name : String) (v w : Value), s.secondary[name]? = some v → t.secondary[name]? = some w →
    v.measurement.sameKind w.measurement

structure Ascending (s : Sample) : Prop where
  primary : s.primary.Ascending
  secondary : ∀ (name : String) (v : Value), s.secondary[name]? = some v → v.Ascending

def measured (samples : List Sample) : List Sample := samples.filter (·.kind = .measurement)

theorem measured_append (xs ys : List Sample) : measured (xs ++ ys) = measured xs ++ measured ys :=
  List.filter_append ..

theorem kind_of_mem_measured {samples : List Sample} : ∀ s ∈ measured samples, s.kind = .measurement :=
  fun _ mem => of_decide_eq_true (List.mem_filter.1 mem).2

end Sample

namespace Run

open Sample

theorem ofSamples_measured (samples : List Sample) : ofSamples (measured samples) = ofSamples samples := by
  rw [ofSamples, filter_measured kind_of_mem_measured]
  rfl

/-- A run is made where something was measured. -/
theorem exists_of_measured {samples : List Sample} (some_sample : measured samples ≠ []) :
    ∃ r, ofSamples samples = some r := by
  rw [← ofSamples_measured]
  exact Option.isSome_iff_exists.1 ((isSome_ofSamples kind_of_mem_measured).2 some_sample)

/-- What a run holds of its measurement iterations. -/
theorem fields_of_ofSamples {samples : List Sample} {r : Run} (made : ofSamples samples = some r) :
    Value.ofRuns ((measured samples).map (·.primary)) = some r.primary ∧
    (∀ name : String, r.secondary[name]? = Value.ofRuns ((measured samples).filterMap (·.secondary[name]?))) ∧
    r.scores = Binary64.sort ((measured samples).filterMap (·.primary.score)) ∧ r.contributions = 1 := by
  have measured := (ofSamples_measured samples).trans made
  refine ⟨primary_ofSamples kind_of_mem_measured measured, secondary_ofSamples kind_of_mem_measured measured, ?_⟩
  obtain ⟨primary, -, rfl⟩ := Option.map_eq_some_iff.1 made
  exact ⟨rfl, rfl⟩

section Append

variable {xs ys : List Sample}

/-- Without measurements on one side, the run is that of the other side. -/
theorem ofSamples_of_unmeasured :
    (measured xs = [] → ofSamples (xs ++ ys) = ofSamples ys) ∧
    (measured ys = [] → ofSamples (xs ++ ys) = ofSamples xs) := by
  constructor
  · intro none
    rw [← ofSamples_measured, measured_append, none, List.nil_append, ofSamples_measured]
  · intro none
    rw [← ofSamples_measured, measured_append, none, List.append_nil, ofSamples_measured]

variable (agree : ∀ s ∈ measured (xs ++ ys), ∀ t ∈ measured (xs ++ ys), s.Agree t)
  (ascending : ∀ s ∈ measured (xs ++ ys), s.Ascending) {a b r : Run}
include agree ascending

theorem primary_of_append (left : ofSamples xs = some a) (right : ofSamples ys = some b)
    (both : ofSamples (xs ++ ys) = some r) : r.primary = a.primary.merge b.primary := by
  have primary := (fields_of_ofSamples both).1
  rw [measured_append] at agree ascending
  rw [measured_append, List.map_append, Value.ofRuns_append, (fields_of_ofSamples left).1,
    (fields_of_ofSamples right).1] at primary
  · exact (Option.some.inj primary).symm
  · rw [← List.map_append]
    intro v hv w hw
    obtain ⟨s, hs, rfl⟩ := List.mem_map.1 hv
    obtain ⟨t, ht, rfl⟩ := List.mem_map.1 hw
    exact (agree s hs t ht).primary
  · rw [← List.map_append]
    intro v hv
    obtain ⟨s, hs, rfl⟩ := List.mem_map.1 hv
    exact (ascending s hs).primary

theorem secondary_of_append (left : ofSamples xs = some a) (right : ofSamples ys = some b)
    (both : ofSamples (xs ++ ys) = some r) : r.secondary = unionWith Value.merge a.secondary b.secondary := by
  apply Std.ExtTreeMap.ext_getElem?
  intro name
  have secondary := (fields_of_ofSamples both).2.1 name
  rw [measured_append] at agree ascending
  rw [measured_append, List.filterMap_append, Value.ofRuns_append, ← (fields_of_ofSamples left).2.1 name,
    ← (fields_of_ofSamples right).2.1 name] at secondary
  · rw [secondary, getElem?_unionWith]
  · rw [← List.filterMap_append]
    intro v hv w hw
    obtain ⟨s, hs, reported⟩ := List.mem_filterMap.1 hv
    obtain ⟨t, ht, reported'⟩ := List.mem_filterMap.1 hw
    exact (agree s hs t ht).secondary name v w reported reported'
  · rw [← List.filterMap_append]
    intro v hv
    obtain ⟨s, hs, reported⟩ := List.mem_filterMap.1 hv
    exact (ascending s hs).secondary name v reported

end Append

theorem scores_of_append {xs ys : List Sample} {a b r : Run} (left : ofSamples xs = some a)
    (right : ofSamples ys = some b) (both : ofSamples (xs ++ ys) = some r) :
    r.scores = Binary64.sort (a.scores ++ b.scores) := by
  rw [(fields_of_ofSamples both).2.2.1, (fields_of_ofSamples left).2.2.1, (fields_of_ofSamples right).2.2.1,
    measured_append, List.filterMap_append]
  exact Binary64.sort_eq_of_perm ((Binary64.sort_perm _).append (Binary64.sort_perm _)).symm

/-- Iterations that measure values of one kind under each name make one run, or two that merge to it: only the
number of runs tells them apart. What does not measure anything adds nothing. -/
theorem ofSamples_of_append (xs ys : List Sample) :
    (measured xs ≠ [] → measured ys ≠ [] →
      (∀ s ∈ measured (xs ++ ys), ∀ t ∈ measured (xs ++ ys), s.Agree t) →
      (∀ s ∈ measured (xs ++ ys), s.Ascending) →
      ∃ a b r, ofSamples xs = some a ∧ ofSamples ys = some b ∧ ofSamples (xs ++ ys) = some r ∧
        r = { a.merge b with contributions := 1 } ∧ (a.merge b).contributions = 2) ∧
    (measured xs = [] → ofSamples (xs ++ ys) = ofSamples ys) ∧
    (measured ys = [] → ofSamples (xs ++ ys) = ofSamples xs) := by
  refine ⟨fun some_left some_right agree ascending => ?_, ofSamples_of_unmeasured⟩
  obtain ⟨a, left⟩ := exists_of_measured some_left
  obtain ⟨b, right⟩ := exists_of_measured some_right
  have some_sample : measured (xs ++ ys) ≠ [] := by
    rw [measured_append]
    exact List.append_ne_nil_of_left_ne_nil some_left _
  obtain ⟨r, both⟩ := exists_of_measured some_sample
  refine ⟨a, b, r, left, right, both, ?_, ?_⟩
  · apply ext_fields
    · exact primary_of_append agree ascending left right both
    · rw [secondary_of_append agree ascending left right both]
      exact (secondary_merge a b).symm
    · exact scores_of_append left right both
    · exact (fields_of_ofSamples both).2.2.2
  · rw [merge, (fields_of_ofSamples left).2.2.2, (fields_of_ofSamples right).2.2.2]
    rfl

/-- An iteration of one timed call, with a pause beside it if there was one. -/
def timed (kind : IterationKind) (time : UInt64) (pause? : Option UInt64) : Sample where
  index := 1
  kind
  elapsed := time
  primary := ⟨"parse", .seconds, .sampleTime ⟨1, time, [(time, 1)]⟩⟩
  secondary := (paused 0 0 pause?).secondary
  rawPrimary := []
  rawSecondary := ∅

theorem pause_of_timed {kind : IterationKind} {time : UInt64} {pause? : Option UInt64} {name : String} {v : Value}
    (reported : (timed kind time pause?).secondary[name]? = some v) : ∃ t, v = pause t := by
  cases pause? with
  | none => simp [timed, paused] at reported
  | some t =>
    have pauses : (sampled t ⟨0⟩).secondary[name]? = some v := reported
    exact ⟨t, eq_of_secondary_sampled pauses⟩

/-- Three calls in two runs, with warmup among them. One of the iterations of the second run has no pause. -/
theorem ofSamples_of_append_of_timed :
    let xs := [timed .measurement 7 (some 4), timed .warmup 9 none]
    let ys := [timed .warmup 5 none, timed .measurement 6 none, timed .measurement 7 (some 5)]
    ∃ a b, ofSamples xs = some a ∧ ofSamples ys = some b ∧
      ofSamples (xs ++ ys) = some { a.merge b with contributions := 1 } ∧ (a.merge b).contributions = 2 ∧
      (a.merge b).primary.measurement = .sampleTime ⟨3, 20, [(6, 1), (7, 2)]⟩ ∧
      ofSamples ([timed .warmup 9 none] ++ ys) = some b := by
  intro xs ys
  have all : ∀ s ∈ measured (xs ++ ys), ∃ kind time pause?, s = timed kind time pause? := by
    intro s mem
    have listed : s ∈ xs ++ ys := List.mem_of_mem_filter mem
    simp only [xs, ys, List.cons_append, List.nil_append, List.mem_cons, List.not_mem_nil, or_false] at listed
    rcases listed with rfl | rfl | rfl | rfl | rfl <;> exact ⟨_, _, _, rfl⟩
  have agree : ∀ s ∈ measured (xs ++ ys), ∀ t ∈ measured (xs ++ ys), s.Agree t := by
    intro s hs t ht
    obtain ⟨_, _, _, rfl⟩ := all s hs
    obtain ⟨_, _, _, rfl⟩ := all t ht
    refine ⟨rfl, fun name v w hv hw => ?_⟩
    obtain ⟨_, rfl⟩ := pause_of_timed hv
    obtain ⟨_, rfl⟩ := pause_of_timed hw
    rfl
  have ascending : ∀ s ∈ measured (xs ++ ys), s.Ascending := by
    intro s hs
    obtain ⟨_, _, _, rfl⟩ := all s hs
    refine ⟨List.pairwise_singleton .., fun name v hv => ?_⟩
    obtain ⟨_, rfl⟩ := pause_of_timed hv
    trivial
  obtain ⟨a, b, r, left, right, both, rfl, two⟩ :=
    (ofSamples_of_append xs ys).1 (by simp [xs, measured, timed]) (by simp [ys, measured, timed]) agree ascending
  have primary : Value.ofRuns ((measured (xs ++ ys)).map (·.primary)) =
      some ⟨"parse", .seconds, .sampleTime ⟨3, 20, [(6, 1), (7, 2)]⟩⟩ := by decide
  have merged := Option.some.inj ((fields_of_ofSamples both).1.symm.trans primary)
  refine ⟨a, b, left, right, both, two, congrArg Value.measurement merged, ?_⟩
  rw [← right]
  exact (ofSamples_of_append [timed .warmup 9 none] ys).2.1 rfl

end Run

end Microbench
