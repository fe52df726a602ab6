import Microbench.Proofs.Merging
import Microbench.Proofs.TotalOrder
import Microbench.Run

/-!
Runs of one benchmark merge in any order. What has to agree is what a merge takes from the left
run: labels, units and kinds. The rest is sums, a union of buckets and a sorted list, and
`Run.merging` puts them together: however the runs are ordered and grouped, the merged run is the
same one, down to the bits of its scores.
-/

namespace Microbench

theorem satAdd_merging : Merging satAdd fun _ => True where
  closed _ _ := trivial
  comm {a b} _ _ := satAdd_comm a b
  assoc {a b c} _ _ _ := satAdd_assoc a b c

/-- A count that starts at 0 is an entry that is put in first. -/
theorem alter_satAdd {κ : Type} {cmp : κ → κ → Ordering} [Std.TransCmp cmp]
    (counts : Std.ExtTreeMap κ UInt64 cmp) (entry : κ × UInt64) :
    (counts.alter entry.1 fun counted => some (satAdd (counted.getD 0) entry.2)) =
      addEntry satAdd counts entry := by
  unfold addEntry
  congr 1
  funext counted
  cases counted with
  | none => simp [satAdd_comm 0]
  | some n => rfl

namespace Distribution

def Ascending (d : Distribution) : Prop := d.buckets.Pairwise (·.1 < ·.1)

instance (d : Distribution) : Decidable d.Ascending := inferInstanceAs (Decidable (List.Pairwise ..))

def counts (d : Distribution) : Std.ExtTreeMap UInt64 UInt64 := .ofList d.buckets

theorem addBucket_eq (counts : Std.ExtTreeMap UInt64 UInt64) (bucket : UInt64 × UInt64) :
    addBucket counts bucket = addEntry satAdd counts bucket := alter_satAdd counts bucket

theorem toList_counts {d : Distribution} (h : d.Ascending) : d.counts.toList = d.buckets :=
  toList_ofList (h.imp Std.compare_eq_lt.2)

theorem counts_merge (a : Distribution) {b : Distribution} (hb : b.Ascending) :
    (a.merge b).counts = unionWith satAdd a.counts b.counts := by
  have step : addBucket = addEntry satAdd := by
    funext counts bucket
    exact addBucket_eq counts bucket
  rw [unionWith, toList_counts hb, ← step]
  exact ofList_toList _

theorem merge_ascending (a b : Distribution) : (a.merge b).Ascending :=
  Std.ExtTreeMap.ordered_keys_toList.imp Std.compare_eq_lt.1

/-- A distribution in order is known by its two sums and its counts. -/
theorem ext_counts {a b : Distribution} (ha : a.Ascending) (hb : b.Ascending)
    (count : a.count = b.count) (total : a.total = b.total) (counts : a.counts = b.counts) :
    a = b := by
  have buckets : a.buckets = b.buckets := by rw [← toList_counts ha, counts, toList_counts hb]
  cases a; cases b
  simp_all

theorem counts_merging :
    Merging (unionWith satAdd) fun m : Std.ExtTreeMap UInt64 UInt64 =>
      ∀ (value n : UInt64), m[value]? = some n → True :=
  .unionWith fun _ => satAdd_merging

theorem merging : Merging merge Ascending where
  closed _ _ := merge_ascending ..
  comm {a b} ha hb := by
    apply ext_counts (merge_ascending ..) (merge_ascending ..)
    · exact satAdd_comm ..
    · exact satAdd_comm ..
    · rw [counts_merge a hb, counts_merge b ha]
      exact counts_merging.comm (by simp) (by simp)
  assoc {a b c} ha hb hc := by
    apply ext_counts (merge_ascending ..) (merge_ascending ..)
    · exact satAdd_assoc ..
    · exact satAdd_assoc ..
    · rw [counts_merge _ hc, counts_merge a hb, counts_merge a (merge_ascending b c),
        counts_merge b hc]
      exact counts_merging.assoc (by simp) (by simp) (by simp)

end Distribution

namespace Measurement

def Ascending : Measurement → Prop
  | sampleTime s => s.Ascending
  | _ => True

def Fits (model m : Measurement) : Prop := m.sameKind model ∧ m.Ascending

theorem sameKind_refl (m : Measurement) : m.sameKind m := by cases m <;> rfl

theorem sameKind_symm {m n : Measurement} (h : m.sameKind n) : n.sameKind m := by
  cases m <;> cases n <;> first | rfl | contradiction

theorem sameKind_trans {m n o : Measurement} (h : m.sameKind n) (h' : n.sameKind o) :
    m.sameKind o := by
  cases m <;> cases n <;> cases o <;> first | rfl | contradiction

theorem sameKind_add (m n : Measurement) : (m.add n).sameKind m := by cases m <;> cases n <;> rfl

theorem Ascending.add {m n : Measurement} (h : m.Ascending) : (m.add n).Ascending := by
  cases m <;> cases n <;> first | trivial | exact h | exact Distribution.merge_ascending ..

theorem merging (model : Measurement) : Merging add model.Fits where
  closed {a b} ha hb := ⟨sameKind_trans (sameKind_add a b) ha.1, ha.2.add⟩
  comm {a b} ha hb := by
    have same := sameKind_trans ha.1 (sameKind_symm hb.1)
    cases a <;> cases b <;> try contradiction
    case sampleTime.sampleTime => exact congrArg sampleTime (Distribution.merging.comm ha.2 hb.2)
    all_goals simp only [add, satAdd_comm]
  assoc {a b c} ha hb hc := by
    have first := sameKind_trans ha.1 (sameKind_symm hb.1)
    have second := sameKind_trans hb.1 (sameKind_symm hc.1)
    cases a <;> cases b <;> try contradiction
    all_goals cases c <;> try contradiction
    case sampleTime.sampleTime.sampleTime =>
      exact congrArg sampleTime (Distribution.merging.assoc ha.2 hb.2 hc.2)
    all_goals simp only [add, satAdd_assoc]

end Measurement

namespace Value

/-- One label, one unit and one kind of measurement. -/
structure Alike (v w : Value) : Prop where
  label : v.label = w.label
  unit : v.unit = w.unit
  kind : v.measurement.sameKind w.measurement

theorem Alike.refl (v : Value) : v.Alike v := ⟨rfl, rfl, Measurement.sameKind_refl _⟩

theorem Alike.symm {v w : Value} (h : v.Alike w) : w.Alike v :=
  ⟨h.label.symm, h.unit.symm, Measurement.sameKind_symm h.kind⟩

def Ascending (v : Value) : Prop := v.measurement.Ascending

def Fits (model v : Value) : Prop := v.Alike model ∧ v.Ascending

theorem Fits.measurement {model v : Value} (h : model.Fits v) :
    model.measurement.Fits v.measurement := ⟨h.1.kind, h.2⟩

theorem ext_alike {model v w : Value} (hv : v.Alike model) (hw : w.Alike model)
    (h : v.measurement = w.measurement) : v = w := by
  have label := hv.label.trans hw.label.symm
  have unit := hv.unit.trans hw.unit.symm
  cases v; cases w
  simp_all

theorem merge_alike {model v : Value} (h : v.Alike model) (w : Value) : (v.merge w).Alike model :=
  ⟨h.label, h.unit, Measurement.sameKind_trans (Measurement.sameKind_add ..) h.kind⟩

theorem merging (model : Value) : Merging merge model.Fits where
  closed {a b} ha hb := ⟨merge_alike ha.1 b, ha.2.add⟩
  comm {a b} ha hb := by
    apply ext_alike (merge_alike ha.1 b) (merge_alike hb.1 a)
    exact (Measurement.merging model.measurement).comm ha.measurement hb.measurement
  assoc {a b c} ha hb hc := by
    apply ext_alike (merge_alike (merge_alike ha.1 b) c) (merge_alike ha.1 _)
    exact (Measurement.merging model.measurement).assoc ha.measurement hb.measurement hc.measurement

end Value

namespace Run

/-- What two runs report under one name has one label, unit and kind. -/
structure Agree (a b : Run) : Prop where
  primary : a.primary.Alike b.primary
  secondary : ∀ (name : String) (v w : Value), a.secondary[name]? = some v →
    b.secondary[name]? = some w → v.Alike w

structure Ascending (r : Run) : Prop where
  primary : r.primary.Ascending
  secondary : ∀ (name : String) (v : Value), r.secondary[name]? = some v → v.Ascending

/-- A model for the value under each name. -/
structure Schema where
  primary : Value
  secondary : String → Value

structure Schema.Fits (s : Schema) (r : Run) : Prop where
  primary : s.primary.Fits r.primary
  secondary : ∀ (name : String) (v : Value), r.secondary[name]? = some v → (s.secondary name).Fits v

theorem Agree.refl (r : Run) : r.Agree r where
  primary := .refl _
  secondary name v w hv hw := by
    obtain rfl := Option.some.inj (hv.symm.trans hw)
    exact .refl v

theorem Agree.symm {a b : Run} (h : a.Agree b) : b.Agree a where
  primary := h.primary.symm
  secondary name v w hv hw := (h.secondary name w v hw hv).symm

/-- Runs that agree in pairs all follow one schema: a name is modelled by the first run that has
it. -/
theorem exists_schema {runs : List Run} (agree : runs.Pairwise Agree)
    (ascending : ∀ r ∈ runs, r.Ascending) : ∃ s : Schema, ∀ r ∈ runs, s.Fits r := by
  have all : ∀ a ∈ runs, ∀ b ∈ runs, a.Agree b := fun a ha b hb =>
    agree.forall_of_forall_of_flip (fun r _ => .refl r) (agree.imp Agree.symm) ha hb
  cases runs with
  | nil => exact ⟨⟨default, fun _ => default⟩, by simp⟩
  | cons first rest =>
    let secondary (name : String) : Value :=
      ((first :: rest).findSome? (·.secondary[name]?)).getD default
    refine ⟨⟨first.primary, secondary⟩, fun r hr => ⟨?_, fun name v hv => ?_⟩⟩
    · exact ⟨(all r hr first List.mem_cons_self).primary, (ascending r hr).primary⟩
    · refine ⟨?_, (ascending r hr).secondary name v hv⟩
      cases found : (first :: rest).findSome? (·.secondary[name]?) with
      | none => simp [List.findSome?_eq_none_iff.1 found r hr] at hv
      | some model =>
        obtain ⟨a, ha, hm⟩ := List.exists_of_findSome?_eq_some found
        simpa [secondary, found] using (all r hr a ha).secondary name v model hv hm

theorem mergeNamed_eq (values : Named Value) (entry : String × Value) :
    mergeNamed values entry = addEntry Value.merge values entry := by
  unfold mergeNamed addEntry
  congr 1
  funext earlier
  cases earlier <;> rfl

theorem secondary_merge (a b : Run) :
    (a.merge b).secondary = unionWith Value.merge a.secondary b.secondary := by
  have step : mergeNamed = addEntry Value.merge := by
    funext values entry
    exact mergeNamed_eq values entry
  simp only [merge, unionWith, step]

theorem secondary_merging (s : Schema) : Merging (unionWith Value.merge)
    fun values : Named Value => ∀ (name : String) (v : Value), values[name]? = some v →
      (s.secondary name).Fits v :=
  .unionWith fun name => Value.merging (s.secondary name)

theorem ext_fields {a b : Run} (primary : a.primary = b.primary)
    (secondary : a.secondary = b.secondary) (scores : a.scores = b.scores)
    (contributions : a.contributions = b.contributions) : a = b := by
  cases a; cases b
  simp_all

theorem merging (s : Schema) : Merging merge s.Fits where
  closed {a b} ha hb := by
    refine ⟨(Value.merging s.primary).closed ha.primary hb.primary, ?_⟩
    rw [secondary_merge]
    exact (secondary_merging s).closed ha.secondary hb.secondary
  comm {a b} ha hb := by
    apply ext_fields
    · exact (Value.merging s.primary).comm ha.primary hb.primary
    · rw [secondary_merge, secondary_merge]
      exact (secondary_merging s).comm ha.secondary hb.secondary
    · exact Binary64.sort_append_comm ..
    · exact satAdd32_comm ..
  assoc {a b c} ha hb hc := by
    apply ext_fields
    · exact (Value.merging s.primary).assoc ha.primary hb.primary hc.primary
    · simp only [secondary_merge]
      exact (secondary_merging s).assoc ha.secondary hb.secondary hc.secondary
    · exact Binary64.sort_append_assoc ..
    · exact satAdd32_assoc ..

theorem mergeAll_eq_folded (runs : List Run) : mergeAll runs = folded merge runs := by
  cases runs <;> rfl

/-- Runs that agree have one merged run, whatever their order and however they are merged in parts
first. -/
theorem mergeAll_unique {runs : List Run} (agree : runs.Pairwise Agree)
    (ascending : ∀ r ∈ runs, r.Ascending) :
    (∀ a ∈ runs, ∀ b ∈ runs, a.merge b = b.merge a) ∧
    (∀ a ∈ runs, ∀ b ∈ runs, ∀ c ∈ runs, (a.merge b).merge c = a.merge (b.merge c)) ∧
    (∀ runs', runs.Perm runs' → mergeAll runs' = mergeAll runs) ∧
    ∀ t : Bracketing Run, runs.Perm t.leaves → mergeAll runs = some (t.value merge) := by
  obtain ⟨schema, fits⟩ := exists_schema agree ascending
  have m := merging schema
  refine ⟨?_, ?_, ?_, ?_⟩
  · exact fun a ha b hb => m.comm (fits a ha) (fits b hb)
  · exact fun a ha b hb c hc => m.assoc (fits a ha) (fits b hb) (fits c hc)
  · intro runs' perm
    rw [mergeAll_eq_folded, mergeAll_eq_folded, m.folded_perm perm fits]
  · intro t perm
    rw [mergeAll_eq_folded, m.folded_perm perm fits]
    exact m.folded_leaves t fun r hr => fits r (perm.mem_iff.2 hr)

def pause (time : UInt64) : Value := ⟨"pause", .milliseconds, .singleShot 1 time⟩

/-- A run with one sampled time, and a pause beside it. -/
def sampled (time : UInt64) (score : Binary64) : Run where
  primary := ⟨"parse", .seconds, .sampleTime ⟨1, time, [(time, 1)]⟩⟩
  secondary := .ofList [("pause", pause time)]
  scores := [score]
  contributions := 1

theorem eq_of_secondary_sampled {time : UInt64} {score : Binary64} {name : String} {v : Value}
    (h : (sampled time score).secondary[name]? = some v) :
    v = pause time := by
  have member := (getElem?_ofList_eq_some_iff (List.pairwise_singleton ..)).1 h
  simp only [List.mem_singleton, Prod.mk.injEq] at member
  exact member.2

theorem sampled_agree (t t' : UInt64) (s s' : Binary64) : (sampled t s).Agree (sampled t' s') where
  primary := ⟨rfl, rfl, rfl⟩
  secondary name v w hv hw := by
    obtain rfl := eq_of_secondary_sampled hv
    obtain rfl := eq_of_secondary_sampled hw
    exact ⟨rfl, rfl, rfl⟩

theorem sampled_ascending (t : UInt64) (s : Binary64) : (sampled t s).Ascending where
  primary := List.pairwise_singleton ..
  secondary name v hv := by
    obtain rfl := eq_of_secondary_sampled hv
    trivial

/-- Two equal times, one that saturates the sums, and a score that is not a number. -/
theorem mergeAll_unique_of_sampled :
    let a := sampled 7 ⟨0x3ff0000000000000⟩
    let b := sampled 7 ⟨0x7ff8000000000001⟩
    let c := sampled 0xffffffffffffffff ⟨0x8000000000000000⟩
    [a, b, c].Pairwise Agree ∧ (∀ r ∈ [a, b, c], r.Ascending) ∧
    mergeAll [c, a, b] = mergeAll [a, b, c] ∧
    mergeAll [a, b, c] = some (c.merge (b.merge a)) := by
  intro a b c
  have agree : [a, b, c].Pairwise Agree := by simp [a, b, c, sampled_agree]
  have ascending : ∀ r ∈ [a, b, c], r.Ascending := by simp [a, b, c, sampled_ascending]
  have unique := mergeAll_unique agree ascending
  have rotated : ([a, b] ++ [c]).Perm ([c] ++ [a, b]) := List.perm_append_comm
  have reversed : [a, b, c].Perm [c, b, a] := (List.reverse_perm [a, b, c]).symm
  exact ⟨agree, ascending, unique.2.2.1 _ rotated,
    unique.2.2.2 (.pair (.one c) (.pair (.one b) (.one a))) reversed⟩

end Run

end Microbench
