import Microbench.Proofs.Attempts

/-!
What a plan holds, and what it is run in. Everything that the options select is a benchmark of the
registry, so its parameters are known; the plan is then run in cycles and forks that are known
beforehand (`Harness.runPlan_eq`).
-/

namespace Microbench

open Std

theorem DescriptorSet.mem_ofList {d : Descriptor} {ds : List Descriptor} :
    d ∈ DescriptorSet.ofList ds ↔ d ∈ ds := by
  simp [DescriptorSet.ofList, ExtTreeMap.mem_ofList, Function.comp_def]

namespace Descriptor

theorem name_of_mem_expand {d e : Descriptor} (h : e ∈ d.expand) : e.name = d.name := by
  unfold expand at h
  split at h
  · obtain ⟨mode, -, rfl⟩ := List.mem_map.1 h
    rfl
  · rw [List.mem_singleton.1 h]

theorem name_of_mem_expandWithModes {d e : Descriptor} {modes : List Mode}
    (h : e ∈ d.expandWithModes modes) : e.name = d.name := by
  unfold expandWithModes at h
  split at h
  · exact name_of_mem_expand h
  · obtain ⟨mode, -, h⟩ := List.mem_flatMap.1 h
    rw [name_of_mem_expand h]
    rfl

end Descriptor

namespace Registry

/-- Benchmarks stand under their own names. -/
def Named (r : Registry) : Prop :=
  ∀ (name : String) (d : Definition), r.benchmarks[name]? = some d → d.name = name

theorem named_empty : empty.Named := by
  intro name d h
  simp [empty] at h

theorem Named.register {r r' : Registry} {d : Definition} (named : r.Named)
    (registered : r.register d = .ok r') : r'.Named := by
  unfold Registry.register at registered
  split at registered
  · contradiction
  · obtain rfl := Except.ok.inj registered
    intro name e h
    rw [ExtTreeMap.getElem?_insert] at h
    split at h
    · rename_i same
      obtain rfl := Option.some.inj h
      exact LawfulEqOrd.compare_eq_iff_eq.1 same
    · exact named name e h

theorem Named.foldlM {definitions : List Definition} {r r' : Registry} (named : r.Named)
    (registered : definitions.foldlM Registry.register r = .ok r') : r'.Named := by
  induction definitions generalizing r with
  | nil =>
    obtain rfl := Except.ok.inj registered
    exact named
  | cons d definitions ih =>
    obtain ⟨r₁, first, rest⟩ := Except.bind_eq_ok registered
    exact ih (named.register first) rest

/-- Whatever is registered one after another stands under its name. -/
theorem named_ofList {definitions : List Definition} {r : Registry}
    (registered : ofList definitions = .ok r) : r.Named := named_empty.foldlM registered

def Knows (r : Registry) (d : Descriptor) : Prop := ∃ definition, r.get d.name = .ok definition

theorem knows_of_find [PatternEngine] {r : Registry} (named : r.Named) {includes excludes : List String}
    {found : List Descriptor} (h : r.find includes excludes = .ok found) : ∀ d ∈ found, r.Knows d := by
  obtain ⟨includes, -, h⟩ := Except.bind_eq_ok h
  obtain ⟨excludes, -, h⟩ := Except.bind_eq_ok h
  obtain rfl := Except.ok.inj h
  intro d hd
  obtain ⟨definition, selected, rfl⟩ := List.mem_map.1 hd
  obtain ⟨⟨name, definition⟩, listed, rfl⟩ := List.mem_map.1 (List.mem_filter.1 selected).1
  have stored := ExtTreeMap.mem_toList_iff_getElem?_eq_some.1 listed
  refine ⟨definition, ?_⟩
  have own : definition.descriptor.name = name := named name definition stored
  rw [get, own, stored]

theorem knows_of_expandAll {r : Registry} {o : Options} {found : List Descriptor}
    (known : ∀ d ∈ found, r.Knows d) {d : Descriptor} (h : d ∈ expandAll o found) : r.Knows d := by
  obtain ⟨e, he, hd⟩ := List.mem_flatMap.1 (DescriptorSet.mem_ofList.1 h)
  have same : d.name = e.name := by
    rw [expand] at hd
    rw [Descriptor.name_of_mem_expandWithModes hd]
    split <;> rfl
  obtain ⟨definition, found⟩ := known e he
  exact ⟨definition, by rw [same, found]⟩

/-- What a plan holds is known, and nothing is both measured and only warmed up. -/
theorem knows_of_resolve [PatternEngine] {r : Registry} (named : r.Named) {o : Options} {plan : Plan}
    (resolved : r.resolve o = .ok plan) :
    (∀ d, d ∈ plan.measured ∨ d ∈ plan.warmupOnly → r.Knows d) ∧
      ∀ d ∈ plan.warmupOnly, d ∉ plan.measured := by
  obtain ⟨found, finds, resolved⟩ := Except.bind_eq_ok resolved
  have known := knows_of_find named finds
  simp only at resolved
  split at resolved
  · obtain rfl := Except.ok.inj resolved
    refine ⟨fun d planned => ?_, fun d warmed => ?_⟩
    · rcases planned with measured | warmed
      · exact knows_of_expandAll known measured
      · exact absurd warmed ExtTreeMap.not_mem_empty
    · exact absurd warmed ExtTreeMap.not_mem_empty
  · obtain ⟨warmups, finds', resolved⟩ := Except.bind_eq_ok resolved
    obtain rfl := Except.ok.inj resolved
    refine ⟨fun d planned => ?_, fun d warmed => ?_⟩
    · rcases planned with measured | warmed
      · exact knows_of_expandAll known measured
      · exact knows_of_expandAll (knows_of_find named finds') (ExtTreeMap.mem_of_mem_filter warmed)
    · obtain ⟨_, apart⟩ := ExtTreeMap.mem_filter.1 warmed
      rw [← ExtTreeMap.contains_iff_mem, Bool.not_eq_true]
      simpa only [ExtTreeMap.getKey_eq, Bool.not_eq_true'] using apart

theorem paramsFor_of_knows {r : Registry} {d : Descriptor} (known : r.Knows d) (o : Options) :
    ∃ p, r.paramsFor d o = .ok p ∧ p.warmup = o.warmup ∧ p.measurement = o.measurement := by
  obtain ⟨definition, found⟩ := known
  unfold paramsFor
  rw [found]
  exact ⟨_, rfl, rfl, rfl⟩

/-- The iterations are those of the options. -/
theorem iterations_of_paramsFor {r : Registry} {d : Descriptor} {o : Options} {p : Params}
    (params : r.paramsFor d o = .ok p) : p.warmup = o.warmup ∧ p.measurement = o.measurement := by
  obtain ⟨definition, -, made⟩ := Except.bind_eq_ok params
  obtain rfl := Except.ok.inj made
  exact ⟨rfl, rfl⟩

end Registry

end Microbench
