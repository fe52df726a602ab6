import Microbench.Proofs.Resolution

/-!
What a plan consists of, read off the definitions and the options alone: patterns are valid or not and match a name
or not, and a benchmark that they select runs once in every concrete mode that is asked for
(`Registry.resolve_of_check`).
-/

namespace Microbench

open Std

namespace PatternEngine

variable [PatternEngine]

def invalid (text : String) : Bool := !(compile text).isOk

def Hits (text name : String) : Prop := ∃ test, compile text = .ok test ∧ test name

/-- The failure names the first of the texts that is no pattern, with what the engine says of it. -/
def Refuses (texts : List String) (f : Failure) : Prop :=
  ∃ bad reason, texts.find? invalid = some bad ∧ compile bad = .error reason ∧ f = .invalidPattern ⟨bad, reason⟩

theorem not_refuses {texts : List String} (valid : texts.find? invalid = none) (f : Failure) :
    ¬ Refuses texts f := by
  rintro ⟨bad, reason, first, -⟩
  rw [valid] at first
  contradiction

/-- Texts behind those that are refused make no difference, and only they do where nothing is refused before. -/
theorem refuses_append {texts later : List String} {f : Failure} :
    Refuses (texts ++ later) f ↔ Refuses texts f ∨ texts.find? invalid = none ∧ Refuses later f := by
  rw [Refuses, List.find?_append]
  cases first : texts.find? invalid with
  | none =>
    rw [or_iff_right (not_refuses first f)]
    simp [Refuses]
  | some bad => simp [Refuses, first]

theorem exists_refuses {texts : List String} {bad : String} (first : texts.find? invalid = some bad) :
    ∃ f, Refuses texts f := by
  cases compiled : compile bad with
  | error reason => exact ⟨_, bad, reason, first, compiled, rfl⟩
  | ok test =>
    have wrong := List.find?_some first
    simp [invalid, compiled, Except.isOk, Except.toBool] at wrong

theorem compileAll_eq_error_iff {texts : List String} {f : Failure} :
    compileAll texts = .error f ↔ Refuses texts f := by
  induction texts with
  | nil => simp [compileAll, Refuses]
  | cons text texts ih =>
    cases compiled : compile text with
    | error reason =>
      have wrong : invalid text = true := by simp [invalid, compiled, Except.isOk, Except.toBool]
      simp [compileAll, Refuses, compiled, wrong, eq_comm]
    | ok test =>
      have right : invalid text = false := by simp [invalid, compiled, Except.isOk, Except.toBool]
      have same : Refuses (text :: texts) f ↔ Refuses texts f := by simp [Refuses, right]
      rw [same, ← ih, compileAll, compiled]
      cases compileAll texts <;> simp [Except.map]

theorem exists_compileAll {texts : List String} (valid : texts.find? invalid = none) :
    ∃ tests, compileAll texts = .ok tests := by
  cases compiled : compileAll texts with
  | ok tests => exact ⟨tests, rfl⟩
  | error f => exact absurd (compileAll_eq_error_iff.1 compiled) (not_refuses valid f)

/-- Compiling that succeeds compiles one text after the other. -/
theorem map_compile_of_compileAll {texts : List String} {tests : List (String → Bool)}
    (compiled : compileAll texts = .ok tests) : texts.map compile = tests.map .ok := by
  induction texts generalizing tests with
  | nil =>
    obtain rfl := Except.ok.inj compiled
    rfl
  | cons text texts ih =>
    rw [compileAll] at compiled
    split at compiled
    · contradiction
    · rename_i test first
      cases rest : compileAll texts with
      | error f => simp [rest, Except.map] at compiled
      | ok tests =>
        simp only [rest, Except.map, Except.ok.injEq] at compiled
        simp [← compiled, first, ih rest]

theorem isEmpty_of_compileAll {texts : List String} {tests : List (String → Bool)}
    (compiled : compileAll texts = .ok tests) : tests.isEmpty = true ↔ texts = [] := by
  have lengths := congrArg List.length (map_compile_of_compileAll compiled)
  rw [List.length_map, List.length_map] at lengths
  rw [List.isEmpty_iff_length_eq_zero, ← List.length_eq_zero_iff, lengths]

theorem any_of_compileAll {texts : List String} {tests : List (String → Bool)}
    (compiled : compileAll texts = .ok tests) (name : String) :
    tests.any (· name) = true ↔ ∃ text ∈ texts, Hits text name := by
  have same := map_compile_of_compileAll compiled
  rw [List.any_eq_true]
  constructor
  · rintro ⟨test, mem, hit⟩
    obtain ⟨text, given, one⟩ := List.mem_map.1
      (same ▸ List.mem_map_of_mem mem : Except.ok test ∈ texts.map compile)
    exact ⟨text, given, test, one, hit⟩
  · rintro ⟨text, given, test, one, hit⟩
    obtain ⟨test', mem, is⟩ := List.mem_map.1 (same ▸ List.mem_map_of_mem given : compile text ∈ tests.map .ok)
    obtain rfl := Except.ok.inj (is.trans one)
    exact ⟨test', mem, hit⟩

end PatternEngine

namespace Descriptor

/-- Where there are threads, another mode changes nothing else. -/
theorem withMode_eq {d : Descriptor} (threads : d.threads ≠ 0) (mode : Mode) :
    d.withMode mode = { d with mode } := by
  simp [withMode, new, threads]

theorem mem_expand {d e : Descriptor} (threads : d.threads ≠ 0) :
    e ∈ d.expand ↔ e.name = d.name ∧ e.threads = d.threads ∧ e.mode ∈ d.mode.expand := by
  have modes : d.expand = d.mode.expand.map d.withMode := by
    unfold expand Mode.expand
    cases mode : d.mode <;> simp [withMode_eq threads, ← mode]
  rw [modes, List.mem_map]
  constructor
  · rintro ⟨mode, concrete, rfl⟩
    rw [withMode_eq threads]
    exact ⟨rfl, rfl, concrete⟩
  · rintro ⟨name, same, concrete⟩
    refine ⟨e.mode, concrete, ?_⟩
    rw [withMode_eq threads, ← name, ← same]

theorem mem_expandWithModes {d e : Descriptor} (threads : d.threads ≠ 0) {modes : List Mode} :
    e ∈ d.expandWithModes modes ↔ e.name = d.name ∧ e.threads = d.threads ∧
      ∃ mode ∈ if modes = [] then [d.mode] else modes, e.mode ∈ mode.expand := by
  cases modes with
  | nil => simp [expandWithModes, mem_expand threads]
  | cons mode modes =>
    have each (mode : Mode) : e ∈ (d.withMode mode).expand ↔
        e.name = d.name ∧ e.threads = d.threads ∧ e.mode ∈ mode.expand := by
      rw [withMode_eq threads]
      exact mem_expand threads
    simp only [expandWithModes, List.isEmpty_cons, Bool.false_eq_true, if_false, List.mem_flatMap, each, reduceCtorEq]
    constructor
    · rintro ⟨mode, asked, name, same, concrete⟩
      exact ⟨name, same, mode, asked, concrete⟩
    · rintro ⟨name, same, mode, asked, concrete⟩
      exact ⟨mode, asked, name, same, concrete⟩

end Descriptor

theorem Definition.threads_ne (b : Definition) : b.descriptor.threads ≠ 0 := by
  rw [Definition.descriptor, Descriptor.new]
  dsimp only
  split
  · exact (by decide : (1 : UInt32) ≠ 0)
  · assumption

/-- What the options ask of a benchmark that patterns select. -/
structure Options.Asks [PatternEngine] (o : Options) (includes : List String) (b : Definition)
    (d : Descriptor) : Prop where
  name : d.name = b.name
  included : includes = [] ∨ ∃ text ∈ includes, PatternEngine.Hits text b.name
  spared : ∀ text ∈ o.excludes, ¬ PatternEngine.Hits text b.name
  threads : d.threads = o.threads.getD b.descriptor.threads
  mode : ∃ mode ∈ if o.modes = [] then [b.mode] else o.modes, d.mode ∈ mode.expand

namespace Options.Asks

variable {o : Options} {includes : List String} {b : Definition} {d : Descriptor}

theorem concrete [PatternEngine] (asks : o.Asks includes b d) : d.mode ≠ .all := by
  obtain ⟨mode, -, expanded⟩ := asks.mode
  rintro all
  exact mode.all_notMem_expand (all ▸ expanded)

/-- Threads are never given as none, and a benchmark has one at least. -/
theorem threads_ne (b : Definition) (given : o.threads ≠ some 0) : o.threads.getD b.descriptor.threads ≠ 0 := by
  cases threads : o.threads with
  | none => exact b.threads_ne
  | some n => exact fun zero => given (threads.trans (congrArg some zero))

theorem one_le_threads [PatternEngine] (asks : o.Asks includes b d) (given : o.threads ≠ some 0) : 1 ≤ d.threads := by
  rw [asks.threads]
  exact UInt32.pos_iff_ne_zero.2 (threads_ne b given)

end Options.Asks

/-- What a plan holds, said of the definitions and the options alone. -/
structure Plan.Resolves [PatternEngine] (plan : Plan) (definitions : List Definition) (o : Options) : Prop where
  measured : ∀ d, d ∈ plan.measured ↔ ∃ b ∈ definitions, o.Asks o.includes b d
  warmupOnly : ∀ d, d ∈ plan.warmupOnly ↔
    (o.warmupIncludes ≠ [] ∧ ∃ b ∈ definitions, o.Asks o.warmupIncludes b d) ∧ ∀ e ∈ plan.measured, e.name ≠ d.name
  apart : ∀ d ∈ plan.measured, ∀ e ∈ plan.warmupOnly, d.name ≠ e.name
  runnable : ∀ d, d ∈ plan.measured ∨ d ∈ plan.warmupOnly → d.mode ≠ .all ∧ 1 ≤ d.threads

namespace Registry

def Holds (r : Registry) (b : Definition) : Prop := r.benchmarks[b.name]? = some b

theorem holds_register {r r' : Registry} {b c : Definition} (registered : r.register b = .ok r') :
    r'.Holds c ↔ r.Holds c ∨ c = b := by
  unfold Registry.register at registered
  split at registered
  · contradiction
  · rename_i fresh
    obtain rfl := Except.ok.inj registered
    rw [Holds, Holds, ExtTreeMap.getElem?_insert]
    split
    · rename_i same
      have same : b.name = c.name := LawfulEqOrd.compare_eq_iff_eq.1 same
      have absent : r.benchmarks[c.name]? = none := by
        rw [← same]
        exact ExtTreeMap.getElem?_eq_none (by simpa using fresh)
      simp [absent, eq_comm]
    · rename_i other
      have other : c ≠ b := by
        rintro rfl
        exact other (by simp)
      simp [other]

/-- What is registered one after another is held beside what was there. -/
theorem holds_foldlM {definitions : List Definition} {r r' : Registry}
    (registered : definitions.foldlM register r = .ok r') {b : Definition} :
    r'.Holds b ↔ r.Holds b ∨ b ∈ definitions := by
  induction definitions generalizing r with
  | nil =>
    obtain rfl := Except.ok.inj registered
    simp
  | cons c definitions ih =>
    obtain ⟨r₁, first, rest⟩ := Except.bind_eq_ok registered
    rw [ih rest, holds_register first, List.mem_cons, or_assoc]

theorem holds_ofList {definitions : List Definition} {r : Registry} (registered : ofList definitions = .ok r)
    {b : Definition} : r.Holds b ↔ b ∈ definitions := by
  have nothing : ¬ empty.Holds b := by simp [Holds, empty]
  rw [holds_foldlM registered, or_iff_right nothing]

theorem mem_values {r : Registry} (named : r.Named) {b : Definition} :
    b ∈ r.benchmarks.toList.map (·.2) ↔ r.Holds b := by
  constructor
  · intro listed
    obtain ⟨⟨name, b⟩, entry, rfl⟩ := List.mem_map.1 listed
    have stored := ExtTreeMap.mem_toList_iff_getElem?_eq_some.1 entry
    obtain rfl := named name b stored
    exact stored
  · intro held
    exact List.mem_map.2 ⟨(b.name, b), ExtTreeMap.mem_toList_iff_getElem?_eq_some.2 held, rfl⟩

theorem find_eq_error_iff [PatternEngine] {r : Registry} {includes excludes : List String} {f : Failure} :
    r.find includes excludes = .error f ↔ PatternEngine.Refuses (includes ++ excludes) f := by
  rw [PatternEngine.refuses_append, ← PatternEngine.compileAll_eq_error_iff]
  cases first : includes.find? PatternEngine.invalid with
  | some bad =>
    obtain ⟨g, refused⟩ := PatternEngine.exists_refuses first
    have fails := PatternEngine.compileAll_eq_error_iff.2 refused
    simp [find, fails, bind, Except.bind]
  | none =>
    obtain ⟨tests, compiled⟩ := PatternEngine.exists_compileAll first
    have second : r.find includes excludes = .error f ↔ PatternEngine.compileAll excludes = .error f := by
      cases excluded : PatternEngine.compileAll excludes <;>
        simp [find, compiled, excluded, bind, Except.bind, pure, Except.pure]
    rw [second, PatternEngine.compileAll_eq_error_iff, compiled]
    simp

theorem mem_find [PatternEngine] {r : Registry} (named : r.Named) {includes excludes : List String}
    {found : List Descriptor} (finds : r.find includes excludes = .ok found) {d : Descriptor} :
    d ∈ found ↔ ∃ b, r.Holds b ∧ ((includes = [] ∨ ∃ text ∈ includes, PatternEngine.Hits text b.name) ∧
      ∀ text ∈ excludes, ¬ PatternEngine.Hits text b.name) ∧ b.descriptor = d := by
  obtain ⟨includes', included, finds⟩ := Except.bind_eq_ok finds
  obtain ⟨excludes', excluded, finds⟩ := Except.bind_eq_ok finds
  obtain rfl := Except.ok.inj finds
  have selected (name : String) : selects includes' excludes' name = true ↔
      (includes = [] ∨ ∃ text ∈ includes, PatternEngine.Hits text name) ∧
        ∀ text ∈ excludes, ¬ PatternEngine.Hits text name := by
    rw [selects, Bool.and_eq_true, Bool.or_eq_true, PatternEngine.isEmpty_of_compileAll included,
      PatternEngine.any_of_compileAll included, Bool.not_eq_true', ← Bool.not_eq_true,
      PatternEngine.any_of_compileAll excluded]
    simp
  simp only [List.mem_map, List.mem_filter, selected, ← mem_values named, and_assoc]

theorem expand_descriptor (b : Definition) {o : Options} (threads : o.threads ≠ some 0) :
    expand o b.descriptor =
      (⟨b.name, b.mode, o.threads.getD b.descriptor.threads⟩ : Descriptor).expandWithModes o.modes := by
  cases given : o.threads with
  | none => simp [expand, given, Definition.descriptor, Descriptor.new]
  | some n =>
    have positive : n ≠ 0 := fun zero => threads (given.trans (congrArg some zero))
    simp [expand, given, Definition.descriptor, Descriptor.withThreads, Descriptor.new, positive]

theorem mem_expandAll [PatternEngine] {r : Registry} (named : r.Named) {o : Options} (threads : o.threads ≠ some 0)
    {includes : List String} {found : List Descriptor} (finds : r.find includes o.excludes = .ok found)
    {d : Descriptor} : d ∈ expandAll o found ↔ ∃ b, r.Holds b ∧ o.Asks includes b d := by
  have expands {b : Definition} : d ∈ expand o b.descriptor ↔ d.name = b.name ∧
      d.threads = o.threads.getD b.descriptor.threads ∧
        ∃ mode ∈ if o.modes = [] then [b.mode] else o.modes, d.mode ∈ mode.expand := by
    rw [expand_descriptor b threads]
    exact Descriptor.mem_expandWithModes (Options.Asks.threads_ne b threads)
  rw [expandAll, DescriptorSet.mem_ofList, List.mem_flatMap]
  simp only [mem_find named finds]
  constructor
  · rintro ⟨_, ⟨b, held, ⟨included, spared⟩, rfl⟩, asked⟩
    obtain ⟨name, threads, mode⟩ := expands.1 asked
    exact ⟨b, held, name, included, spared, threads, mode⟩
  · rintro ⟨b, held, asks⟩
    exact ⟨b.descriptor, ⟨b, held, ⟨asks.included, asks.spared⟩, rfl⟩, expands.2 ⟨asks.name, asks.threads, asks.mode⟩⟩

/-- Benchmarks of one name are one benchmark, so patterns that select it ask of it what other patterns do. -/
theorem asks_of_name_eq [PatternEngine] {r : Registry} {o : Options} {includes others : List String} {b c : Definition}
    {d e : Descriptor} (held : r.Holds b) (held' : r.Holds c) (asks : o.Asks includes b d)
    (selected : o.Asks others c e) (same : e.name = d.name) : o.Asks others b d := by
  have name : c.name = b.name := by rw [← selected.name, same, asks.name]
  obtain rfl : c = b := by
    rw [Holds, name, held] at held'
    exact (Option.some.inj held').symm
  exact { asks with included := selected.included }

theorem exists_find [PatternEngine] {r : Registry} {includes excludes : List String}
    (valid : (includes ++ excludes).find? PatternEngine.invalid = none) :
    ∃ found, r.find includes excludes = .ok found := by
  cases finds : r.find includes excludes with
  | ok found => exact ⟨found, rfl⟩
  | error f => exact absurd (find_eq_error_iff.1 finds) (PatternEngine.not_refuses valid f)

theorem resolve_eq_error_iff [PatternEngine] {r : Registry} {o : Options} {f : Failure} :
    r.resolve o = .error f ↔ PatternEngine.Refuses (o.includes ++ o.excludes ++ o.warmupIncludes) f := by
  rw [PatternEngine.refuses_append, ← find_eq_error_iff (r := r)]
  cases first : (o.includes ++ o.excludes).find? PatternEngine.invalid with
  | some bad =>
    obtain ⟨g, refused⟩ := PatternEngine.exists_refuses first
    have fails : r.find o.includes o.excludes = .error g := find_eq_error_iff.2 refused
    simp [resolve, fails, bind, Except.bind]
  | none =>
    obtain ⟨found, finds⟩ := exists_find (r := r) first
    -- Among the patterns for the warmup, the excludes come a second time.
    have again : PatternEngine.Refuses o.warmupIncludes f ↔ r.find o.warmupIncludes o.excludes = .error f := by
      rw [List.find?_append, Option.or_eq_none_iff] at first
      rw [find_eq_error_iff, PatternEngine.refuses_append,
        or_iff_left fun refused => PatternEngine.not_refuses first.2 f refused.2]
    rw [finds, again]
    cases warmups : r.find o.warmupIncludes o.excludes with
    | error g =>
      have asked : o.warmupIncludes ≠ [] := by
        intro unasked
        obtain ⟨bad, reason, second, -⟩ := find_eq_error_iff.1 warmups
        rw [List.find?_append, Option.or_eq_none_iff] at first
        rw [unasked, List.nil_append, first.2] at second
        contradiction
      simp [resolve, finds, warmups, asked, bind, Except.bind]
    | ok warmups' =>
      simp only [resolve, finds, warmups, bind, Except.bind]
      split <;> simp [pure, Except.pure]

theorem mem_measured [PatternEngine] {r : Registry} (named : r.Named) {o : Options} (threads : o.threads ≠ some 0)
    {plan : Plan} (resolved : r.resolve o = .ok plan) {d : Descriptor} :
    d ∈ plan.measured ↔ ∃ b, r.Holds b ∧ o.Asks o.includes b d := by
  obtain ⟨found, finds, resolved⟩ := Except.bind_eq_ok resolved
  rw [← mem_expandAll named threads finds]
  simp only at resolved
  split at resolved
  · obtain rfl := Except.ok.inj resolved
    rfl
  · obtain ⟨warmups, -, resolved⟩ := Except.bind_eq_ok resolved
    obtain rfl := Except.ok.inj resolved
    rfl

theorem mem_warmupOnly [PatternEngine] {r : Registry} (named : r.Named) {o : Options} (threads : o.threads ≠ some 0)
    {plan : Plan} (resolved : r.resolve o = .ok plan) {d : Descriptor} :
    d ∈ plan.warmupOnly ↔
      (o.warmupIncludes ≠ [] ∧ ∃ b, r.Holds b ∧ o.Asks o.warmupIncludes b d) ∧ d ∉ plan.measured := by
  obtain ⟨found, finds, resolved⟩ := Except.bind_eq_ok resolved
  simp only at resolved
  split at resolved
  · rename_i unasked
    obtain rfl := Except.ok.inj resolved
    simp [List.isEmpty_iff.1 unasked]
  · rename_i asked
    obtain ⟨warmups, finds', resolved⟩ := Except.bind_eq_ok resolved
    obtain rfl := Except.ok.inj resolved
    rw [← mem_expandAll named threads finds']
    have asked : o.warmupIncludes ≠ [] := by simpa using asked
    simp only [ExtTreeMap.mem_filter, ExtTreeMap.getKey_eq, Bool.not_eq_true', ← Bool.not_eq_true,
      ExtTreeMap.contains_iff_mem, exists_prop, asked, ne_eq, not_false_eq_true, true_and]

theorem resolves_of_resolve [PatternEngine] {definitions : List Definition} {r : Registry} {o : Options}
    (registered : ofList definitions = .ok r) (threads : o.threads ≠ some 0) {plan : Plan}
    (resolved : r.resolve o = .ok plan) : plan.Resolves definitions o := by
  have named := named_ofList registered
  have measured (d : Descriptor) := mem_measured named threads resolved (d := d)
  have warmupOnly (d : Descriptor) : d ∈ plan.warmupOnly ↔
      (o.warmupIncludes ≠ [] ∧ ∃ b, r.Holds b ∧ o.Asks o.warmupIncludes b d) ∧
        ∀ e ∈ plan.measured, e.name ≠ d.name := by
    rw [mem_warmupOnly named threads resolved]
    refine and_congr_right fun ⟨_, b, held, asks⟩ => ⟨fun apart e planned same => ?_, fun apart planned =>
      apart d planned rfl⟩
    obtain ⟨c, held', selected⟩ := (measured e).1 planned
    exact apart ((measured d).2 ⟨b, held, asks_of_name_eq held held' asks selected same⟩)
  refine
    { measured := by simpa only [holds_ofList registered] using measured
      warmupOnly := by simpa only [holds_ofList registered] using warmupOnly
      apart := fun d planned e warmed => ((warmupOnly e).1 warmed).2 d planned
      runnable := fun d planned => ?_ }
  obtain ⟨b, includes, asks⟩ : ∃ b includes, o.Asks includes b d := by
    rcases planned with planned | warmed
    · obtain ⟨b, -, asks⟩ := (measured d).1 planned
      exact ⟨b, _, asks⟩
    · obtain ⟨⟨-, b, -, asks⟩, -⟩ := (warmupOnly d).1 warmed
      exact ⟨b, _, asks⟩
  exact ⟨asks.concrete, asks.one_le_threads threads⟩

/-- Whatever engine compiles the patterns, resolving fails with the first text that it refuses; if there is none, the
plan holds exactly the descriptors that are asked for. -/
theorem resolve_of_check [PatternEngine] {definitions : List Definition} {r : Registry} {given o : Options}
    (registered : ofList definitions = .ok r) (checked : given.check = .ok o) :
    (∀ f, r.resolve o = .error f ↔
      ∃ bad reason, (o.includes ++ o.excludes ++ o.warmupIncludes).find? PatternEngine.invalid = some bad ∧
        PatternEngine.compile bad = .error reason ∧ f = .invalidPattern ⟨bad, reason⟩) ∧
    ((o.includes ++ o.excludes ++ o.warmupIncludes).find? PatternEngine.invalid = none →
      ∃ plan, r.resolve o = .ok plan ∧ plan.Resolves definitions o) := by
  refine ⟨fun _ => resolve_eq_error_iff, fun valid => ?_⟩
  cases resolved : r.resolve o with
  | error f => exact absurd (resolve_eq_error_iff.1 resolved) (PatternEngine.not_refuses valid f)
  | ok plan =>
    obtain ⟨rfl, runnable⟩ := Options.check_eq_ok_iff.1 checked
    exact ⟨plan, rfl, resolves_of_resolve registered runnable.threads resolved⟩

def trio : List Definition := [
  { name := "big", workload := fun _ => .done },
  { name := "small", workload := fun _ => .done },
  { name := "forked", mode := .averageTime, forks := some 3, workload := fun _ => .done }]

def everyMode : Options :=
  { includes := ["big|small"], warmupIncludes := ["forked|big"], modes := [.all], threads := some 4 }

attribute [local instance] PatternEngine.plain

/-- Two benchmarks are measured in four modes each and the third is only warmed up in them; where an exclude is no
pattern, it is named. -/
theorem resolve_of_check_of_trio : ∃ r, ofList trio = .ok r ∧
    (∃ plan, everyMode.check = .ok everyMode ∧ r.resolve everyMode = .ok plan ∧ plan.Resolves trio everyMode ∧
      plan.measured.size = 8 ∧ plan.warmupOnly.size = 4) ∧
    ∃ o, o.check = .ok o ∧ o.excludes = ["s", "("] ∧
      r.resolve o = .error (.invalidPattern ⟨"(", "not a plain text"⟩) := by
  obtain ⟨r, registered, sizes⟩ : ∃ r, ofList trio = .ok r ∧
      (r.resolve everyMode).toOption.map (fun plan => (plan.measured.size, plan.warmupOnly.size)) = some (8, 4) :=
    ⟨_, rfl, by decide +kernel⟩
  have checked : everyMode.check = .ok everyMode := rfl
  let broken : Options := { everyMode with excludes := ["s", "("] }
  have checked' : broken.check = .ok broken := rfl
  refine ⟨r, registered, ?_, broken, checked', rfl, ?_⟩
  · obtain ⟨plan, resolved, resolves⟩ := (resolve_of_check registered checked).2 (by decide +kernel)
    rw [resolved] at sizes
    obtain ⟨measured, warmupOnly⟩ := Prod.mk.inj (Option.some.inj sizes)
    exact ⟨plan, checked, resolved, resolves, measured, warmupOnly⟩
  · exact ((resolve_of_check registered checked').1 _).2 ⟨"(", _, by decide +kernel, rfl, rfl⟩

end Registry

end Microbench
