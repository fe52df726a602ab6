import Microbench.Proofs.Resolution

/-!
The schedule of a plan. All that is run for a plan is known beforehand: cycles in this process, first those
that only warm up, and then forks. Running the plan is to go through these trials in order, up to the first
that fails the run (`Harness.runPlan_eq`, `Harness.trials_goes`).
-/

namespace Microbench

open Std

variable {σ α : Type}

theorem Act.counted_eq (f : Nat → Act σ Unit) (first n : Nat) :
    Act.counted f first n = (List.range' first n).forM f := by
  induction n generalizing first with
  | zero => rfl
  | succ n ih =>
    rw [Act.counted, ih]
    rfl

namespace Act

theorem forM_append (f : α → Act σ Unit) (xs ys : List α) :
    (xs ++ ys).forM f = xs.forM f >>= fun _ => ys.forM f := List.forM_append ..

theorem forM_map {β : Type} (f : β → Act σ Unit) (g : α → β) (xs : List α) :
    (xs.map g).forM f = xs.forM fun x => f (g x) := by
  induction xs with
  | nil => rfl
  | cons x xs ih => exact bind_congr fun _ => ih

theorem forM_congr {f g : α → Act σ Unit} {xs : List α} (h : ∀ x ∈ xs, f x = g x) :
    xs.forM f = xs.forM g := by
  induction xs with
  | nil => rfl
  | cons x xs ih =>
    change (f x >>= fun _ => xs.forM f) = g x >>= fun _ => xs.forM g
    rw [h x List.mem_cons_self, ih fun y hy => h y (List.mem_cons_of_mem x hy)]

theorem forM_flatMap {β : Type} (f : β → Act σ Unit) (g : α → List β) (xs : List α) :
    (xs.flatMap g).forM f = xs.forM fun x => (g x).forM f := by
  induction xs with
  | nil => rfl
  | cons x xs ih =>
    rw [List.flatMap_cons, forM_append, ih]
    rfl

end Act

theorem Except.mapM_eq_ok {ε β : Type} {f : α → Except ε β} {g : α → β} {xs : List α}
    (h : ∀ x ∈ xs, f x = .ok (g x)) : xs.mapM f = .ok (xs.map g) := by
  induction xs with
  | nil => rfl
  | cons x xs ih =>
    rw [List.mapM_cons, h x List.mem_cons_self, ih fun y hy => h y (List.mem_cons_of_mem x hy)]
    rfl

def Fork.list (d : Descriptor) (p : Params) : List Fork :=
  (List.range' 1 p.warmupForks.toNat).map (⟨d, p, true, ·⟩) ++
    (List.range' 1 p.forks.toNat).map (⟨d, p, false, ·⟩)

theorem Fork.of_mem_list {d : Descriptor} {p : Params} {f : Fork} (h : f ∈ Fork.list d p) :
    f.descriptor = d ∧ f.params = p := by
  rcases List.mem_append.1 h with h | h
  all_goals
    obtain ⟨i, -, rfl⟩ := List.mem_map.1 h
    exact ⟨rfl, rfl⟩

/-- What a plan is made of: cycles in this process, and forks with the number of forks before them. -/
inductive Trial where
  | cycle (descriptor : Descriptor) (params : Params)
  | fork (fork : Fork) (number : Nat)

namespace Trial

def ofCycle (cycle : Descriptor × Params) : Trial := .cycle cycle.1 cycle.2

def ofFork (numbered : Fork × Nat) : Trial := .fork numbered.1 numbered.2

def number? : Trial → Option Nat
  | cycle .. => none
  | fork _ n => some n

end Trial

def launchesIn (past : List Action) : Nat := (past.filterMap Action.launched?).length

theorem launchesIn_append (past actions : List Action) :
    launchesIn (past ++ actions) = launchesIn past + launchesIn actions := by
  simp [launchesIn]

theorem World.launches_eq (w : World σ) : w.launches = launchesIn w.trace.toList := by
  rw [World.launches, launchesIn, List.length_filterMap_eq_countP]
  refine congrArg (List.countP · w.trace.toList) (funext fun a => ?_)
  cases a <;> rfl

theorem World.Continued.launches {w w' : World σ} {actions : List Action} (continued : w.Continued actions w') :
    w'.launches = w.launches + launchesIn actions := by
  rw [World.launches_eq, World.launches_eq, continued.trace, launchesIn_append]

theorem World.Has.launches_eq {w : World σ} {past : List Action} (has : w.Has past) :
    w.launches = launchesIn past := by rw [World.launches_eq, has.trace_eq]

namespace Harness

variable (h : Harness σ) (plan : Plan)

/-- What a descriptor runs with. -/
def paramsOf (d : Descriptor) : Params := (h.registry.paramsFor d h.options).toOption.getD default

def bulk : List (Descriptor × Params) :=
  (h.warmupSet plan).keys.map fun d => (d, (h.paramsOf d).warmupOnly)

def embedded : List (Descriptor × Params) :=
  (plan.measured.keys.filter fun d => (h.paramsOf d).forks = 0).map fun d =>
    (d, h.embeddedParams (h.paramsOf d))

def cycles : List (Descriptor × Params) := h.bulk plan ++ h.embedded plan

/-- What runs in workers. -/
def forked : List Descriptor := plan.measured.keys.filter fun d => (h.paramsOf d).forks ≠ 0

def forks : List Fork := (h.forked plan).flatMap fun d => Fork.list d (h.paramsOf d)

def trials : List Trial := (h.cycles plan).map .ofCycle ++ (h.forks plan).zipIdx.map .ofFork

def Knows : Prop := ∀ d, d ∈ plan.measured ∨ d ∈ plan.warmupOnly →
  h.registry.paramsFor d h.options = .ok (h.paramsOf d)

def Listens (port : UInt16) : Prop := h.forked plan ≠ [] → h.listen = .ok port

theorem paramsOf_of_resolve [PatternEngine] {plan : Plan} (named : h.registry.Named)
    (resolved : h.registry.resolve h.options = .ok plan) : h.Knows plan ∧
      ∀ d, d ∈ plan.measured ∨ d ∈ plan.warmupOnly →
        (h.paramsOf d).warmup = h.options.warmup ∧ (h.paramsOf d).measurement = h.options.measurement := by
  have each {d : Descriptor} (planned : d ∈ plan.measured ∨ d ∈ plan.warmupOnly) :
      ∃ p, h.registry.paramsFor d h.options = .ok p ∧ h.paramsOf d = p ∧
        p.warmup = h.options.warmup ∧ p.measurement = h.options.measurement := by
    have known := (Registry.knows_of_resolve named resolved).1 d planned
    obtain ⟨p, found, counts⟩ := Registry.paramsFor_of_knows known h.options
    refine ⟨p, found, ?_, counts⟩
    rw [paramsOf, found]
    rfl
  constructor
  · intro d planned
    obtain ⟨p, found, rfl, -⟩ := each planned
    exact found
  · intro d planned
    obtain ⟨p, -, rfl, counts⟩ := each planned
    exact counts

/-- What is measured with parameters of some kind. -/
theorem Knows.mem_filter {h : Harness σ} {plan : Plan} (knows : h.Knows plan) (kind : Params → Prop)
    [DecidablePred kind] {d : Descriptor} :
    d ∈ plan.measured.keys.filter (fun d => kind (h.paramsOf d)) ↔
      d ∈ plan.measured ∧ ∃ p, h.registry.paramsFor d h.options = .ok p ∧ kind p := by
  rw [List.mem_filter, ExtTreeMap.mem_keys, decide_eq_true_eq]
  refine and_congr_right fun measured => ⟨fun known => ⟨_, knows d (.inl measured), known⟩, ?_⟩
  rintro ⟨p, found, own⟩
  obtain rfl := Except.ok.inj (found.symm.trans (knows d (.inl measured)))
  exact own

section Split

variable {h plan}

theorem mem_warmupSet {d : Descriptor} : d ∈ h.warmupSet plan ↔
    d ∈ plan.warmupOnly ∨ (h.options.warmupMode.isBulk = true ∧ d ∈ plan.measured) := by
  unfold warmupSet
  split
  · rename_i bulk
    simp [DescriptorSet.mem_ofList, bulk]
  · rename_i apart
    simp [apart]

theorem split_eq (knows : h.Knows plan) : h.split plan = .ok
    ((plan.measured.keys.filter fun d => (h.paramsOf d).forks = 0).map fun d => (d, h.paramsOf d),
      (h.forked plan).map fun d => (d, h.paramsOf d)) := by
  have all : plan.measured.keys.mapM (fun d => do return (d, ← h.registry.paramsFor d h.options)) =
      .ok (plan.measured.keys.map fun d => (d, h.paramsOf d)) := by
    apply Except.mapM_eq_ok
    intro d hd
    rw [knows d (.inl (ExtTreeMap.mem_keys.1 hd))]
    rfl
  unfold split
  rw [all]
  refine congrArg Except.ok ?_
  rw [List.partition_eq_filter_filter, List.filter_map, List.filter_map, forked]
  simp [Function.comp_def]

theorem bulkWarmup_eq (knows : h.Knows plan) : ∃ entries : List Log.Entry,
    h.bulkWarmup plan = (entries.forM fun e => Act.note (.logged e)) >>= fun _ =>
      (h.bulk plan).forM fun (d, p) => h.runEmbedded d p := by
  have warm : (h.warmupSet plan).keys.forM h.warmUp =
      (h.bulk plan).forM fun (d, p) => h.runEmbedded d p := by
    rw [bulk, Act.forM_map]
    refine Act.forM_congr fun d hd => ?_
    have planned := mem_warmupSet.1 (ExtTreeMap.mem_keys.1 hd)
    rw [warmUp, knows d (planned.symm.imp_left And.right)]
    rfl
  unfold bulkWarmup
  simp only
  split
  · rw [warm]
    exact ⟨[_], rfl⟩
  · rename_i nothing
    -- Without a bulk warmup and with nothing to be only warmed up, the set is empty.
    have empty : (h.warmupSet plan).keys = [] := by
      apply List.eq_nil_iff_forall_not_mem.2
      intro d hd
      have := mem_warmupSet.1 (ExtTreeMap.mem_keys.1 hd)
      simp only [Bool.or_eq_true, Bool.not_eq_true', not_or, Bool.not_eq_false] at nothing
      rcases this with warmed | ⟨bulk, -⟩
      · rw [ExtTreeMap.isEmpty_iff.1 nothing.2] at warmed
        exact ExtTreeMap.not_mem_empty warmed
      · exact nothing.1 bulk
    refine ⟨[], ?_⟩
    rw [bulk, empty]
    rfl

end Split

def perform (port : UInt16) : Trial → Act σ Unit
  | .cycle d p => h.runEmbedded d p
  | .fork f _ => h.attempt port f

theorem runForked_eq (port : UInt16) (d : Descriptor) (p : Params) :
    h.runForked port d p = (Fork.list d p).forM (h.attempt port) := by
  rw [runForked, Act.counted_eq, Act.counted_eq, Fork.list, Act.forM_append, Act.forM_map, Act.forM_map]
  rfl

theorem forks_forM (port : UInt16) :
    ((h.forked plan).map fun d => (d, h.paramsOf d)).forM (fun (d, p) => h.runForked port d p) =
      (h.forks plan).forM (h.attempt port) := by
  rw [forks, Act.forM_map, Act.forM_flatMap]
  exact Act.forM_congr fun d _ => h.runForked_eq port d (h.paramsOf d)

theorem embedded_forM : ((plan.measured.keys.filter fun d => (h.paramsOf d).forks = 0).map
    fun d => (d, h.paramsOf d)).forM (fun (d, p) => h.runEmbedded d (h.embeddedParams p)) =
      (h.embedded plan).forM fun (d, p) => h.runEmbedded d p := by
  rw [embedded, Act.forM_map, Act.forM_map]

theorem trials_forM (port : UInt16) : (h.trials plan).forM (h.perform port) =
    ((h.bulk plan).forM fun (d, p) => h.runEmbedded d p) >>= fun _ =>
      ((h.embedded plan).forM fun (d, p) => h.runEmbedded d p) >>= fun _ =>
        (h.forks plan).forM (h.attempt port) := by
  have forks : ((h.forks plan).zipIdx.map Trial.ofFork).forM (h.perform port) =
      (h.forks plan).forM (h.attempt port) := by
    have all : ((h.forks plan).zipIdx.map Prod.fst).forM (h.attempt port) =
        (h.forks plan).forM (h.attempt port) := by rw [List.zipIdx_map_fst]
    rw [← all, Act.forM_map, Act.forM_map]
    rfl
  rw [trials, Act.forM_append, forks, Act.forM_map, cycles, Act.forM_append, bind_assoc]
  rfl

theorem runPlan_settled (knows : h.Knows plan) {entries : List Log.Entry}
    (warm : h.bulkWarmup plan = (entries.forM fun e => Act.note (.logged e)) >>= fun _ =>
      (h.bulk plan).forM fun (d, p) => h.runEmbedded d p) :
    h.runPlan plan = h.openPort ((h.forked plan).map fun d => (d, h.paramsOf d)) >>=
      fun port => (entries.forM fun e => Act.note (.logged e)) >>= fun _ =>
        ((h.bulk plan).forM fun (d, p) => h.runEmbedded d p) >>= fun _ =>
          ((h.embedded plan).forM fun (d, p) => h.runEmbedded d p) >>= fun _ =>
            match port with
            | some port => (h.forks plan).forM (h.attempt port)
            | none => pure () := by
  rw [runPlan, split_eq knows, Script.settle_bind, warm, ← embedded_forM]
  refine bind_congr fun port => (bind_assoc ..).trans ?_
  refine bind_congr fun _ => bind_congr fun _ => bind_congr fun _ => ?_
  cases port with
  | none => rfl
  | some port => exact h.forks_forM plan port

/-- Where workers can connect, the trials of the plan are gone through, behind what is logged of the start. -/
theorem runPlan_eq (knows : h.Knows plan) {port : UInt16} (listens : h.Listens plan port) :
    ∃ entries : List Log.Entry, h.runPlan plan =
      (entries.forM fun e => Act.note (.logged e)) >>= fun _ => (h.trials plan).forM (h.perform port) := by
  obtain ⟨entries, warm⟩ := bulkWarmup_eq knows
  rw [runPlan_settled h plan knows warm, trials_forM]
  by_cases alone : h.forked plan = []
  · have nothing : h.forks plan = [] := by rw [forks, alone]; rfl
    rw [alone, nothing]
    exact ⟨entries, rfl⟩
  · have some : ((h.forked plan).map fun d => (d, h.paramsOf d)).isEmpty = false := by simp [alone]
    rw [openPort, some, listens alone]
    exact ⟨⟨.info, s!"Link server listening on {Link.host}:{port}", none⟩ :: entries, rfl⟩

/-- The plan fails at once if workers are to connect and cannot. -/
theorem runPlan_deaf (knows : h.Knows plan) {reason : String} (closed : h.listen = .error reason)
    (workers : h.forked plan ≠ []) : h.runPlan plan = throw (.link (.io reason)) := by
  obtain ⟨entries, warm⟩ := bulkWarmup_eq knows
  have some : ((h.forked plan).map fun d => (d, h.paramsOf d)).isEmpty = false := by simp [workers]
  rw [runPlan_settled h plan knows warm, openPort, some, closed]
  rfl

/-- What a trial does behind what was done before it, where `within` says it of cycles. -/
def Step (within : Descriptor → Params → Except Failure Unit → List Action → Prop) (port : UInt16) :
    Trial → List Action → Except Failure Unit → List Action → Prop
  | .cycle d p, _, outcome, actions => within d p outcome actions
  | .fork f n, past, outcome, actions => h.Attempted port f n past outcome actions

/-- What a cycle in this process comes to with a plain sink. -/
def Cycled (d : Descriptor) (p : Params) (outcome : Except Failure Unit) (actions : List Action) : Prop :=
  outcome = h.verdict (h.cycle d p).failure? ∧ actions = h.cycleActions d p

theorem Cycled.launchless {h : Harness σ} {d : Descriptor} {p : Params} {outcome : Except Failure Unit}
    {actions : List Action} (cycled : h.Cycled d p outcome actions) : launchesIn actions = 0 := by
  rw [cycled.2, launchesIn, List.filterMap_eq_nil_iff.2 (h.launched_cycleActions d p)]
  rfl

/-- The forks among the trials are numbered on from those that were tried. -/
def Numbered (trials : List Trial) (past : List Action) : Prop :=
  ∃ m, trials.filterMap Trial.number? = List.range' (launchesIn past) m

theorem numbered_trials {past : List Action} (none : launchesIn past = 0) :
    Numbered (h.trials plan) past := by
  have cycles : ((h.cycles plan).map Trial.ofCycle).filterMap Trial.number? = [] := by
    simp [List.filterMap_map, Function.comp_def, Trial.ofCycle, Trial.number?]
  have forks : ((h.forks plan).zipIdx.map Trial.ofFork).filterMap Trial.number? =
      (h.forks plan).zipIdx.map Prod.snd := by
    simp [List.filterMap_map, Function.comp_def, Trial.ofFork, Trial.number?]
  refine ⟨(h.forks plan).length, ?_⟩
  rw [trials, List.filterMap_append, cycles, forks, List.zipIdx_map_snd, none, List.nil_append]

section Launches

variable {h} {port : UInt16} {f : Fork} {n : Nat} {past actions : List Action}
  {outcome : Except Failure Unit}

/-- In an attempt one worker is started, and everything else is what serves it or is noted of it. -/
theorem Attempted.tail (attempted : h.Attempted port f n past outcome actions) :
    ∃ tail, actions = f.opening port ++ tail ∧ ∀ a ∈ tail, a.IsServed ∨ a.IsOuter := by
  cases attempted with
  | done serves _ =>
    refine ⟨_, rfl, fun a ha => ?_⟩
    rcases List.mem_append.1 ha with own | ha
    · exact .inl (serves.quiet a own)
    rcases List.mem_append.1 ha with notice | silence
    · exact .inr (isOuter_of_mem_notices a notice)
    · split at silence
      · simp only [Fork.silence, List.mem_cons, List.not_mem_nil, or_false] at silence
        rcases silence with rfl | rfl <;> exact .inr ⟨rfl, rfl, rfl⟩
      · contradiction
  | stopped serves _ _ =>
    refine ⟨_, rfl, fun a ha => ?_⟩
    rcases List.mem_append.1 ha with own | notice
    · exact .inl (serves.quiet a own)
    · exact .inr (Failure.isOuter_of_mem_notice a notice)

theorem Attempted.launched (attempted : h.Attempted port f n past outcome actions) :
    actions.filterMap Action.launched? = [f.args port] := by
  obtain ⟨tail, rfl, quiet⟩ := attempted.tail
  have none : tail.filterMap Action.launched? = [] :=
    List.filterMap_eq_nil_iff.2 fun a ha => (quiet a ha).elim (·.launched?) (·.2.1)
  rw [List.filterMap_append, none]
  rfl

theorem Attempted.rounds (attempted : h.Attempted port f n past outcome actions) :
    actions.filterMap Action.round? = [] := by
  obtain ⟨tail, rfl, quiet⟩ := attempted.tail
  have none : tail.filterMap Action.round? = [] :=
    List.filterMap_eq_nil_iff.2 fun a ha => (quiet a ha).elim (·.round?) (·.1)
  rw [List.filterMap_append, none]
  rfl

end Launches

/-- Trials are gone through in order, up to the first that fails the run. -/
theorem trials_goes {within : Descriptor → Params → Except Failure Unit → List Action → Prop}
    (cycles : ∀ d p w, (h.runEmbedded d p).Goes h.sink w (within d p))
    (launchless : ∀ {d p outcome actions}, within d p outcome actions → launchesIn actions = 0)
    (port : UInt16) {past : List Action} {w : World σ} (none : launchesIn past = 0) (has : w.Has past) :
    ((h.trials plan).forM (h.perform port)).Goes h.sink w
      (Chain (h.Step within port) (h.trials plan) past) := by
  -- Along the trials, the numbers of the forks to come begin with the number of launches so far.
  refine Chain.of_forM ?_ ?_ (h.numbered_trials plan none) has
  · rintro (⟨d, p⟩ | ⟨f, n⟩) trials past w ⟨m, numbers⟩ has
    · exact cycles d p w
    · have attempt := h.attempt_goes port f has
      cases m with
      | zero => simp [Trial.number?] at numbers
      | succ m =>
        obtain ⟨rfl, -⟩ : n = launchesIn past ∧ _ := by
          simpa [Trial.number?, List.range'_succ] using numbers
        rwa [has.launches_eq] at attempt
  · rintro (⟨d, p⟩ | ⟨f, n⟩) trials past actions ⟨m, numbers⟩ done
    · refine ⟨m, ?_⟩
      rw [launchesIn_append, launchless done]
      exact numbers
    · have once : launchesIn actions = 1 := congrArg List.length (Attempted.launched done)
      cases m with
      | zero => simp [Trial.number?] at numbers
      | succ m =>
        refine ⟨m, ?_⟩
        rw [launchesIn_append, once]
        exact (List.cons.inj numbers).2

end Harness

end Microbench
