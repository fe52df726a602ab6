import Microbench.Proofs.Trials

/-!
Failures of the configuration. They come from resolving the options, or from a plan with nothing in it; a run that
was started can fail by the sink, by an iteration, by a worker, for want of a port and in writing its results, but
not by its configuration any more (`Harness.runStarted_mild`).
-/

namespace Microbench

variable {σ : Type}

def Failure.isMisconfigured (f : Failure) : Bool := f.root.isConfiguration

theorem Failure.not_misconfigured_of_unreported {f : Failure} (unreported : f.isReported = false) :
    f.isMisconfigured = false := by
  unfold Failure.isReported at unreported
  rw [isMisconfigured]
  split at unreported
  · next root => rw [root]; rfl
  · next root => rw [root]; rfl
  · next root => rw [root]; rfl
  · contradiction

theorem Failure.Names.not_misconfigured {d : Descriptor} {f : Failure} (names : f.Names d) :
    f.isMisconfigured = false := by
  cases names <;> rfl

theorem Executor.not_misconfigured {executor : Executor} {p : Params} {r : Round} {f : Failure}
    (failed : executor.failure? p r = some f) : f.isMisconfigured = false := by
  unfold failure? at failed
  split at failed
  · contradiction
  · obtain rfl := Option.some.inj failed
    rfl
  · obtain rfl := Option.some.inj failed
    rfl

theorem Report.not_misconfigured_of_create {refused : String → Option String} {path : String} {f : Failure}
    (failed : Report.create refused path = .error f) : f.isMisconfigured = false := by
  unfold Report.create at failed
  split at failed
  · obtain rfl := Except.error.inj failed
    rfl
  · contradiction

/-- What comes of an act is no failure of the configuration. -/
def Mild {α : Type} (outcome : Except Failure α) : Prop := ∀ f, outcome = .error f → f.isMisconfigured = false

theorem mild_ok {α : Type} (x : α) : Mild (.ok x) := by
  rintro _ ⟨⟩

theorem mild_error {α : Type} {f : Failure} (fine : f.isMisconfigured = false) :
    Mild (.error f : Except Failure α) := by
  rintro _ ⟨⟩
  exact fine

/-- What a plain sink refuses does not count either. -/
theorem Act.Goes.mild {α : Type} {sink : Sink σ} {act : Act σ α} {w : World σ}
    (goes : act.Goes sink w fun outcome _ => Mild outcome) (plain : sink.Plain) : Mild (act.run w).1 := by
  rcases goes with ⟨-, -, fine⟩ | ⟨f, refused, failed⟩
  · exact fine
  · rw [failed]
    exact mild_error (Failure.not_misconfigured_of_unreported (plain f refused))

namespace Harness

variable {h : Harness σ} {plan : Plan} {port : UInt16} {past actions : List Action} {w : World σ}

theorem failure?_not_misconfigured {t : Trial} {f : Failure} (failed : h.failure? port t = some f) :
    f.isMisconfigured = false := by
  cases t with
  | cycle d p =>
    rw [failure?, failure_cycle] at failed
    obtain ⟨r, -, failed⟩ := List.exists_of_findSome?_eq_some failed
    exact Executor.not_misconfigured failed
  | fork f n => exact (Launch.names_of_failure? failed).not_misconfigured

theorem Step.mild {t : Trial} {outcome : Except Failure Unit}
    (step : h.Step h.Cycled port t past outcome actions) : Mild outcome := by
  rw [step.outcome_eq]
  rcases h.verdict_cases (h.failure? port t) with settled | ⟨f, failed, verdict⟩
  · rw [settled]
    exact mild_ok ()
  · rw [verdict]
    exact mild_error (failure?_not_misconfigured failed)

/-- Trials in a row fail only as one of them does. -/
theorem chain_mild {trials : List Trial} {outcome : Except Failure Unit}
    (chain : Chain (h.Step h.Cycled port) trials past outcome actions) : Mild outcome := by
  induction chain with
  | nil => exact mild_ok ()
  | stop failed => exact Step.mild failed
  | cons _ _ ih => exact ih

/-- A plan in which everything is known fails by the sink, by one of its trials, or for want of a port. -/
theorem runPlan_mild (knows : h.Knows plan) (plain : h.sink.Plain) (none : launchesIn past = 0)
    (has : w.Has past) : Mild ((h.runPlan plan).run w).1 := by
  by_cases listens : ∃ port, h.Listens plan port
  · obtain ⟨port, listens⟩ := listens
    have goes := runPlan_goes knows listens (h.runEmbedded_goes · · plain) Cycled.launchless none has
    exact (goes.mono fun ⟨chain⟩ => chain_mild chain).mild plain
  · have workers : h.forked plan ≠ [] := fun alone => listens ⟨0, fun workers => absurd alone workers⟩
    cases closed : h.listen with
    | ok port => exact absurd ⟨port, fun _ => closed⟩ listens
    | error reason =>
      rw [runPlan_deaf h plan knows closed workers]
      exact mild_error rfl

theorem writeResults_goes (path : String) (results : Store) :
    (h.writeResults path results).Goes h.sink w fun outcome _ => Mild outcome := by
  unfold writeResults
  cases made : Report.create h.refused path with
  | error f => exact .throw_bind (mild_error (Report.not_misconfigured_of_create made))
  | ok _ =>
    rw [Script.settle_bind]
    exact .after (.note rfl) fun _ => (Act.Goes.log _ _).mono fun ⟨done, _⟩ => done ▸ mild_ok ()

/-- Behind the plan, a run fails by the sink, by what came of the plan, or in writing its results. -/
theorem conclude_mild (plain : h.sink.Plain) {planned : Except Failure Unit} (mild : Mild planned) :
    Mild ((h.conclude planned).run w).1 := by
  refine Act.Goes.mild (.get_bind ?_) plain
  refine .after (.tell ⟨rfl, rfl⟩) fun _ => .after (.tell ⟨rfl, rfl⟩) fun _ => ?_
  rw [release]
  cases planned with
  | error f => exact .throw_bind (mild_error (mild f rfl))
  | ok _ =>
    rw [Script.settle_bind]
    cases h.options.resultFile with
    | none => exact .pure (mild_ok _)
    | some path =>
      exact (writeResults_goes path w.store).bind (fun _ _ => .pure (mild_ok _)) fun fine => mild_error (fine _ rfl)

/-- A run that is started does not fail by its configuration any more. -/
theorem runStarted_mild (knows : h.Knows plan) (plain : h.sink.Plain) (none : launchesIn past = 0)
    (has : w.Has past) : Mild ((h.runStarted plan).run w).1 := by
  rcases started : (Act.tell h.sink .runStart).run w with ⟨answer, w₁⟩
  cases answer with
  | error f =>
    rw [runStarted, Act.run_bind_error started]
    exact mild_error (Failure.not_misconfigured_of_unreported (plain f ⟨_, _, congrArg Prod.fst started⟩))
  | ok _ =>
    have begun := has.continued (.of_tell started)
    have mild := runPlan_mild knows plain (by rw [launchesIn_append, none]; rfl) begun
    obtain ⟨w₃, -, concludes⟩ := h.runStarted_run started rfl
    rw [concludes]
    exact conclude_mild plain mild

def IsCall (a : Action) : Prop := ∃ c refusal, a = .told (.call c) refusal

theorem call_only (c : Call) : (Act.tell h.sink (.call c)).Only IsCall :=
  .tell h.sink fun refusal => ⟨c, refusal, rfl⟩

/-- A run that fails by its configuration makes some calls, and does nothing else. -/
theorem isCall_of_misconfigured [PatternEngine] (named : h.registry.Named) (plain : h.sink.Plain) {s : σ} {f : Failure}
    (ran : h.run.run (World.start s) = (.error f, w)) (fault : f.isMisconfigured = true) :
    ∀ a ∈ w.trace.toList, IsCall a := by
  have calls {act : Act σ Store} (only : act.Only IsCall) (ran : act.run (World.start s) = (.error f, w)) :
      ∀ a ∈ w.trace.toList, IsCall a := by
    obtain ⟨actions, continued, all⟩ := only (World.start s)
    rw [ran] at continued
    rwa [continued.of_start.1]
  unfold run at ran
  cases resolved : h.registry.resolve h.options with
  | error g =>
    rw [resolved, Act.run_bind_error (Act.run_settle ..)] at ran
    cases ran
    simp [World.start]
  | ok plan =>
    rw [resolved, Act.run_bind_ok (Act.run_settle ..)] at ran
    split at ran
    · have list : (h.list plan).Only IsCall :=
        .bind (call_only _) fun _ => .bind (.forM (fun _ => call_only _) _) fun _ => call_only _
      exact calls (.bind list fun _ => .pure _) ran
    simp only at ran
    split at ran
    · exact calls (.bind (call_only _) fun _ => .throw_bind _ _) ran
    -- From here on the run is started, and fails by something else if it fails.
    obtain ⟨w₀, logged, ran⟩ := Act.log_bind_run ran
    have mild := runStarted_mild (h.paramsOf_of_resolve named resolved).1 plain rfl ⟨s, logged⟩
    rw [ran] at mild
    rw [mild f rfl] at fault
    contradiction

variable (h) in
/-- What is wrong with the configuration is found before anything is done. A run that fails by it has not told the
sink of its start, and has neither run an iteration nor started a worker; and as soon as the options are
resolved, the parameters of everything that is to be measured or warmed up are known. -/
theorem run_of_misconfigured [PatternEngine] {definitions : List Definition}
    (registered : Registry.ofList definitions = .ok h.registry) (plain : h.sink.Plain) (s : σ) :
    (∀ f w, h.run.run (World.start s) = (.error f, w) → f.isMisconfigured = true →
      (∀ refusal, .told .runStart refusal ∉ w.trace.toList) ∧ w.rounds = [] ∧ w.launches = 0) ∧
    ∀ plan, h.registry.resolve h.options = .ok plan → (∃ parts, h.split plan = .ok parts) ∧
      ∀ d, d ∈ plan.measured ∨ d ∈ h.warmupSet plan → ∃ p, h.registry.paramsFor d h.options = .ok p := by
  have named := Registry.named_ofList registered
  refine ⟨fun f w ran fault => ?_, fun plan resolved => ?_⟩
  · have calls := isCall_of_misconfigured named plain ran fault
    refine ⟨fun refusal started => ?_, ?_, ?_⟩
    · obtain ⟨c, refusal', other⟩ := calls _ started
      cases other
    · refine List.filterMap_eq_nil_iff.2 fun a ha => ?_
      obtain ⟨c, refusal, rfl⟩ := calls a ha
      rfl
    · refine List.countP_eq_zero.2 fun a ha => ?_
      obtain ⟨c, refusal, rfl⟩ := calls a ha
      exact Bool.false_ne_true
  · have knows := (h.paramsOf_of_resolve named resolved).1
    refine ⟨⟨_, split_eq knows⟩, fun d looked => ⟨_, knows d ?_⟩⟩
    rcases looked with measured | warmed
    · exact .inl measured
    · exact (mem_warmupSet.1 warmed).symm.imp_left And.right

def unmatched : Harness (Array Event) :=
  { mixed .none false steady breaking with options := { includes := ["sort"] } }

attribute [local instance] PatternEngine.plain

/-- Where nothing is selected, this is said, and nothing is done. -/
theorem run_of_misconfigured_of_unmatched : ∃ w, unmatched.run.run (World.start #[]) =
      (.error (.noSuchBenchmark "sort"), w) ∧ w.trace.size = 1 ∧
    (∀ refusal, .told .runStart refusal ∉ w.trace.toList) ∧ w.rounds = [] ∧ w.launches = 0 := by
  have registered : Registry.ofList mixedDefinitions = .ok unmatched.registry := rfl
  have plain : unmatched.sink.Plain := Sink.plain_of_takes fun _ _ => rfl
  obtain ⟨w, ran, one⟩ : ∃ w, unmatched.run.run (World.start #[]) = (.error (.noSuchBenchmark "sort"), w) ∧
      w.trace.size = 1 := ⟨_, rfl, rfl⟩
  exact ⟨w, ran, one, (run_of_misconfigured unmatched registered plain #[]).1 _ w ran rfl⟩

end Harness

end Microbench
