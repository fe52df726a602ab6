import Microbench.Proofs.Schedule

/-!
Plans within runs. Running a plan is to go through its trials, unless nothing can be listened to
(`Harness.runPlan_goes`). Whatever else a run notes is neither an iteration, nor a worker, nor a report; so
a run that is not aborted has gone through all trials of its plan (`Harness.exists_chain`).
-/

namespace Microbench

open Link Wire

variable {σ : Type}

/-- It was logged that the run has failed. -/
def World.Aborted (w : World σ) : Prop :=
  ∃ text, .logged ⟨.error, "Run aborted: " ++ text, none⟩ ∈ w.trace.toList

theorem World.not_aborted {w : World σ} (calm : (w.logged.all fun e => e.level != .error) = true) :
    ¬ w.Aborted := by
  rintro ⟨text, logged⟩
  have entry : (⟨.error, "Run aborted: " ++ text, none⟩ : Log.Entry) ∈ w.logged :=
    List.mem_filterMap.2 ⟨_, logged, rfl⟩
  have := List.all_eq_true.1 calm _ entry
  contradiction

theorem Action.isOuter_logged {entries : List Log.Entry} :
    ∀ a ∈ entries.map Action.logged, a.IsOuter := by
  intro a ha
  obtain ⟨e, -, rfl⟩ := List.mem_map.1 ha
  exact ⟨rfl, rfl, rfl⟩

def opening (entry : Log.Entry) (entries : List Log.Entry) : List Action :=
  [.logged entry, .told .runStart none] ++ entries.map .logged

theorem outer_opening {entry : Log.Entry} {entries : List Log.Entry} :
    ∀ a ∈ opening entry entries, a.IsOuter := by
  intro a ha
  rcases List.mem_append.1 ha with head | logged
  · simp only [List.mem_cons, List.not_mem_nil, or_false] at head
    rcases head with rfl | rfl <;> exact ⟨rfl, rfl, rfl⟩
  · exact Action.isOuter_logged a logged

/-- What is looked for in actions is not found around them. -/
theorem Action.filterMap_within {γ : Type} {f : Action → Option γ} {before actions after : List Action}
    (outer : ∀ a ∈ before ++ after, f a = none) :
    (before ++ (actions ++ after)).filterMap f = actions.filterMap f := by
  have first := List.filterMap_eq_nil_iff.2 fun a ha => outer a (List.mem_append_left after ha)
  have last := List.filterMap_eq_nil_iff.2 fun a ha => outer a (List.mem_append_right before ha)
  rw [List.filterMap_append, List.filterMap_append, first, last, List.append_nil, List.nil_append]

theorem launchesIn_eq_zero {actions : List Action} (outer : ∀ a ∈ actions, a.IsOuter) :
    launchesIn actions = 0 := by
  rw [launchesIn, List.filterMap_eq_nil_iff.2 fun a ha => (outer a ha).2.1]
  rfl

namespace Harness

variable {h : Harness σ} {plan : Plan}
  {within : Descriptor → Params → Except Failure Unit → List Action → Prop}

theorem Ending.outer {planned : Except Failure Unit} {results : Store} {ending : List Action}
    {outcome : Except Failure Store} (ends : Ending planned results ending outcome) :
    ∀ a ∈ ending, a.IsOuter := by
  cases ends <;> simp [Action.IsOuter, Action.round?, Action.launched?, Action.report?]

variable (h within plan) in
/-- What running a plan comes to behind what was done before. -/
inductive Planned (port : UInt16) (past : List Action) : Except Failure Unit → List Action → Prop where
  | intro {entries : List Log.Entry} {outcome : Except Failure Unit} {actions : List Action}
    (chain : Chain (h.Step within port) (h.trials plan) (past ++ entries.map .logged) outcome actions) :
    Planned port past outcome (entries.map .logged ++ actions)

theorem runPlan_goes (knows : h.Knows plan) {port : UInt16} (listens : h.Listens plan port)
    (cycles : ∀ d p w, (h.runEmbedded d p).Goes h.sink w (within d p))
    (launchless : ∀ {d p outcome actions}, within d p outcome actions → launchesIn actions = 0)
    {past : List Action} {w : World σ} (none : launchesIn past = 0) (has : w.Has past) :
    (h.runPlan plan).Goes h.sink w (h.Planned plan within port past) := by
  obtain ⟨entries, planned⟩ := h.runPlan_eq plan knows listens
  rw [planned]
  refine (Act.Goes.notes (fun _ => rfl) entries).after fun {w'} continued => ?_
  have quiet : launchesIn (past ++ entries.map .logged) = 0 := by
    rw [launchesIn_append, none, launchesIn_eq_zero Action.isOuter_logged]
  exact (h.trials_goes plan cycles launchless port quiet (has.continued continued)).mono .intro

theorem listens_of_ok (knows : h.Knows plan) {w w' : World σ}
    (ran : (h.runPlan plan).run w = (.ok (), w')) : ∃ port, h.Listens plan port := by
  by_cases alone : h.forked plan = []
  · exact ⟨0, fun workers => absurd alone workers⟩
  · cases listens : h.listen with
    | ok port => exact ⟨port, fun _ => listens⟩
    | error reason =>
      rw [h.runPlan_deaf plan knows listens alone] at ran
      cases ran

/-- A run that was started and is not aborted has gone through all trials of its plan. -/
theorem exists_chain [PatternEngine] (cycles : ∀ d p w, (h.runEmbedded d p).Goes h.sink w (within d p))
    (launchless : ∀ {d p outcome actions}, within d p outcome actions → launchesIn actions = 0)
    (named : h.registry.Named) (resolved : h.registry.resolve h.options = .ok plan) {s : σ}
    {outcome : Except Failure Store} {w : World σ} (ran : h.run.run (World.start s) = (outcome, w))
    (started : .told .runStart none ∈ w.trace.toList) (unaborted : ¬ w.Aborted) :
    ∃ port before actions after, h.Listens plan port ∧
      w.trace.toList = before ++ (actions ++ after) ∧ (∀ a ∈ before ++ after, a.IsOuter) ∧
      w.store = Store.empty.mergeReports (actions.filterMap Action.report?) ∧
      Chain (h.Step within port) (h.trials plan) before (.ok ()) actions := by
  have knows := (h.paramsOf_of_resolve named resolved).1
  rcases h.run_course ran with ⟨actions, continued, quiet⟩ | ⟨plan', entry, w₀, resolved', logs, course⟩
  · rw [continued.of_start.1] at started
    rcases quiet _ started with inner | ⟨f, refused⟩
    · contradiction
    · simp at refused
  obtain rfl : plan = plan' := Except.ok.inj (resolved.symm.trans resolved')
  cases course with
  | @intro w₁ w₂ w₃ planned inner ending starts plans continued quiet abort ends ended =>
    have whole := (((logs.trans starts).trans continued).trans abort).trans ends
    cases planned with
    -- A plan that has failed is logged as aborted, so this one has not.
    | error f =>
      refine absurd ⟨f.fullText, ?_⟩ unaborted
      rw [whole.of_start.1]
      simp [aborted]
    | ok _ =>
      obtain ⟨port, listens⟩ := listens_of_ok knows plans
      have goes := runPlan_goes knows listens cycles launchless rfl ⟨s, logs.trans starts⟩
      obtain ⟨actions, continued', planned⟩ := goes.of_ok plans
      have whole := (((logs.trans starts).trans continued').trans abort).trans ends
      cases planned with
      | @intro entries _ actions chain =>
        have trace : w.trace.toList = opening entry entries ++ (actions ++ ending) := by
          rw [whole.of_start.1]
          simp [opening, aborted]
        have outer : ∀ a ∈ opening entry entries ++ ending, a.IsOuter := fun a ha =>
          (List.mem_append.1 ha).elim (outer_opening a) (ended.outer a)
        refine ⟨port, _, actions, ending, listens, trace, outer, ?_, chain⟩
        rw [whole.of_start.2.2, World.merged, trace, Action.filterMap_within fun a ha => (outer a ha).2.2]

def closing (planned : Except Failure Unit) (results : Store) : List Action :=
  aborted planned ++ [.told (.runEnd results) none, .told (.call .flush) none]

theorem conclude_goes (planned : Except Failure Unit)
    (unwritten : planned = .ok () → h.options.resultFile = none) (w : World σ) :
    (h.conclude planned).Goes h.sink w fun outcome actions => outcome = planned.map (fun _ => w.store) ∧
      actions = [.told (.runEnd w.store) none, .told (.call .flush) none] := by
  refine .get_bind (.after (.tell ⟨rfl, rfl⟩) fun _ => .after (.tell ⟨rfl, rfl⟩) fun _ => ?_)
  rw [release]
  cases planned with
  | error f => exact .throw ⟨rfl, rfl⟩
  | ok _ =>
    rw [unwritten rfl]
    exact .pure ⟨rfl, rfl⟩

/-- Where the sink takes everything, a run ends with what came of its plan. -/
theorem runStarted_goes (takes : ∀ e, h.sink.Takes e)
    {allowed : Except Failure Unit → List Action → Prop} {past : List Action} {w : World σ}
    (goes : ∀ {w'}, w'.Has (past ++ [.told .runStart none]) → (h.runPlan plan).Goes h.sink w' allowed)
    (unwritten : ∀ {actions}, allowed (.ok ()) actions → h.options.resultFile = none) (has : w.Has past) :
    (h.runStarted plan).Goes h.sink w fun outcome actions => ∃ planned inner results,
      allowed planned inner ∧ results = Store.empty.mergeReports ((past ++ inner).filterMap Action.report?) ∧
      outcome = planned.map (fun _ => results) ∧
      actions = .told .runStart none :: (inner ++ closing planned results) := by
  refine .after (.tell ⟨rfl, rfl⟩) fun {w₁} starts => ?_
  have started := has.continued starts
  refine Act.Goes.bind ((goes started).attempt takes) ?_ ?_
  · rintro planned inner w₂ continued ⟨o, same, plans⟩
    obtain rfl := Except.ok.inj same
    have store : w₂.store = Store.empty.mergeReports ((past ++ inner).filterMap Action.report?) := by
      rw [(started.continued continued).store_eq, List.append_assoc, List.singleton_append,
        List.filterMap_append, List.filterMap_append, List.filterMap_cons_none rfl]
    cases planned with
    | ok _ =>
      refine (conclude_goes (.ok ()) (fun _ => unwritten plans) w₂).mono ?_
      rintro outcome actions ⟨rfl, rfl⟩
      exact ⟨_, inner, _, plans, store, rfl, rfl⟩
    | error f =>
      refine .after (.log _ _) fun {w₃} logs => (conclude_goes (.error f) nofun w₃).mono ?_
      rintro outcome actions ⟨rfl, rfl⟩
      have kept : w₃.store = w₂.store := logs.store
      refine ⟨_, inner, _, plans, store, rfl, ?_⟩
      rw [kept]
      rfl
  · rintro e as ⟨o, failed, -⟩
    contradiction

/-- A run of a plan with something in it that nothing outside of benchmarks and workers holds up. -/
structure Sound [PatternEngine] (h : Harness σ) (plan : Plan) (port : UInt16) : Prop where
  named : h.registry.Named
  resolved : h.registry.resolve h.options = .ok plan
  unlisted : h.options.listOnly = false
  filled : plan.isEmpty = false
  takes : ∀ e, h.sink.Takes e
  listens : h.listen = .ok port
  calm : ∀ d p kind index, h.executor d p kind index ≠ .panicked

theorem outer_closing (planned : Except Failure Unit) (results : Store) :
    ∀ a ∈ closing planned results, a.IsOuter := by
  cases planned <;> simp [closing, aborted, Action.IsOuter, Action.round?, Action.launched?, Action.report?]

theorem Sound.run_eq [PatternEngine] {port : UInt16} (sound : h.Sound plan port) :
    ∃ text, h.run = Act.log .info text >>= fun _ => h.runStarted plan := by
  unfold run
  rw [sound.resolved, Script.settle_bind]
  simp only [sound.unlisted, sound.filled, Bool.false_eq_true, if_false]
  exact ⟨_, rfl⟩

/-- A sound run goes through its trials, up to the first that fails the run, and ends with what was merged
in them. -/
theorem Sound.course [PatternEngine] {port : UInt16} (sound : h.Sound plan port)
    (cycles : ∀ d p w, (h.runEmbedded d p).Goes h.sink w (within d p))
    (launchless : ∀ {d p outcome actions}, within d p outcome actions → launchesIn actions = 0)
    (unwritten : ∀ {past actions}, Chain (h.Step within port) (h.trials plan) past (.ok ()) actions →
      h.options.resultFile = none) (s : σ) :
    ∃ planned before actions w, h.run.run (World.start s) = (planned.map fun _ => w.store, w) ∧
      w.trace.toList = before ++ (actions ++ closing planned w.store) ∧
      .told .runStart none ∈ before ∧ (∀ a ∈ before ++ closing planned w.store, a.IsOuter) ∧
      w.store = Store.empty.mergeReports (actions.filterMap Action.report?) ∧
      Chain (h.Step within port) (h.trials plan) before planned actions := by
  have knows := (h.paramsOf_of_resolve sound.named sound.resolved).1
  obtain ⟨text, run⟩ := sound.run_eq
  rcases ran : h.run.run (World.start s) with ⟨outcome, w⟩
  rw [run] at ran
  obtain ⟨w₁, logs, ran⟩ := Act.log_bind_run ran
  have goes := runStarted_goes (h := h) sound.takes
    (runPlan_goes knows (fun _ => sound.listens) cycles launchless rfl)
    (fun plans => by cases plans with | intro chain => exact unwritten chain)
    ⟨s, logs⟩
  obtain ⟨all, continued, planned, inner, results, plans, store, rfl, rfl⟩ := goes.of_takes sound.takes ran
  cases plans with
  | @intro entries _ actions chain =>
    have trace : w.trace.toList =
        opening ⟨.info, text, none⟩ entries ++ (actions ++ closing planned results) := by
      rw [(logs.trans continued).of_start.1]
      simp [opening]
    have outer : ∀ a ∈ opening ⟨.info, text, none⟩ entries ++ closing planned results, a.IsOuter :=
      fun a ha => (List.mem_append.1 ha).elim (outer_opening a) (outer_closing planned results a)
    have merged : w.store = Store.empty.mergeReports (actions.filterMap Action.report?) := by
      rw [(logs.trans continued).of_start.2.2, World.merged, trace,
        Action.filterMap_within fun a ha => (outer a ha).2.2]
    have same : w.store = results := by
      have all : [.logged ⟨.info, text, none⟩] ++ (entries.map Action.logged ++ actions) =
          (⟨.info, text, none⟩ :: entries).map Action.logged ++ (actions ++ []) := by simp
      rw [merged, store, all, Action.filterMap_within fun a ha => ?_]
      rw [List.append_nil] at ha
      exact (Action.isOuter_logged a ha).2.2
    rw [← same] at trace outer ran ⊢
    exact ⟨planned, _, actions, w, rfl, trace, by simp [opening], outer, merged, chain⟩

theorem Sound.started [PatternEngine] {port : UInt16} (sound : h.Sound plan port)
    (unwritten : h.options.resultFile = none) (s : σ) :
    .told .runStart none ∈ (h.run.run (World.start s)).2.trace.toList := by
  obtain ⟨planned, before, actions, w, ran, trace, started, -⟩ :=
    sound.course (h.runEmbedded_goes · · (Sink.plain_of_takes sound.takes)) Cycled.launchless
      (fun _ => unwritten) s
  rw [ran, trace]
  exact List.mem_append_left _ started

section Mixed

/-- A benchmark that runs in this process. -/
def here : Descriptor := ⟨"copy", .throughput, 1⟩

/-- A benchmark that runs in workers. -/
def away : Descriptor := ⟨"parse", .throughput, 1⟩

def mixedDefinitions : List Definition := [
  { name := "copy", forks := some 0, workload := fun _ => .done },
  { name := "parse", forks := some 2, warmupForks := some 1, workload := fun _ => .done }]

/-- A harness of a benchmark that runs in this process and of one that runs in workers. -/
def mixed (mode : WarmupMode) (strict : Bool) (executor : Executor) (launcher : Launcher) :
    Harness (Array Event) where
  registry := ⟨mixedDefinitions.foldl (fun registered d => registered.insert d.name d) ∅⟩
  options :=
    { warmup := ⟨1, .ofSeconds 1⟩, measurement := ⟨1, .ofSeconds 1⟩, warmupMode := mode,
      failOnError := strict }
  sink := Sink.recording
  executor; launcher
  listen := .ok 4000
  metadata := ⟨⟨0⟩, ⟨0, 0⟩, ⟨0, 0⟩, ⟨"linux", "x86_64", 1, none, "stable"⟩⟩
  refused _ := none

def mixedPlan : Plan := ⟨.ofList [here, away], ∅⟩

def hereParams : Params := ⟨⟨1, .ofSeconds 1⟩, ⟨1, .ofSeconds 1⟩, 1, true, .seconds, 0, 0⟩

def awayParams : Params := ⟨⟨1, .ofSeconds 1⟩, ⟨1, .ofSeconds 1⟩, 1, true, .seconds, 2, 1⟩

theorem sound_mixed [PatternEngine] {mode : WarmupMode} {strict : Bool} {executor : Executor} {launcher : Launcher}
    (calm : ∀ d p kind index, executor d p kind index ≠ .panicked) :
    (mixed mode strict executor launcher).Sound mixedPlan 4000 where
  named := by
    have registered : Registry.ofList mixedDefinitions =
        .ok (mixed mode strict executor launcher).registry := rfl
    exact Registry.named_ofList registered
  resolved := rfl
  unlisted := rfl
  filled := rfl
  takes _ _ := rfl
  listens := rfl
  calm := calm

theorem forks_mixed {mode : WarmupMode} {strict : Bool} {executor : Executor} {launcher : Launcher} :
    (mixed mode strict executor launcher).forks mixedPlan = [⟨away, awayParams, true, 1⟩,
      ⟨away, awayParams, false, 1⟩, ⟨away, awayParams, false, 2⟩] := rfl

def steady : Executor := fun d _ kind index => .sample
  { index, kind
    elapsed := 7
    primary := ⟨d.name, .seconds, .throughput 3 7⟩
    secondary := ∅
    rawPrimary := [⟨d.name, .seconds, .throughput 3 7⟩]
    rawSecondary := ∅ }

theorem calm_steady (d : Descriptor) (p : Params) (kind : IterationKind) (index : UInt32) :
    steady d p kind index ≠ .panicked := by simp [steady]

/-- The first benchmark of `mixed` cannot be measured. -/
def boom : Executor := fun d p kind index =>
  if d = here ∧ kind = .measurement then .failed (.other "boom") else steady d p kind index

theorem calm_boom (d : Descriptor) (p : Params) (kind : IterationKind) (index : UInt32) :
    boom d p kind index ≠ .panicked := by
  unfold boom
  split
  · simp
  · exact calm_steady d p kind index

def seven : Run := ⟨⟨"parse", .seconds, .throughput 3 7⟩, ∅, [], 1⟩

def reporting (d : Descriptor) (run : Run) (exit : Option Int) : Launch :=
  .ran (some [.bytes Frame.optionsRequest.bytes, .bytes (Frame.report d run).bytes,
    .bytes Frame.finish.bytes]) exit

theorem reports_reporting {h : Harness σ} (options_fit : (Frame.optionsResponse h.options).Fits)
    {d : Descriptor} {run : Run} (fits : (Frame.report d run).Fits) (exit : Option Int) :
    h.reports (reporting d run exit) = [(d, run)] := by
  have sent : ∀ f ∈ [Frame.optionsRequest, .report d run, .finish], f.Fits := by
    intro f hf
    simp only [List.mem_cons, List.not_mem_nil, or_false] at hf
    rcases hf with rfl | rfl | rfl
    · decide
    · exact fits
    · decide
  have arrived : Stream.frames .async [.bytes Frame.optionsRequest.bytes, .bytes (Frame.report d run).bytes,
      .bytes Frame.finish.bytes] = ([.optionsRequest, .report d run, .finish], none) :=
    Stream.frames_of_bytes sent (by simp [Arrival.Sound])
      (by simp [Stream.content, concat, ByteArray.append_assoc])
  have going : ∀ f ∈ [Frame.optionsRequest, .report d run],
      (Handler.mk h.sink h.options 0).stops f = false := by
    simp [Handler.stops, Handler.response_eq ⟨h.sink, h.options, 0⟩ options_fit, Except.toOption]
  have served := Handler.served_of_going _ going (.inr rfl : [Frame.finish] = [] ∨ _)
  rw [reports, reporting, frames, arrived]
  change (Handler.served _ ([.optionsRequest, .report d run] ++ [.finish])).flatMap _ = _
  rw [served]
  rfl
/-- A worker that does not connect, one that reports and exits with a failure, and no more workers. -/
def breaking (number : Nat) (args : WorkerArgs) : Launch :=
  match number with
  | 0 => .ran none (some 0)
  | 1 => reporting args.descriptor seven (some 1)
  | _ => Launch.unresolvable

theorem reports_breaking {strict : Bool} {executor : Executor} :
    (mixed .none strict executor breaking).reports (breaking 1 (.of Link.host 4000 away false)) =
      [(away, seven)] := by
  have options_fit : ∀ strict, (Frame.optionsResponse (mixed .none strict steady breaking).options).Fits := by
    decide
  exact reports_reporting (options_fit strict) (by decide +kernel) (some 1)

end Mixed

end Harness

end Microbench
