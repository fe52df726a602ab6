import Microbench.Proofs.Conservation
import Microbench.Proofs.Forked
import Microbench.Proofs.Link.Scanning
import Microbench.Proofs.Resolution

/-!
The protocol that a worker keeps. It asks for the options, makes its calls, reports one result at most, flushes and
says that it has finished (`Worker.run_protocol`). It reports exactly when something is measured and all iterations
succeed, so a worker that is to measure nothing leaves the results of its parent as they are.
-/

namespace Microbench

open Wire

def Script.result? (s : Script (Option Run)) : Option Run :=
  match s.outcome with
  | .ok result => result
  | .error _ => none

theorem Script.reports_eq (s : Script (Option Run)) (d : Descriptor) : s.reports d = s.result?.toList.map (d, ·) := by
  unfold reports result?
  cases s.outcome with
  | ok result => cases result <;> rfl
  | error e => rfl

namespace Cycle

variable {executor : Executor} {detailed : Bool} {d : Descriptor} {p : Params} {s : Script (Option Run)}

/-- A cycle succeeds when all planned iterations do. -/
theorem failure?_eq_none (is_script : s = script executor detailed d p) :
    s.failure? = none ↔ ∀ r ∈ p.rounds d, ∃ sample, executor d p r.kind r.index = .sample sample := by
  rw [is_script, (script_tries executor detailed d p).failure, List.findSome?_eq_none_iff]
  refine forall₂_congr fun r mem => ?_
  rw [Executor.failure?_eq_none, Params.descriptor_of_mem_rounds mem]

/-- A cycle has a result when something is measured and all planned iterations succeed. -/
theorem isSome_result? (is_script : s = script executor detailed d p)
    (tagged : ∀ kind index sample, executor d p kind index = .sample sample → sample.kind = kind) :
    s.result?.isSome ↔ 0 < p.measurement.count ∧
      ∀ r ∈ p.rounds d, ∃ sample, executor d p r.kind r.index = .sample sample := by
  rw [← failure?_eq_none is_script, Script.result?, Script.failure?]
  cases outcome : s.outcome with
  | error e => simp
  | ok result =>
    obtain ⟨-, samples, measured, rfl⟩ := script_ok (is_script ▸ outcome)
    obtain ⟨length, given⟩ := iterations_ok measured
    have kinds : ∀ sample ∈ samples, sample.kind = .measurement := by
      intro sample mem
      obtain ⟨index, gives⟩ := given sample mem
      exact tagged .measurement index sample gives
    rw [UInt32.lt_iff_toNat_lt, ← length]
    simpa [List.length_pos_iff] using Run.isSome_ofSamples kinds

theorem told_of_result? (is_script : s = script executor detailed d p) {run : Run} (result : s.result? = some run) :
    [.benchmarkEnd d (some run)] <:+ s.calls ++ s.exceptions := by
  unfold Script.result? at result
  cases outcome : s.outcome with
  | error e => simp [outcome] at result
  | ok r =>
    rw [outcome] at result
    obtain rfl : r = some run := result
    have told := (script_ok (is_script ▸ outcome)).1
    rw [Script.exceptions, outcome, List.append_nil, is_script]
    exact told

end Cycle

namespace Link.Handler

theorem store_serve {σ : Type} (h : Handler σ) {arrivals : List Arrival}
    (quiet : ∀ f ∈ (Stream.frames .async arrivals).1, f.reports = []) (w : World σ) :
    ((h.serve arrivals).run w).2.store = w.store := by
  have nothing : (h.served (Stream.frames .async arrivals).1).flatMap Frame.reports = [] :=
    List.flatMap_eq_nil_iff.2 fun f mem => quiet f ((List.takeWhile_subset _) mem)
  have handles := (h.handle_does (Stream.frames .async arrivals).1 (Stream.frames .async arrivals).2).changes w
  rw [nothing] at handles
  exact handles.store

end Link.Handler

namespace Worker

/-- What a worker sends that makes these calls and has this result, if any, up to its end. -/
def transcript (d : Descriptor) (calls : List Call) (report : Option Run) : List Frame :=
  .optionsRequest :: (calls.map .ofCall ++ report.toList.map (.report d))

theorem frames_eq_transcript (d : Descriptor) (s : Script (Option Run)) (code : Except Failure Nat) :
    frames d s code = transcript d (s.calls ++ s.exceptions) s.result? ++ (lastCalls code).map .ofCall := by
  rw [frames, cycleFrames, Script.reports_eq, List.map_map]
  rfl

section

variable {executor : Executor} {detailed : Bool} {d : Descriptor} {p : Params} {s : Script (Option Run)}

/-- Unless the executor panics, a worker exits by whether an iteration failed. -/
theorem exit_of_calm (o : Options) (is_script : s = Cycle.script executor detailed d p)
    (calm : s.failure? ≠ some .taskPanicked) :
    exit o s.outcome = .ok (if s.failure?.isSome ∧ o.failOnError then 1 else 0) := by
  unfold Script.failure? at calm ⊢
  rcases Cycle.script_ends s is_script with ⟨outcome, -⟩ | ⟨run, outcome, -⟩ | ⟨reason, outcome, -⟩ | ⟨outcome, -⟩
  all_goals rw [outcome] at calm ⊢
  · simp [exit]
  · simp [exit]
  · simp [exit, Failure.isFatal, Failure.isConfiguration]
  · contradiction

theorem exit_of_panicked (o : Options) (panicked : s.failure? = some .taskPanicked) :
    exit o s.outcome = .error .taskPanicked := by
  unfold Script.failure? at panicked
  cases outcome : s.outcome with
  | ok result => simp [outcome] at panicked
  | error e =>
    rw [outcome] at panicked
    obtain rfl := Option.some.inj panicked
    rfl

/-- Whatever arrives of a worker without a result, its parent merges nothing. -/
theorem store_serve_of_unreported {code : Except Failure Nat} (fits : ∀ f ∈ cycleFrames d s, f.Fits)
    (unreported : s.reports d = []) {σ : Type} (h : Link.Handler σ) {arrivals : List Arrival} {lost : ByteArray}
    (sound : ∀ a ∈ arrivals, a.Sound .async)
    (carries : Stream.content arrivals ++ lost = concat Frame.bytes (frames d s code ++ farewell code))
    (w : World σ) : ((h.serve arrivals).run w).2.store = w.store := by
  have calls_fit : ∀ c ∈ s.calls ++ s.exceptions, (Frame.ofCall c).Fits := fun c mem =>
    fits _ (List.mem_append_left _ (List.mem_map_of_mem mem))
  have reports_fit : ∀ report ∈ s.reports d, (Frame.report report.1 report.2).Fits := by simp [unreported]
  have quiet : ∀ f ∈ frames d s code ++ farewell code, f.reports = [] := by
    rw [← List.flatMap_eq_nil_iff, List.flatMap_append, reports_frames, unreported]
    cases code <;> rfl
  -- Bytes may be lost at any place; what is read is among the frames that were sent.
  refine h.store_serve (fun f mem => quiet f ?_) w
  exact Stream.mem_of_mem_frames sound (frames_fit calls_fit reports_fit) carries f mem

end

/-- A worker of a registered benchmark that has read the options asks for them, makes its calls, reports one result at
most, flushes and says that it has finished, and exits with 1 just when an iteration failed and failures are to stop
the run. It reports just when something is measured and all planned iterations succeed, and then the result that it
told last. Whatever arrives of a worker that is to measure nothing, its parent merges nothing. Only an executor that
panics keeps a worker from its end. -/
theorem run_protocol {network : Link.Network} {registry : Registry} {executor : Executor} {args : WorkerArgs}
    {reply : List Arrival} {o : Options} {p : Params} (connected : network args.host args.port = .ok ())
    (read : Link.readOptions reply = .ok o)
    (params : registry.paramsFor args.descriptor (o.withCounts args.warmupCount args.measurementCount) = .ok p)
    (tagged : ∀ kind index sample, executor args.descriptor p kind index = .sample sample → sample.kind = kind)
    (fits : ∀ f ∈ cycleFrames args.descriptor (Cycle.script executor o.detailed args.descriptor p), f.Fits) :
    let d := args.descriptor
    let act := run network registry executor args reply
    let failure := (p.rounds d).findSome? (executor.failure? p)
    p.warmup.count = args.warmupCount.getD o.warmup.count ∧
    p.measurement.count = args.measurementCount.getD o.measurement.count ∧
    ∃ calls report,
      (failure ≠ some .taskPanicked →
        Sends act (.ok (if failure.isSome ∧ o.failOnError then 1 else 0))
          (transcript d calls report ++ [.ofCall .flush, .finish])) ∧
      (failure = some .taskPanicked → Sends act (.error .taskPanicked) (transcript d calls report)) ∧
      (report.isSome ↔ 0 < p.measurement.count ∧
        ∀ r ∈ p.rounds d, ∃ sample, executor d p r.kind r.index = .sample sample) ∧
      (∀ run, report = some run → [.benchmarkEnd d (some run)] <:+ calls) ∧
      (args.measurementCount = some 0 → report = none ∧
        ∀ {σ : Type} (h : Link.Handler σ) arrivals lost w, (∀ a ∈ arrivals, a.Sound .async) →
          Stream.content arrivals ++ lost = (act.run (World.start .empty)).2.sink →
            ((h.serve arrivals).run w).2.store = w.store) := by
  intro d act failure
  obtain ⟨warmup, measurement⟩ := Registry.iterations_of_paramsFor params
  obtain ⟨s, is_script⟩ : ∃ s, s = Cycle.script executor o.detailed d p := ⟨_, rfl⟩
  have failed : s.failure? = failure := is_script ▸ (Cycle.script_tries executor o.detailed d p).failure
  have sends := run_sends_of_read connected read params is_script (is_script ▸ fits)
  have reported := Cycle.isSome_result? is_script tagged
  refine ⟨congrArg Iterations.count warmup, congrArg Iterations.count measurement, s.calls ++ s.exceptions, s.result?,
    fun calm => ?_, fun panicked => ?_, reported, fun run => Cycle.told_of_result? is_script, fun unmeasured => ?_⟩
  · rw [← failed] at calm ⊢
    rw [frames_eq_transcript, exit_of_calm o is_script calm, List.append_assoc] at sends
    exact sends
  · rw [← failed] at panicked
    rw [frames_eq_transcript, exit_of_panicked o panicked] at sends
    simpa [lastCalls, farewell] using sends
  -- The override comes before the count of the options, whatever this is.
  · have nothing : s.result? = none := by
      have count : p.measurement.count = 0 := by
        rw [measurement, Options.withCounts, unmeasured]
        rfl
      rw [count] at reported
      simpa using reported
    refine ⟨nothing, fun h arrivals lost w sound carries => ?_⟩
    rw [sends.changes, World.start, ByteArray.empty_append] at carries
    have unreported : s.reports d = [] := by rw [Script.reports_eq, nothing]; rfl
    exact store_serve_of_unreported (is_script ▸ fits) unreported h sound carries w

def strict : Options := { warmup := ⟨1, .ofSeconds 1⟩, measurement := ⟨1, .ofSeconds 1⟩, failOnError := true }

def ticking : Executor := fun _ _ kind index => .sample (Harness.tick index kind)

def noop (warmup : Bool) : WorkerArgs := .of Link.host 4000 ⟨"noop", .throughput, 1⟩ warmup

def noopParams (warmup : Bool) : Params :=
  ⟨⟨1, .ofSeconds 1⟩, ⟨if warmup then 0 else 1, .ofSeconds 1⟩, 1, true, .seconds, 1, 0⟩

theorem cycleFrames_ticking_fit (warmup : Bool) :
    ∀ f ∈ cycleFrames (noop warmup).descriptor
      (Cycle.script ticking false (noop warmup).descriptor (noopParams warmup)), f.Fits := by
  cases warmup <;> decide +kernel

/-- A worker measures and reports, another one cannot be measured and exits with 1, and a third one is only to
warm up. -/
theorem run_protocol_of_noop :
    let network : Link.Network := fun _ _ => .ok ()
    let reply := [Arrival.bytes (Frame.optionsResponse strict).bytes]
    let act executor warmup := run network Harness.refusing.registry executor (noop warmup) reply
    let d := (noop false).descriptor
    let sent := ((act ticking true).run (World.start .empty)).2.sink
    (∃ calls run, Sends (act ticking false) (.ok 0) (transcript d calls (some run) ++ [.ofCall .flush, .finish]) ∧
      [.benchmarkEnd d (some run)] <:+ calls) ∧
    (∃ calls, Sends (act Harness.refusing.executor false) (.ok 1)
      (transcript d calls none ++ [.ofCall .flush, .finish])) ∧
    ((Link.Handler.serve ⟨Link.Handler.deaf, strict, 1⟩ [.bytes sent]).run (World.start 0)).2.store = .empty := by
  intro network reply act d sent
  have connected (warmup : Bool) : network (noop warmup).host (noop warmup).port = .ok () := rfl
  have replied : Stream.content reply = (Frame.optionsResponse strict).bytes ++ .empty := rfl
  have read : Link.readOptions reply = .ok strict :=
    Link.readOptions_eq_ok (by decide) (by simp [reply, Arrival.Sound]) replied
  have params (warmup : Bool) : Harness.refusing.registry.paramsFor (noop warmup).descriptor
      (strict.withCounts (noop warmup).warmupCount (noop warmup).measurementCount) = .ok (noopParams warmup) := by
    cases warmup <;> rfl
  have tagged (warmup : Bool) : ∀ kind index sample, ticking (noop warmup).descriptor (noopParams warmup) kind index =
      .sample sample → sample.kind = kind := by
    intro kind index sample given
    cases given
    rfl
  have refusing_tagged : ∀ kind index sample, Harness.refusing.executor d (noopParams false) kind index =
      .sample sample → sample.kind = kind := by
    intro kind index sample given
    cases kind <;> cases given
    rfl
  have refusing_fit : ∀ f ∈ cycleFrames (noop false).descriptor (Cycle.script Harness.refusing.executor false
      (noop false).descriptor (noopParams false)), f.Fits := by decide +kernel
  refine ⟨?_, ?_, ?_⟩
  · obtain ⟨-, -, calls, report, ended, -, reported, told, -⟩ :=
      run_protocol (connected false) read (params false) (tagged false) (cycleFrames_ticking_fit false)
    obtain ⟨run, rfl⟩ := Option.isSome_iff_exists.1 (reported.2 ⟨by decide, fun r _ => ⟨_, rfl⟩⟩)
    exact ⟨calls, run, ended (by decide), told run rfl⟩
  · obtain ⟨-, -, calls, report, ended, -, reported, -⟩ :=
      run_protocol (connected false) read (params false) refusing_tagged refusing_fit
    have unreported : report = none := by
      refine Option.not_isSome_iff_eq_none.1 fun some => ?_
      obtain ⟨-, given⟩ := reported.1 some
      obtain ⟨sample, measured⟩ := given ⟨d, .measurement, 1⟩ (by decide)
      cases measured
    rw [unreported] at ended
    exact ⟨calls, ended (by decide)⟩
  · obtain ⟨-, -, calls, report, -, -, -, -, unmeasured⟩ :=
      run_protocol (connected true) read (params true) (tagged true) (cycleFrames_ticking_fit true)
    obtain ⟨-, kept⟩ := unmeasured rfl
    refine kept ⟨Link.Handler.deaf, strict, 1⟩ [.bytes sent] .empty (World.start 0) (by simp [Arrival.Sound]) ?_
    simp only [Stream.content, ByteArray.append_empty, sent, act]

end Worker

end Microbench
