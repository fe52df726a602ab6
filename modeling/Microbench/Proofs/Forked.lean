import Microbench.Harness
import Microbench.Proofs.WorkerFrames

/-!
Running a descriptor in this process and running it in a worker come to the same: the sink is told
the same calls and the store gets the same report.
-/

namespace Microbench

open Wire

variable {σ : Type}

namespace Harness

variable {h : Harness σ} {d : Descriptor} {p : Params} {s : Script (Option Run)}

/-- A failed benchmark is told of, whether or not it stops the run. -/
theorem report_does (accepts : ∀ e, h.sink.Takes e) (f : Failure) :
    Act.Does h.sink (h.report f) (if f.isFatal h.options.failOnError then .error f else .ok ())
      [.call (.exception f.message)] [] := by
  have tells := Act.Does.tell (accepts (.call (.exception f.message)))
  have ends : Act.Does h.sink (if f.isFatal h.options.failOnError then throw f else pure () : Act σ Unit)
      (if f.isFatal h.options.failOnError then .error f else .ok ()) [] [] := by
    by_cases fatal : f.isFatal h.options.failOnError = true
    · simp only [fatal, if_true]
      exact .throw f
    · simp only [fatal]
      exact .pure ()
  have logs : Act.Does h.sink (Act.log .warn f.message) (.ok ()) [] [] := .log _ _
  exact logs.bind (tells.bind ends)

def ending (h : Harness σ) : Except Failure (Option Run) → Except Failure Unit
  | .ok _ => .ok ()
  | .error f => if f.isReported && !f.isFatal h.options.failOnError then .ok () else .error f

theorem runEmbedded_does (accepts : ∀ e, h.sink.Takes e)
    (script : s = Cycle.script h.executor h.options.detailed d p) :
    Act.Does h.sink (h.runEmbedded d p) (h.ending s.outcome) ((s.calls ++ s.exceptions).map .call)
      (s.reports d) := by
  have takes : ∀ c ∈ s.calls, h.sink.Takes (.call c) := fun c _ => accepts (.call c)
  have ran := (Cycle.run_does h.executor h.options.detailed d p script takes).attempt
  rcases Cycle.script_ends s script with ⟨outcome, exceptions, reports⟩ |
    ⟨run, outcome, exceptions, reports⟩ | ⟨reason, outcome, exceptions, reports⟩ |
    ⟨outcome, exceptions, reports⟩
  all_goals rw [outcome] at ran ⊢; rw [exceptions, reports, List.map_append]
  · exact Act.Does.bind ran (.pure ())
  · exact Act.Does.bind ran (.merge d run)
  · have reported := report_does accepts (.benchmarkFailed d reason)
    have same : h.ending (.error (.benchmarkFailed d reason)) =
        if (Failure.benchmarkFailed d reason).isFatal h.options.failOnError then
          .error (.benchmarkFailed d reason) else .ok () := by
      cases fatal : (Failure.benchmarkFailed d reason).isFatal h.options.failOnError <;>
        simp [ending, Failure.isReported, Failure.root, fatal]
    rw [same]
    exact Act.Does.bind ran reported
  · exact Act.Does.bind ran (.throw .taskPanicked)

end Harness

namespace Link.Handler

variable (h : Handler σ) {d : Descriptor} {s : Script (Option Run)} {code : Except Failure Nat}
  (options_fit : (Frame.optionsResponse h.options).Fits)

include options_fit

theorem going_worker : ∀ f ∈ Worker.frames d s code, h.stops f = false := by
  intro f hf
  rcases Worker.frames_cases hf with rfl | ⟨c, -, rfl⟩ | ⟨r, -, rfl⟩
  · simp [stops, h.response_eq options_fit, Except.toOption]
  · rfl
  · rfl

/-- The parent's side of a worker: its sink is told the calls of the cycle, its store gets the
report, and the worker is sent the options. -/
theorem serve_worker_does {arrivals : List Arrival} (sound : ∀ a ∈ arrivals, a.Sound .async)
    (calls_fit : ∀ c ∈ s.calls ++ s.exceptions, (Frame.ofCall c).Fits)
    (reports_fit : ∀ report ∈ s.reports d, (Frame.report report.1 report.2).Fits)
    (carries : Stream.content arrivals =
      concat Frame.bytes (Worker.frames d s code ++ Worker.farewell code)) :
    Act.Does h.sink (h.serve arrivals) (.ok (Frame.optionsResponse h.options).bytes)
      ((s.calls ++ s.exceptions ++ Worker.lastCalls code).map .call) (s.reports d) := by
  have serves := h.serve_does sound (Worker.frames_fit calls_fit reports_fit) carries
  have ends : Worker.farewell code = [] ∨ Worker.farewell code = [.finish] := by
    cases code with
    | ok n => exact .inr rfl
    | error e => exact .inl rfl
  have asked : (Worker.frames d s code).filter (· = .optionsRequest) = [.optionsRequest] := by
    simp [Worker.frames, Worker.cycleFrames, Frame.ofCall, List.filter_map, Function.comp_def]
  rw [h.served_of_going (h.going_worker options_fit) ends, Worker.forwarded_frames calls_fit,
    Worker.reports_frames, h.concat_answer options_fit, asked] at serves
  simpa using serves

end Link.Handler

namespace Harness

/-- What follows in a worker where a run in this process ended like this: a flush, unless the
executor panicked. -/
def flushed : Except Failure Unit → List Event
  | .error .taskPanicked => []
  | _ => [.call .flush]

theorem lastCalls_exit (h : Harness σ) {d : Descriptor} {p : Params} {s : Script (Option Run)}
    (script : s = Cycle.script h.executor h.options.detailed d p) :
    (Worker.lastCalls (Worker.exit h.options s.outcome)).map Event.call =
      flushed (h.ending s.outcome) := by
  rcases Cycle.script_ends s script with ⟨outcome, -⟩ | ⟨run, outcome, -⟩ | ⟨reason, outcome, -⟩ |
    ⟨outcome, -⟩
  all_goals rw [outcome]
  · rfl
  · rfl
  · change _ = flushed (if _ then _ else _)
    split <;> rfl
  · rfl

/-- A descriptor is run in this process, or in a worker that gets the options from its parent and
whose bytes come to the parent however they are cut. As long as the sink takes everything and all
frames are small enough, the sink is told the same calls, and a flush after them, and the store is
the same. Only a worker whose executor panicked does not come to its flush. -/
theorem forked_eq_embedded (h : Harness σ) (accepts : ∀ e, h.sink.Takes e)
    (network : Link.Network) (args : WorkerArgs) (p : Params) (number : Nat) (w : World σ)
    (connected : network args.host args.port = .ok ())
    (params : h.registry.paramsFor args.descriptor
      (h.options.withCounts args.warmupCount args.measurementCount) = .ok p)
    (reply : List Arrival) (reply_sound : ∀ a ∈ reply, a.Sound .blocking)
    (replied : Stream.content reply = (Frame.optionsResponse h.options).bytes)
    (arrivals : List Arrival) (sound : ∀ a ∈ arrivals, a.Sound .async)
    (carries : Stream.content arrivals =
      ((Worker.run network h.registry h.executor args reply).run (World.start .empty)).2.sink)
    (options_fit : (Frame.optionsResponse h.options).Fits)
    (calls_fit : ∀ c, .call c ∈ w.toldSince ((h.runEmbedded args.descriptor p).run w).2 →
      (Frame.ofCall c).Fits)
    (reports_fit : ∀ report ∈ w.mergedSince ((h.runEmbedded args.descriptor p).run w).2,
      (Frame.report report.1 report.2).Fits) :
    let embedded := (h.runEmbedded args.descriptor p).run w
    let forked := (Link.Handler.serve ⟨h.sink, h.options, number⟩ arrivals).run w
    forked.1 = .ok (Frame.optionsResponse h.options).bytes ∧
      w.toldSince forked.2 = w.toldSince embedded.2 ++ flushed embedded.1 ∧
      forked.2.sink = h.sink.after (flushed embedded.1) embedded.2.sink ∧
      w.mergedSince forked.2 = w.mergedSince embedded.2 ∧ forked.2.store = embedded.2.store := by
  intro embedded forked
  obtain ⟨s, script⟩ : ∃ s, s = Cycle.script h.executor h.options.detailed args.descriptor p := ⟨_, rfl⟩
  have embeds := runEmbedded_does accepts script
  have direct := embeds.changes w
  rw [direct.toldSince_eq] at calls_fit
  rw [direct.mergedSince_eq] at reports_fit
  have own_fit : ∀ c ∈ s.calls ++ s.exceptions, (Frame.ofCall c).Fits := fun c hc =>
    calls_fit c (List.mem_map_of_mem hc)
  have replied' : Stream.content reply = (Frame.optionsResponse h.options).bytes ++ .empty := by
    rw [replied, ByteArray.append_empty]
  have sends := Worker.run_sends connected options_fit reply_sound replied' params script
    (Worker.cycleFrames_fit own_fit reports_fit)
  rw [sends.changes, World.start, ByteArray.empty_append] at carries
  have serves := Link.Handler.serve_worker_does ⟨h.sink, h.options, number⟩ options_fit sound own_fit
    reports_fit carries
  rw [List.map_append, lastCalls_exit h script] at serves
  have through := serves.changes w
  have ended : embedded.1 = h.ending s.outcome := embeds.returns w
  refine ⟨serves.returns w, ?_, ?_, ?_, ?_⟩
  · rw [through.toldSince_eq, direct.toldSince_eq, ended]
  · rw [through.sink, direct.sink, ended, Sink.after_append]
  · rw [through.mergedSince_eq, direct.mergedSince_eq]
  · rw [through.store, direct.store]

def tick (index : UInt32) (kind : IterationKind) : Sample where
  index; kind
  elapsed := 7
  primary := ⟨"noop", .seconds, .throughput 3 7⟩
  secondary := ∅
  rawPrimary := [⟨"noop", .seconds, .throughput 3 7⟩]
  rawSecondary := ∅

/-- A harness of one benchmark that is warmed up once and cannot be measured. -/
def refusing : Harness (Array Event) where
  registry := ⟨(∅ : Std.ExtTreeMap String Definition).insert "noop"
    { name := "noop", workload := fun _ => .done }⟩
  options := { warmup := ⟨1, .ofSeconds 1⟩ }
  sink := Sink.recording
  executor _ _ kind index :=
    match kind with
    | .warmup => .sample (tick index kind)
    | .measurement => .failed (.other "boom")
  launcher _ _ := Launch.unresolvable
  listen := .ok 4000
  metadata := ⟨⟨0⟩, ⟨0, 0⟩, ⟨0, 0⟩, ⟨"linux", "x86_64", 1, none, "stable"⟩⟩
  refused _ := none

def refusingParams : Params := ⟨⟨1, .ofSeconds 1⟩, ⟨5, .ofSeconds 1⟩, 1, true, .seconds, 1, 0⟩

def refusingArgs : WorkerArgs := .of Link.host 4000 ⟨"noop", .throughput, 1⟩ false

def refusingCalls : List Call := [
  .benchmarkStart refusingArgs.descriptor refusingParams,
  .iterationStart refusingArgs.descriptor refusingParams 1 .warmup,
  .iterationEnd refusingArgs.descriptor refusingParams 1 .warmup (tick 1 .warmup),
  .iterationStart refusingArgs.descriptor refusingParams 1 .measurement,
  .exception "Benchmark noop (thrpt) failed: boom"]

theorem told_refusing : (World.start #[]).toldSince
    ((refusing.runEmbedded refusingArgs.descriptor refusingParams).run (World.start #[])).2 =
      refusingCalls.map .call := rfl

theorem merged_refusing : (World.start #[]).mergedSince
    ((refusing.runEmbedded refusingArgs.descriptor refusingParams).run (World.start #[])).2 = [] := rfl

theorem store_refusing : ((refusing.runEmbedded refusingArgs.descriptor refusingParams).run
    (World.start #[])).2.store = .empty := rfl

theorem ended_refusing : ((refusing.runEmbedded refusingArgs.descriptor refusingParams).run
    (World.start #[])).1 = .ok () := rfl

theorem refusingCalls_fit : ∀ c ∈ refusingCalls, (Frame.ofCall c).Fits := by decide +kernel

/-- The worker of a benchmark that cannot be measured: its parent's sink is told the exception and a
flush, and nothing is merged. -/
theorem forked_eq_embedded_of_refusing :
    let reply := [.interrupted, Arrival.bytes (Frame.optionsResponse refusing.options).bytes]
    let sent := ((Worker.run (fun _ _ => .ok ()) refusing.registry refusing.executor refusingArgs
      reply).run (World.start .empty)).2.sink
    let forked := (Link.Handler.serve ⟨refusing.sink, refusing.options, 1⟩ [.bytes sent]).run
      (World.start #[])
    refusing.registry.paramsFor refusingArgs.descriptor (refusing.options.withCounts
      refusingArgs.warmupCount refusingArgs.measurementCount) = .ok refusingParams ∧
    (World.start #[]).toldSince forked.2 = refusingCalls.map .call ++ [.call .flush] ∧
    forked.2.store = .empty := by
  intro reply sent
  have params : refusing.registry.paramsFor refusingArgs.descriptor (refusing.options.withCounts
    refusingArgs.warmupCount refusingArgs.measurementCount) = .ok refusingParams := rfl
  have carries : Stream.content [.bytes sent] = sent := ByteArray.append_empty
  have replied : Stream.content reply = (Frame.optionsResponse refusing.options).bytes :=
    ByteArray.append_empty
  have options_fit : (Frame.optionsResponse refusing.options).Fits := by decide
  have calls_fit : ∀ c, .call c ∈ (World.start #[]).toldSince
      ((refusing.runEmbedded refusingArgs.descriptor refusingParams).run (World.start #[])).2 →
      (Frame.ofCall c).Fits := by
    intro c hc
    rw [told_refusing] at hc
    exact refusingCalls_fit c (by simpa using hc)
  have reports_fit : ∀ report ∈ (World.start #[]).mergedSince
      ((refusing.runEmbedded refusingArgs.descriptor refusingParams).run (World.start #[])).2,
      (Frame.report report.1 report.2).Fits := by
    rw [merged_refusing]
    simp
  obtain ⟨-, told, -, -, store⟩ := forked_eq_embedded refusing (fun _ _ => rfl) (fun _ _ => .ok ())
    refusingArgs refusingParams 1 (World.start #[]) rfl params reply (by simp [reply, Arrival.Sound])
    replied [.bytes sent] (by simp [Arrival.Sound]) carries options_fit calls_fit reports_fit
  rw [told_refusing, ended_refusing] at told
  rw [store_refusing] at store
  exact ⟨params, told, store⟩

end Harness

end Microbench
