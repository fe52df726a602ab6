import Microbench.Worker
import Microbench.Proofs.Link.Handling
import Microbench.Proofs.Script

/-!
What a worker sends. `Worker.Sends` says of an act which frames it appends to what was sent, and the
frames of a whole worker are those of its cycle between the request for the options and the end
(`Worker.run_sends`).
-/

namespace Microbench

open Wire

variable {α β : Type}

theorem concat_append (encode : α → ByteArray) (xs ys : List α) :
    concat encode (xs ++ ys) = concat encode xs ++ concat encode ys := by
  induction xs with
  | nil => simp
  | cons x xs ih => rw [List.cons_append, concat_cons, concat_cons, ih, ByteArray.append_assoc]

namespace Link

theorem sink_call {c : Call} (fits : (Frame.ofCall c).Fits) (sent : ByteArray) :
    sink (.call c) sent = (.ok (), sent ++ (Frame.ofCall c).bytes) := by
  simp [sink, Event.call?, send_eq, fits]

theorem sink_takes {c : Call} (fits : (Frame.ofCall c).Fits) : sink.Takes (.call c) := by
  intro sent
  rw [sink_call fits]

theorem sink_after {calls : List Call} (fits : ∀ c ∈ calls, (Frame.ofCall c).Fits) (sent : ByteArray) :
    sink.after (calls.map .call) sent = sent ++ concat Frame.bytes (calls.map Frame.ofCall) := by
  induction calls generalizing sent with
  | nil => simp [Sink.after]
  | cons c calls ih =>
    have rest := ih (fun c hc => fits c (List.mem_cons_of_mem _ hc)) (sent ++ (Frame.ofCall c).bytes)
    rw [ByteArray.append_assoc] at rest
    rw [List.map_cons, List.map_cons, concat_cons, ← rest, Sink.after, List.foldl_cons,
      sink_call (fits c List.mem_cons_self)]
    rfl

/-- Options that were sent are read. -/
theorem readOptions_eq_ok {o : Options} {reply : List Arrival} {back : ByteArray}
    (fits : (Frame.optionsResponse o).Fits) (sound : ∀ a ∈ reply, a.Sound .blocking)
    (carries : Stream.content reply = (Frame.optionsResponse o).bytes ++ back) :
    readOptions reply = .ok o := by
  obtain ⟨rest, next, -⟩ := Stream.next_eq_frame sound fits carries
  rw [readOptions, next]

end Link

namespace Worker

/-- From every world the act has this outcome, and sends these frames. -/
abbrev Sends (act : Act ByteArray α) (outcome : Except Failure α) (frames : List Frame) : Prop :=
  Act.Ends act outcome fun w w' => w'.sink = w.sink ++ concat Frame.bytes frames

namespace Sends

theorem bind {act : Act ByteArray α} {f : α → Act ByteArray β} {x : α} {outcome : Except Failure β}
    {frames frames' : List Frame} (first : Sends act (.ok x) frames)
    (second : Sends (f x) outcome frames') : Sends (act >>= f) outcome (frames ++ frames') := by
  refine Act.Ends.bind first second fun sent sent' => ?_
  rw [sent', sent, concat_append, ByteArray.append_assoc]

/-- Calls are sent as frames. -/
theorem of_does {act : Act ByteArray α} {outcome : Except Failure α} {calls : List Call}
    {reports : List (Descriptor × Run)} (does : Act.Does Link.sink act outcome (calls.map .call) reports)
    (fits : ∀ c ∈ calls, (Frame.ofCall c).Fits) : Sends act outcome (calls.map Frame.ofCall) := by
  refine ⟨does.returns, fun w => ?_⟩
  rw [(does.changes w).sink, Link.sink_after fits]

/-- An act that tells nothing sends nothing. -/
theorem of_quiet {act : Act ByteArray α} {outcome : Except Failure α}
    {reports : List (Descriptor × Run)} (does : Act.Does Link.sink act outcome [] reports) :
    Sends act outcome [] := by
  have nothing : ∀ c ∈ ([] : List Call), (Frame.ofCall c).Fits := by simp
  exact of_does does nothing

theorem tell {c : Call} (fits : (Frame.ofCall c).Fits) :
    Sends (Act.tell Link.sink (.call c)) (.ok ()) [.ofCall c] := by
  have one : ∀ c' ∈ [c], (Frame.ofCall c').Fits := by simpa using fits
  exact of_does (.tell (Link.sink_takes fits)) one

theorem send {f : Frame} (fits : f.Fits) : Sends (Worker.send f) (.ok ()) [f] := by
  have runs (w : World ByteArray) :
      (Worker.send f).run w = (.ok (), { w with sink := w.sink ++ f.bytes }) := by
    rw [Worker.send, Act.run_get_bind, Link.send_eq, if_pos fits]
    rfl
  refine ⟨fun w => ?_, fun w => ?_⟩
  · rw [runs]
  · simp [runs]

/-- The context shows only where an act fails. -/
theorem inContext {act : Act ByteArray α} {x : α} {frames : List Frame} (h : Sends act (.ok x) frames)
    (text : String) : Sends (Worker.inContext text act) (.ok x) frames := by
  refine ⟨fun w => ?_, fun w => ?_⟩
  · rw [Worker.inContext, Act.run_bind_ok (h.attempt.run_eq w)]
    rfl
  · rw [Worker.inContext, Act.run_bind_ok (h.attempt.run_eq w)]
    exact h.attempt.changes w

end Sends

def cycleFrames (d : Descriptor) (s : Script (Option Run)) : List Frame :=
  (s.calls ++ s.exceptions).map .ofCall ++ (s.reports d).map fun report => .report report.1 report.2

def exit (o : Options) : Except Failure (Option Run) → Except Failure Nat
  | .ok _ => .ok 0
  | .error f =>
    match f with
    | .benchmarkFailed .. => .ok (if f.isFatal o.failOnError then 1 else 0)
    | _ => .error f

/-- The call that a worker makes last, unless it panicked. -/
def lastCalls : Except Failure Nat → List Call
  | .ok _ => [.flush]
  | .error _ => []

def farewell : Except Failure Nat → List Frame
  | .ok _ => [.finish]
  | .error _ => []

def frames (d : Descriptor) (s : Script (Option Run)) (exit : Except Failure Nat) : List Frame :=
  .optionsRequest :: (cycleFrames d s ++ (lastCalls exit).map .ofCall)

section

variable {executor : Executor} {d : Descriptor} {p : Params} {o : Options} {s : Script (Option Run)}

theorem work_sends (script : s = Cycle.script executor o.detailed d p)
    (fits : ∀ f ∈ cycleFrames d s, f.Fits) :
    Sends (work executor d p o) (exit o s.outcome) (cycleFrames d s) := by
  have calls_fit : ∀ c ∈ s.calls ++ s.exceptions, (Frame.ofCall c).Fits := fun c hc =>
    fits _ (List.mem_append_left _ (List.mem_map_of_mem hc))
  have own_fit : ∀ c ∈ s.calls, (Frame.ofCall c).Fits := fun c hc =>
    calls_fit c (List.mem_append_left _ hc)
  have takes : ∀ c ∈ s.calls, Link.sink.Takes (.call c) := fun c hc => Link.sink_takes (own_fit c hc)
  have ran := (Sends.of_does (Cycle.run_does executor o.detailed d p script takes) own_fit).attempt
  rcases Cycle.script_ends s script with ⟨outcome, exceptions, reports⟩ |
    ⟨run, outcome, exceptions, reports⟩ | ⟨reason, outcome, exceptions, reports⟩ |
    ⟨outcome, exceptions, reports⟩
  · have frames : cycleFrames d s = s.calls.map .ofCall ++ [] := by
      simp [cycleFrames, exceptions, reports]
    rw [outcome] at ran ⊢
    rw [frames]
    exact Sends.bind ran (Sends.of_quiet (.pure 0))
  · have frames : cycleFrames d s = s.calls.map .ofCall ++ ([.report d run] ++ []) := by
      simp [cycleFrames, exceptions, reports]
    rw [frames] at fits ⊢
    rw [outcome] at ran ⊢
    have sends := Sends.send (fits (.report d run) (by simp))
    exact Sends.bind ran (sends.bind (Sends.of_quiet (.pure 0)))
  · have frames : cycleFrames d s = s.calls.map .ofCall ++
        ([] ++ ([.ofCall (.exception (Failure.benchmarkFailed d reason).message)] ++ [])) := by
      simp [cycleFrames, exceptions, reports]
    rw [frames] at fits ⊢
    rw [outcome] at ran ⊢
    have told_fits := fits (.ofCall (.exception (Failure.benchmarkFailed d reason).message)) (by simp)
    refine Sends.bind ran (Sends.bind (Sends.of_quiet (.log _ _)) ?_)
    exact (Sends.tell told_fits).bind (Sends.of_quiet (.pure _))
  · have frames : cycleFrames d s = s.calls.map .ofCall ++ [] := by
      simp [cycleFrames, exceptions, reports]
    rw [outcome] at ran ⊢
    rw [frames]
    exact Sends.bind ran (Sends.of_quiet (.throw _))

theorem request_sends {reply : List Arrival} (read : Link.readOptions reply = .ok o) :
    Sends (request reply) (.ok o) [.optionsRequest] := by
  have asks : Frame.optionsRequest.Fits := by decide
  have answered : Act.settle ((Link.readOptions reply).mapError .transport) =
      (Act.settle (.ok o) : Act ByteArray Options) := by rw [read]; rfl
  rw [request, answered]
  exact (Sends.send asks).bind (Sends.of_quiet (.settle _))

/-- Behind its cycle a worker flushes and says that it has finished, unless it panicked. -/
theorem closing_sends {act : Act ByteArray Nat} {code : Except Failure Nat} {frames : List Frame}
    (h : Sends act code frames) :
    Sends (do
      let code ← act
      Act.tell Link.sink (.call .flush)
      send .finish
      return code) code (frames ++ ((lastCalls code).map .ofCall ++ farewell code)) := by
  cases code with
  | ok n =>
    have flush_fits : (Frame.ofCall .flush).Fits := by decide
    have finish_fits : Frame.finish.Fits := by decide
    refine h.bind (Sends.bind (Sends.tell flush_fits) (Sends.bind (Sends.send finish_fits) ?_))
    exact Sends.of_quiet (.pure n)
  | error e =>
    rw [lastCalls, farewell, List.map_nil, List.append_nil, List.append_nil]
    exact h.bind_error

/-- A worker that is connected and has read the options sends the request for them, its cycle and
what came of it, and the end. -/
theorem run_sends_of_read {network : Link.Network} {registry : Registry} {args : WorkerArgs}
    {reply : List Arrival} (connected : network args.host args.port = .ok ())
    (read : Link.readOptions reply = .ok o)
    (params : registry.paramsFor args.descriptor
      (o.withCounts args.warmupCount args.measurementCount) = .ok p)
    (script : s = Cycle.script executor o.detailed args.descriptor p)
    (cycle_fits : ∀ f ∈ cycleFrames args.descriptor s, f.Fits) :
    Sends (run network registry executor args reply) (exit o s.outcome)
      (frames args.descriptor s (exit o s.outcome) ++ farewell (exit o s.outcome)) := by
  have connects : Sends (inContext (s!"Failed to connect to parent at {args.host}:{args.port}")
      (Act.settle ((Link.connect network args.host args.port).mapError .transport))) (.ok ()) [] := by
    rw [Link.connect, connected]
    exact (Sends.of_quiet (.settle (.ok ()))).inContext _
  have requests := (request_sends read).inContext
    "Failed to receive run options from parent"
  have settles : Sends (Act.settle (registry.paramsFor args.descriptor
      (o.withCounts args.warmupCount args.measurementCount))) (.ok p) [] := by
    rw [params]
    exact Sends.of_quiet (.settle _)
  have logs : Sends (Act.log .info ("Worker running " ++ args.descriptor.text)) (.ok ()) [] :=
    Sends.of_quiet (.log _ _)
  have works : Sends (work executor args.descriptor p
      (o.withCounts args.warmupCount args.measurementCount)) (exit o s.outcome)
      (cycleFrames args.descriptor s) := work_sends script cycle_fits
  have ends := closing_sends works
  rw [frames, List.cons_append, List.append_assoc]
  -- The request stands between acts that send nothing.
  change Sends _ _ ([] ++ ([.optionsRequest] ++ ([] ++ ([] ++ (cycleFrames args.descriptor s ++ _)))))
  exact connects.bind (Sends.bind requests (Sends.bind settles (Sends.bind logs ends)))

/-- So does a worker that is sent the options. -/
theorem run_sends {network : Link.Network} {registry : Registry} {args : WorkerArgs}
    {reply : List Arrival} {back : ByteArray} (connected : network args.host args.port = .ok ())
    (fits : (Frame.optionsResponse o).Fits) (sound : ∀ a ∈ reply, a.Sound .blocking)
    (carries : Stream.content reply = (Frame.optionsResponse o).bytes ++ back)
    (params : registry.paramsFor args.descriptor
      (o.withCounts args.warmupCount args.measurementCount) = .ok p)
    (script : s = Cycle.script executor o.detailed args.descriptor p)
    (cycle_fits : ∀ f ∈ cycleFrames args.descriptor s, f.Fits) :
    Sends (run network registry executor args reply) (exit o s.outcome)
      (frames args.descriptor s (exit o s.outcome) ++ farewell (exit o s.outcome)) := by
  exact run_sends_of_read connected (Link.readOptions_eq_ok fits sound carries) params script cycle_fits

end

section

variable {d : Descriptor} {s : Script (Option Run)} {code : Except Failure Nat}

/-- A worker asks for the options, makes calls and reports. -/
theorem frames_cases {f : Frame} (mem : f ∈ frames d s code) :
    f = .optionsRequest ∨ (∃ c ∈ s.calls ++ s.exceptions ++ lastCalls code, f = .ofCall c) ∨
      ∃ report ∈ s.reports d, f = .report report.1 report.2 := by
  rcases List.mem_cons.1 mem with request | more
  · exact .inl request
  rcases List.mem_append.1 more with cycle | last
  · rcases List.mem_append.1 cycle with call | report
    · obtain ⟨c, hc, rfl⟩ := List.mem_map.1 call
      exact .inr (.inl ⟨c, List.mem_append_left _ hc, rfl⟩)
    · obtain ⟨r, hr, rfl⟩ := List.mem_map.1 report
      exact .inr (.inr ⟨r, hr, rfl⟩)
  · obtain ⟨c, hc, rfl⟩ := List.mem_map.1 last
    exact .inr (.inl ⟨c, List.mem_append_right _ hc, rfl⟩)

theorem lastCalls_fit : ∀ c ∈ lastCalls code, (Frame.ofCall c).Fits := by
  have flush_fits : (Frame.ofCall .flush).Fits := by decide
  cases code with
  | ok n => simpa [lastCalls] using flush_fits
  | error e => simp [lastCalls]

variable (calls_fit : ∀ c ∈ s.calls ++ s.exceptions, (Frame.ofCall c).Fits)

include calls_fit

theorem cycleFrames_fit
    (reports_fit : ∀ report ∈ s.reports d, (Frame.report report.1 report.2).Fits) :
    ∀ f ∈ cycleFrames d s, f.Fits := by
  intro f hf
  rcases List.mem_append.1 hf with call | report
  · obtain ⟨c, hc, rfl⟩ := List.mem_map.1 call
    exact calls_fit c hc
  · obtain ⟨r, hr, rfl⟩ := List.mem_map.1 report
    exact reports_fit r hr

theorem frames_fit (reports_fit : ∀ report ∈ s.reports d, (Frame.report report.1 report.2).Fits) :
    ∀ f ∈ frames d s code ++ farewell code, f.Fits := by
  have request_fits : Frame.optionsRequest.Fits := by decide
  have finish_fits : Frame.finish.Fits := by decide
  intro f hf
  rcases List.mem_append.1 hf with before | last
  · rcases List.mem_cons.1 before with rfl | more
    · exact request_fits
    rcases List.mem_append.1 more with cycle | call
    · exact cycleFrames_fit calls_fit reports_fit f cycle
    · obtain ⟨c, hc, rfl⟩ := List.mem_map.1 call
      exact lastCalls_fit c hc
  · cases code with
    | ok n => rwa [List.mem_singleton.1 last]
    | error e => contradiction

theorem forwarded_frames : (frames d s code).flatMap Frame.forwarded =
    (s.calls ++ s.exceptions ++ lastCalls code).map .call := by
  have quiet : ((s.reports d).map fun report => Frame.report report.1 report.2).flatMap
      Frame.forwarded = [] := by
    simp [List.flatMap_map, Frame.forwarded]
  rw [frames, List.flatMap_cons, List.flatMap_append, cycleFrames, List.flatMap_append,
    Frame.forwarded_ofCalls calls_fit, quiet, Frame.forwarded_ofCalls lastCalls_fit, List.append_nil,
    ← List.map_append]
  rfl

omit calls_fit

theorem reports_frames : (frames d s code).flatMap Frame.reports = s.reports d := by
  have own : ((s.reports d).map fun report => Frame.report report.1 report.2).flatMap
      Frame.reports = s.reports d := by
    simp [List.flatMap_map, Frame.reports]
  rw [frames, List.flatMap_cons, List.flatMap_append, cycleFrames, List.flatMap_append,
    Frame.reports_ofCalls, own, Frame.reports_ofCalls, List.append_nil]
  rfl

end

end Worker

end Microbench
