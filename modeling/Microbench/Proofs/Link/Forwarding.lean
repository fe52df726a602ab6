import Microbench.Proofs.WorkerFrames

/-!
What a worker's sink is told reaches the parent's sink, call by call and unchanged. The start and the
end of the whole run stay with the worker.
-/

namespace Microbench

open Wire

/-- The start or the end of the whole run, which are never sent. -/
def Event.isBracket : Event → Bool
  | .runStart | .runEnd _ => true
  | .call _ => false

def Event.calls (events : List Event) : List Call := events.filterMap Event.call?

namespace Event

theorem mem_calls {events : List Event} {c : Call} : c ∈ calls events ↔ .call c ∈ events := by
  constructor
  · intro mem
    obtain ⟨e, he, call⟩ := List.mem_filterMap.1 mem
    cases e with
    | call d =>
      obtain rfl : d = c := Option.some.inj call
      exact he
    | runStart | runEnd => contradiction
  · exact fun mem => List.mem_filterMap.2 ⟨_, mem, rfl⟩

/-- Without the brackets only calls are left. -/
theorem map_calls (events : List Event) : (calls events).map .call = events.filter (!·.isBracket) := by
  induction events with
  | nil => rfl
  | cons e events ih =>
    cases e with
    | call c => exact congrArg (.call c :: ·) ih
    | runStart | runEnd => exact ih

end Event

namespace Link

/-- A worker's sink takes every event whose frame is small enough, and a bracket in any case. -/
theorem sink_takes_event {e : Event} (fits : ∀ c, e = .call c → (Frame.ofCall c).Fits) :
    sink.Takes e := by
  cases e with
  | call c => exact sink_takes (fits c rfl)
  | runStart | runEnd => exact fun _ => rfl

/-- A bracket leaves what was sent as it is. -/
theorem sink_after_calls (events : List Event) (sent : ByteArray) :
    sink.after events sent = sink.after ((Event.calls events).map .call) sent := by
  induction events generalizing sent with
  | nil => rfl
  | cons e events ih =>
    cases e with
    | call c => exact ih (sink (.call c) sent).2
    | runStart | runEnd => exact ih sent

/-- Calls are not answered. -/
theorem Handler.concat_answer_ofCalls {σ : Type} (h : Handler σ) (calls : List Call) :
    concat h.answer (calls.map Frame.ofCall) = .empty := by
  induction calls with
  | nil => rfl
  | cons c calls ih =>
    rw [List.map_cons, concat_cons, ih, ByteArray.append_empty]
    rfl

/-- A worker's sink is told any events, and its bytes come to a handler however they are cut, until
the connection is closed or the worker says that it has finished. As long as the frames are small
enough, the worker's sink takes all it is told, and the handler's sink is told the same events
without the brackets and nothing else. Every call that a machine can hold is read back from its name
and arguments. -/
theorem recorded_of_told (options : Options) (number : Nat) (events : List Event)
    (fits : ∀ c, .call c ∈ events → (Frame.ofCall c).Fits) (last : List Frame)
    (end_only : last = [] ∨ last = [.finish]) (arrivals : List Arrival)
    (sound : ∀ a ∈ arrivals, a.Sound .async)
    (carries : Stream.content arrivals = sink.after events .empty ++ concat Frame.bytes last)
    (w : World (Array Event)) :
    let handled := (Handler.serve ⟨Sink.recording, options, number⟩ arrivals).run w
    (∀ e ∈ events, sink.Takes e) ∧ handled.1 = .ok .empty ∧
      handled.2.sink = w.sink ++ (events.filter (!·.isBracket)).toArray ∧
      handled.2.told = w.told ++ events.filter (!·.isBracket) ∧ handled.2.store = w.store ∧
      ∀ c : Call, c.args.size < 1 <<< 64 → Call.decode c.method.name c.args = .ok c := by
  intro handled
  have own_fit : ∀ c ∈ Event.calls events, (Frame.ofCall c).Fits := fun c hc =>
    fits c (Event.mem_calls.1 hc)
  have sent : Stream.content arrivals =
      concat Frame.bytes ((Event.calls events).map Frame.ofCall ++ last) := by
    rw [carries, sink_after_calls, sink_after own_fit, ByteArray.empty_append, concat_append]
  have frames_fit : ∀ f ∈ (Event.calls events).map Frame.ofCall ++ last, f.Fits := by
    intro f hf
    rcases List.mem_append.1 hf with call | final
    · obtain ⟨c, hc, rfl⟩ := List.mem_map.1 call
      exact own_fit c hc
    · have finish_fits : Frame.finish.Fits := by decide
      rcases end_only with rfl | rfl
      · contradiction
      · rwa [List.mem_singleton.1 final]
  have serves := Handler.serve_does ⟨Sink.recording, options, number⟩ sound frames_fit sent
  have going : ∀ f ∈ (Event.calls events).map Frame.ofCall,
      Handler.stops ⟨Sink.recording, options, number⟩ f = false := by
    intro f hf
    obtain ⟨c, -, rfl⟩ := List.mem_map.1 hf
    rfl
  rw [Handler.served_of_going _ going end_only, Frame.forwarded_ofCalls own_fit,
    Frame.reports_ofCalls, Event.map_calls] at serves
  have through := serves.changes w
  refine ⟨fun e he => sink_takes_event fun c call => fits c (call ▸ he), ?_, ?_, through.told,
    through.store, fun c => Call.decode_args c⟩
  · rw [← Handler.concat_answer_ofCalls ⟨Sink.recording, options, number⟩ (Event.calls events)]
    exact serves.returns w
  · exact through.sink.trans (Sink.after_recording _ _)

/-- A worker tells its sink of an iteration between brackets, writes three bytes that are no text,
prints a line that reads like another call, and says in two pieces that it has finished. -/
theorem recorded_of_told_of_bracketed :
    let d : Descriptor := ⟨"größe", .singleShot, 4294967295⟩
    let value : Value := ⟨"größe", .nanoseconds, .singleShot 1 18446744073709551615⟩
    let sample : Sample := ⟨1, .measurement, 9, value, ∅, [value, value], ∅⟩
    let params : Params := ⟨⟨5, .ofSeconds 1⟩, ⟨5, .ofSeconds 1⟩, 1, true, .seconds, 1, 0⟩
    let calls : List Call := [.iterationEnd d params 1 .measurement sample,
      .writeBytes ⟨#[255, 0, 128]⟩, .println "flush", .benchmarkEnd d none, .close]
    let events : List Event := [.runEnd .empty, .runStart] ++ calls.map .call ++ [.runStart]
    let arrivals : List Arrival :=
      [.bytes (sink.after events .empty), .bytes ⟨#[4, 0]⟩, .bytes ⟨#[0, 0, 4, 0, 0, 0]⟩]
    (∀ c, .call c ∈ events → (Frame.ofCall c).Fits) ∧
      ((Handler.serve ⟨Sink.recording, {}, 1⟩ arrivals).run (World.start #[.runStart])).2.sink =
        #[.runStart] ++ (calls.map .call).toArray := by
  intro d value sample params calls events arrivals
  have calls_fit : ∀ c ∈ calls, (Frame.ofCall c).Fits := by decide +kernel
  have fits : ∀ c, .call c ∈ events → (Frame.ofCall c).Fits := fun c hc =>
    calls_fit c (by simpa [events] using hc)
  have finish : (⟨#[4, 0]⟩ ++ (⟨#[0, 0, 4, 0, 0, 0]⟩ ++ .empty) : ByteArray) =
      concat Frame.bytes [.finish] := by decide
  have carries : Stream.content arrivals =
      sink.after events .empty ++ concat Frame.bytes [.finish] := by
    rw [← finish]
    simp only [arrivals, Stream.content]
  obtain ⟨-, -, recorded, -⟩ := recorded_of_told {} 1 events fits [.finish] (.inr rfl) arrivals
    (by simp [arrivals, Arrival.Sound]) carries (World.start #[.runStart])
  have kept : events.filter (!·.isBracket) = calls.map .call := rfl
  rw [kept] at recorded
  exact ⟨fits, recorded⟩

end Link

end Microbench
