import Microbench.Proofs.Effect
import Microbench.Proofs.Link.Delivery

/-!
What a handler does with frames. Each frame stands for calls on the sink, reports and an answer of
its own, whatever the sink makes of the calls; a handler does what the frames before the first
stopping one stand for, in order (`Handler.handle_does`).
-/

namespace Microbench

open Wire

namespace Frame

def forwarded : Frame → List Event
  | outputCall method args =>
    match Call.decode method args with
    | .ok call => [.call call]
    | .error (.forbidden _) => []
    | .error e => [.call (.println ("WARNING: " ++ e.message))]
  | _ => []

def reports : Frame → List (Descriptor × Run)
  | report d run => [(d, run)]
  | _ => []

theorem forwarded_ofCall {c : Call} (fits : (ofCall c).Fits) : (ofCall c).forwarded = [.call c] := by
  have small : c.args.size < 1 <<< 64 := by
    rw [Fits, ofCall, size_payload_outputCall] at fits
    exact Nat.lt_of_le_of_lt (by omega : c.args.size ≤ Link.maxFrame) (by decide)
  simp [ofCall, forwarded, Call.decode_args c small]

theorem forwarded_ofCalls {calls : List Call} (fits : ∀ c ∈ calls, (ofCall c).Fits) :
    (calls.map ofCall).flatMap forwarded = calls.map .call := by
  induction calls with
  | nil => rfl
  | cons c calls ih =>
    rw [List.map_cons, List.flatMap_cons, forwarded_ofCall (fits c List.mem_cons_self),
      ih fun c hc => fits c (List.mem_cons_of_mem _ hc)]
    rfl

theorem reports_ofCalls (calls : List Call) : (calls.map ofCall).flatMap reports = [] := by
  refine List.flatMap_eq_nil_iff.2 fun f hf => ?_
  obtain ⟨c, -, rfl⟩ := List.mem_map.1 hf
  rfl

end Frame

namespace Link.Handler

variable {σ : Type} (h : Handler σ)

/-- What comes of a frame does not depend on the world. -/
def reaction : Frame → Reaction
  | .optionsRequest =>
    match h.response with
    | .ok bytes => .answer bytes
    | .error e => .stop (some e)
  | .report .. | .outputCall .. => .answer .empty
  | .finish => .stop none
  | .optionsResponse o => .stop (some (unexpected (.optionsResponse o)))

def answer (f : Frame) : ByteArray :=
  match h.reaction f with
  | .answer bytes => bytes
  | .stop _ => .empty

theorem reaction_of_not_stops {f : Frame} (going : h.stops f = false) :
    h.reaction f = .answer (h.answer f) := by
  cases f with
  | optionsRequest =>
    cases reply : h.response with
    | ok bytes => simp [answer, reaction, reply]
    | error e => simp [stops, reply, Except.toOption] at going
  | report d run => rfl
  | outputCall method args => rfl
  | finish | optionsResponse => contradiction

theorem reaction_of_stops {f : Frame} (stopping : h.stops f = true) :
    ∃ e, h.reaction f = .stop e := by
  cases f with
  | optionsRequest =>
    cases reply : h.response with
    | ok bytes => simp [stops, reply, Except.toOption] at stopping
    | error e => exact ⟨some e, by simp [reaction, reply]⟩
  | finish => exact ⟨none, rfl⟩
  | optionsResponse o => exact ⟨_, rfl⟩
  | report | outputCall => contradiction

theorem response_eq (options_fit : (Frame.optionsResponse h.options).Fits) :
    h.response = .ok (Frame.optionsResponse h.options).bytes := by
  rw [response, Frame.encode_eq, if_pos options_fit]

/-- Every request for the options is answered, and nothing else is. -/
theorem concat_answer (options_fit : (Frame.optionsResponse h.options).Fits) (frames : List Frame) :
    concat h.answer frames =
    concat (fun _ => (Frame.optionsResponse h.options).bytes)
      (frames.filter (· = .optionsRequest)) := by
  induction frames with
  | nil => rfl
  | cons f frames ih =>
    rw [concat_cons, ih]
    cases f with
    | optionsRequest => simp [answer, reaction, h.response_eq options_fit]
    | outputCall | report | finish | optionsResponse => simp [answer, reaction]

/-- A frame that ends a connection stands for no call and no report. -/
theorem nothing_of_stops {f : Frame} (stopping : h.stops f = true) :
    f.forwarded = [] ∧ f.reports = [] := by
  cases f <;> first | exact ⟨rfl, rfl⟩ | contradiction

/-- A call is made once, and a refusal is only logged. -/
theorem pass_does (e : Event) (logged : String) :
    Act.Does h.sink (h.pass e logged) (.ok ()) [e] [] := by
  have passes (w : World σ) : ((h.pass e logged).run w).1 = .ok () ∧
      w.Grown h.sink [e] [] ((h.pass e logged).run w).2 := by
    have told := World.Grown.tell h.sink e w
    rw [pass, Act.run_bind_ok (Act.run_attempt _ w)]
    cases ((Act.tell h.sink e).run w).1 with
    | ok _ => exact ⟨rfl, told⟩
    | error f =>
      have logs : Act.Does h.sink (Act.log .warn (logged ++ ": " ++ f.fullText)) (.ok ()) [] [] :=
        .log _ _
      exact ⟨logs.returns _, told.trans (logs.changes _)⟩
  exact ⟨fun w => (passes w).1, fun w => (passes w).2⟩

theorem forward_does (method : String) (args : ByteArray) :
    Act.Does h.sink (h.forward method args) (.ok ()) (Frame.outputCall method args).forwarded [] := by
  simp only [forward, Frame.forwarded]
  cases decoded : Call.decode method args with
  | ok call => exact h.pass_does _ _
  | error e =>
    cases e with
    | forbidden name => exact .log _ _
    | unknown name => exact (Act.Does.log _ _).bind (h.pass_does _ _)
    | badArguments name reason => exact (Act.Does.log _ _).bind (h.pass_does _ _)

theorem react_does (f : Frame) :
    Act.Does h.sink (h.react f) (.ok (h.reaction f)) f.forwarded f.reports := by
  cases f with
  | optionsRequest =>
    unfold react reaction
    cases h.response <;> exact .pure _
  | report d run => exact (Act.Does.merge d run).bind (.pure _)
  | outputCall method args =>
    have act := (h.forward_does method args).bind (f := fun _ => pure (Reaction.answer .empty)) (.pure _)
    rwa [List.append_nil] at act
  | finish => exact .pure _
  | optionsResponse o => exact .pure _

theorem close_does (e : Option LinkError) : Act.Does h.sink (h.close e) (.ok ()) [] [] := by
  cases e with
  | none => exact .pure _
  | some e => exact .log _ _

theorem served_cons (f : Frame) (rest : List Frame) :
    h.served (f :: rest) = if h.stops f then [] else f :: h.served rest := by
  cases stopping : h.stops f <;> simp [served, stopping]

/-- A handler does what the frames before the first stopping one stand for, and writes back their
answers, however the connection ends. -/
theorem handle_does (frames : List Frame) (error : Option LinkError) :
    Act.Does h.sink (h.handle frames error) (.ok (concat h.answer (h.served frames)))
      ((h.served frames).flatMap Frame.forwarded) ((h.served frames).flatMap Frame.reports) := by
  induction frames with
  | nil => exact (h.close_does error).bind (.pure _)
  | cons f rest ih =>
    have first := h.react_does f
    rw [served_cons, handle]
    cases stopping : h.stops f with
    | true =>
      obtain ⟨e, reacted⟩ := h.reaction_of_stops stopping
      obtain ⟨quiet, quiet'⟩ := h.nothing_of_stops stopping
      rw [reacted, quiet, quiet'] at first
      exact first.bind ((h.close_does e).bind (.pure _))
    | false =>
      rw [h.reaction_of_not_stops stopping] at first
      have others := ih.bind (f := fun more => pure (h.answer f ++ more)) (.pure _)
      rw [List.append_nil, List.append_nil] at others
      rw [if_neg Bool.false_ne_true, concat_cons, List.flatMap_cons, List.flatMap_cons]
      exact first.bind others

/-- A handler serves the frames that were written, however their bytes arrive. -/
theorem serve_does {arrivals : List Arrival} (sound : ∀ a ∈ arrivals, a.Sound .async)
    {frames : List Frame} (fits : ∀ f ∈ frames, f.Fits)
    (carries : Stream.content arrivals = concat Frame.bytes frames) :
    Act.Does h.sink (h.serve arrivals) (.ok (concat h.answer (h.served frames)))
      ((h.served frames).flatMap Frame.forwarded) ((h.served frames).flatMap Frame.reports) := by
  rw [serve, Stream.frames_of_bytes fits sound carries]
  exact h.handle_does frames none

/-- Everything up to the end that a worker announces is served, and all of it if there is none. -/
theorem served_of_going {frames last : List Frame} (going : ∀ f ∈ frames, h.stops f = false)
    (end_only : last = [] ∨ last = [.finish]) : h.served (frames ++ last) = frames := by
  have front : ∀ f ∈ frames, (!h.stops f) = true := fun f hf => by simp [going f hf]
  rw [served, List.takeWhile_append_of_pos front]
  rcases end_only with rfl | rfl
  · simp
  · simp [stops]

end Link.Handler

end Microbench
