import Microbench.Proofs.Link.Handling

/-!
Whatever arrives on a connection. A handler does what the frames in front of the first last one
stand for, where the last one is the end that a worker announces, a frame that no worker sends, or
a packet that holds no frame; how the connection ends behind them does not matter.
-/

namespace Microbench

open Wire

theorem Wire.Reader.exists_of_map_eq_ok {α β : Type} {f : α → β} {r : Reader α} {bytes : ByteArray}
    {i j : Nat} {y : β} (h : r.map f bytes i = .ok (y, j)) : ∃ x, f x = y := by
  unfold Reader.map Reader.andThen at h
  split at h
  · contradiction
  · exact ⟨_, congrArg Prod.fst (Except.ok.inj h)⟩

theorem Method.method_of_reader {m : Method} {bytes : ByteArray} {i j : Nat} {c : Call}
    (h : m.reader bytes i = .ok (c, j)) : c.method = m := by
  cases m with
  | flush | close =>
    obtain rfl := congrArg Prod.fst (Except.ok.inj h)
    rfl
  | _ =>
    obtain ⟨x, rfl⟩ := Reader.exists_of_map_eq_ok h
    rfl

namespace Call

/-- A call that was read is one of the method that was named. -/
theorem name_of_decode {method : String} {args : ByteArray} {c : Call} (h : decode method args = .ok c) :
    c.method.name = method := by
  unfold decode at h
  split at h
  · contradiction
  · cases found : Method.ofName? method with
    | none => simp [found] at h
    | some m =>
      have named : m.name = method := by simpa using List.find?_some found
      rw [found] at h
      simp only at h
      split at h
      · rename_i read
        obtain rfl := Except.ok.inj h
        rw [Method.method_of_reader read, named]
      · contradiction

/-- Only the names that belong to the parent are forbidden. -/
theorem mem_parentOnly_of_decode {method name : String} {args : ByteArray}
    (h : decode method args = .error (.forbidden name)) : method ∈ Event.parentOnly := by
  unfold decode at h
  split at h
  · rename_i shared
    exact List.contains_iff_mem.1 shared
  · split at h
    · simp at h
    · split at h <;> simp at h

end Call

/-- What a handler makes of a call: the call that was sent, one warning if there is none, and nothing
at all for the start and the end of the whole run. -/
theorem Frame.forwarded_outputCall (method : String) (args : ByteArray) :
    (outputCall method args).forwarded =
      if method = "run_start" ∨ method = "run_end" then []
      else match Call.decode method args with
        | .ok c => [.call c]
        | .error e => [.call (.println ("WARNING: " ++ e.message))] := by
  by_cases parents : method = "run_start" ∨ method = "run_end"
  · rw [if_pos parents]
    rcases parents with rfl | rfl <;> rfl
  · rw [if_neg parents]
    simp only [forwarded]
    cases read : Call.decode method args with
    | ok c => rfl
    | error e =>
      cases e with
      | forbidden name =>
        exact absurd (by simpa [Event.parentOnly] using Call.mem_parentOnly_of_decode read) parents
      | unknown | badArguments => rfl

def Frame.isLast : Frame → Bool
  | finish | optionsResponse _ => true
  | outputCall .. | optionsRequest | report .. => false

namespace Stream

def Ends : List Arrival → Prop
  | [] => True
  | a :: _ => ¬ a.Sound .async

/-- Packets with these payloads arrive, in pieces that are cut anywhere, and behind them less than
one more packet before the connection ends. -/
structure Brings (pieces broken : List Arrival) (payloads : List ByteArray) (rest : ByteArray) :
    Prop where
  sound : ∀ a ∈ pieces, a.Sound .async
  ends : Ends broken
  short : ∀ payload ∈ payloads, payload.size < 1 <<< 32
  carries : content pieces = concat Link.packet payloads ++ rest
  incomplete : rest.size < 4 + lengthOf rest

/-- The frames of packets up to the first one that holds none, and what goes wrong there. Behind all
packets it is `error` that goes wrong. -/
def framesOf (error : Option LinkError) : List ByteArray → List Frame × Option LinkError
  | [] => ([], error)
  | payload :: payloads =>
    match Frame.ofPacket payload with
    | .ok f => (f :: (framesOf error payloads).1, (framesOf error payloads).2)
    | .error e => ([], some e)

/-- Where too few bytes come before the end, they are counted or the failure is passed on. -/
theorem filled_of_ends {pieces broken : List Arrival} (sound : ∀ a ∈ pieces, a.Sound .async)
    (ends : Ends broken) {wanted : Nat} (short : (content pieces).size < wanted) (got : ByteArray) :
    (broken = [] ∧
        Filled.of .async wanted got (pieces ++ broken) = .ended (got ++ content pieces).size) ∨
      (broken ≠ [] ∧ ∃ reason, Filled.of .async wanted got (pieces ++ broken) = .failed reason) := by
  obtain ⟨left, missing⟩ : ∃ left, wanted - (content pieces).size = left + 1 :=
    Nat.exists_eq_succ_of_ne_zero (by omega)
  rw [filled_of_short sound short, missing]
  cases broken with
  | nil => exact .inl ⟨rfl, rfl⟩
  | cons a broken =>
    cases a with
    | bytes piece => exact absurd trivial ends
    | interrupted => exact .inr ⟨List.cons_ne_nil _ _, _, rfl⟩
    | failed reason => exact .inr ⟨List.cons_ne_nil _ _, reason, rfl⟩

theorem littleEndian_append (first second : ByteArray) (width i : Nat) (within : i + width ≤ first.size) :
    Reader.littleEndian (first ++ second) i width = Reader.littleEndian first i width := by
  induction width generalizing i with
  | zero => rfl
  | succ width ih =>
    have here : (first ++ second)[i]? = first[i]? := by
      rw [getElem?_eq_data, getElem?_eq_data, ByteArray.data_append]
      exact Array.getElem?_append_left (by have : first.data.size = first.size := rfl; omega)
    rw [Reader.littleEndian, Reader.littleEndian, here, ih (i + 1) (by omega)]

def Next.stop : Option LinkError → Next
  | none => .finished
  | some e => .failed e

theorem frames_of_next_stop {style : ReadStyle} {arrivals : List Arrival} {error : Option LinkError}
    (h : next style arrivals = Next.stop error) : frames style arrivals = ([], error) := by
  cases error with
  | none => exact frames_of_next_finished h
  | some e =>
    rw [frames]
    split <;> simp_all [Next.stop]

/-- Less than a packet is no frame, and nothing at all is a good end. -/
theorem next_of_incomplete {pieces broken : List Arrival} {rest : ByteArray}
    (brings : Brings pieces broken [] rest) :
    ∃ error, next .async (pieces ++ broken) = Next.stop error ∧
      (rest = .empty → broken = [] → error = none) := by
  have carries : content pieces = rest := by simpa using brings.carries
  have incomplete := brings.incomplete
  rw [← carries] at incomplete ⊢
  by_cases short : (content pieces).size < 4
  · -- The connection ends within the length of a packet.
    unfold next
    rcases filled_of_ends brings.sound brings.ends short .empty with
      ⟨-, ended⟩ | ⟨broke, reason, failed⟩
    · rw [ended, ByteArray.empty_append]
      cases size : (content pieces).size with
      | zero => exact ⟨none, rfl, fun _ _ => rfl⟩
      | succ n => exact ⟨some _, rfl, fun nothing => by simp [nothing] at size⟩
    · rw [failed]
      exact ⟨some _, rfl, fun _ closed => absurd closed broke⟩
  · -- It ends within a payload.
    obtain ⟨front, back, split, four⟩ : ∃ front back, content pieces = front ++ back ∧ front.size = 4 := by
      refine ⟨_, _, eq_extract_append_extract (content pieces) (n := 4) (by omega), ?_⟩
      rw [ByteArray.size_extract]; omega
    obtain ⟨later, first, carries, sound⟩ := filled_eq_full brings.sound split .empty broken
    have fewer : (content later).size < lengthOf front := by
      have sizes := congrArg ByteArray.size split
      have length : lengthOf (front ++ back) = lengthOf front :=
        littleEndian_append front back 4 0 (by omega)
      rw [split, length, ← split] at incomplete
      rw [ByteArray.size_append, four] at sizes
      rw [carries]; omega
    have something : content pieces ≠ .empty := fun nothing => by simp [nothing] at short
    unfold next
    rw [← four, first, ByteArray.empty_append]
    simp only
    split
    · exact ⟨some _, rfl, fun nothing => absurd nothing something⟩
    · rcases filled_of_ends sound brings.ends fewer .empty with ⟨-, ended⟩ | ⟨-, reason, failed⟩
      · rw [ended]
        exact ⟨some _, rfl, fun nothing => absurd nothing something⟩
      · rw [failed]
        exact ⟨some _, rfl, fun nothing => absurd nothing something⟩

/-- The frames of packets are read up to the first packet that holds none, and the connection ends
well if nothing comes behind them. -/
theorem frames_of_brings {payloads : List ByteArray} {pieces broken : List Arrival} {rest : ByteArray}
    (brings : Brings pieces broken payloads rest) :
    ∃ error, frames .async (pieces ++ broken) = framesOf error payloads ∧
      (rest = .empty → broken = [] → error = none) := by
  induction payloads generalizing pieces with
  | nil =>
    obtain ⟨error, stops, clean⟩ := next_of_incomplete brings
    exact ⟨error, frames_of_next_stop stops, clean⟩
  | cons payload payloads ih =>
    have carries := brings.carries
    rw [concat_cons, ByteArray.append_assoc] at carries
    obtain ⟨later, reads, carries, sound⟩ :=
      next_eq_ofPacket brings.sound (brings.short payload List.mem_cons_self) carries broken
    have others : Brings later broken payloads rest :=
      { brings with
        sound, carries
        short := fun p hp => brings.short p (List.mem_cons_of_mem _ hp) }
    obtain ⟨error, frames, clean⟩ := ih others
    refine ⟨error, ?_, clean⟩
    unfold framesOf
    cases held : Frame.ofPacket payload with
    | ok f =>
      rw [held] at reads
      rw [frames_of_next_frame reads, frames]
    | error e =>
      rw [held] at reads
      have stops : next .async (pieces ++ broken) = Next.stop (some e) := reads
      exact frames_of_next_stop stops

end Stream

/-- The frames of packets before the first one that is the last a handler looks at, or holds none. -/
def Frame.heard : List ByteArray → List Frame
  | [] => []
  | payload :: payloads =>
    match ofPacket payload with
    | .ok f => if f.isLast then [] else f :: heard payloads
    | .error _ => []

/-- Frames that were sent are heard, as long as none of them is the last. -/
theorem Frame.heard_append {frames : List Frame} (fits : ∀ f ∈ frames, f.Fits)
    (going : ∀ f ∈ frames, f.isLast = false) (payloads : List ByteArray) :
    heard (frames.map payload ++ payloads) = frames ++ heard payloads := by
  induction frames with
  | nil => rfl
  | cons f frames ih =>
    have later := ih (fun g hg => fits g (List.mem_cons_of_mem _ hg))
      fun g hg => going g (List.mem_cons_of_mem _ hg)
    rw [List.map_cons, List.cons_append, heard, ofPacket_payload (fits f List.mem_cons_self)]
    simp only [going f List.mem_cons_self, later]
    rfl

namespace Link.Handler

variable {σ : Type} (h : Handler σ)

/-- Handlers whose options can be sent stop at the last frames and at no others. -/
theorem stops_eq_isLast (options_fit : (Frame.optionsResponse h.options).Fits) (f : Frame) :
    h.stops f = f.isLast := by
  cases f with
  | optionsRequest => simp [stops, h.response_eq options_fit, Except.toOption, Frame.isLast]
  | outputCall | report | finish | optionsResponse => rfl

theorem served_framesOf (options_fit : (Frame.optionsResponse h.options).Fits) (error : Option LinkError)
    (payloads : List ByteArray) :
    h.served (Stream.framesOf error payloads).1 = Frame.heard payloads := by
  induction payloads with
  | nil => rfl
  | cons payload payloads ih =>
    unfold Stream.framesOf Frame.heard
    cases Frame.ofPacket payload with
    | ok f => simp only [served_cons, h.stops_eq_isLast options_fit, ih]
    | error e => rfl

/-- A handler does nothing on a last frame but close. -/
theorem handle_of_isLast {f : Frame} (last : f.isLast) (frames : List Frame) (error : Option LinkError) :
    h.handle (f :: frames) error = h.handle [f] none := by
  cases f <;> first | rfl | contradiction

/-- Behind a packet that is the last, or holds no frame, nothing is looked at. -/
theorem handle_append {payloads : List ByteArray}
    (closed : ∃ payload ∈ payloads, ∀ f, Frame.ofPacket payload = .ok f → f.isLast)
    (more : List ByteArray) (error error' : Option LinkError) :
    h.handle (Stream.framesOf error (payloads ++ more)).1 (Stream.framesOf error (payloads ++ more)).2 =
      h.handle (Stream.framesOf error' payloads).1 (Stream.framesOf error' payloads).2 := by
  induction payloads with
  | nil => simp at closed
  | cons payload payloads ih =>
    rw [List.cons_append]
    unfold Stream.framesOf
    cases held : Frame.ofPacket payload with
    | error e => rfl
    | ok f =>
      by_cases last : f.isLast
      · simp only
        rw [h.handle_of_isLast last, h.handle_of_isLast last (Stream.framesOf error' payloads).1]
      · have later : ∃ p ∈ payloads, ∀ f, Frame.ofPacket p = .ok f → f.isLast := by
          obtain ⟨p, hp, ends⟩ := closed
          rcases List.mem_cons.1 hp with rfl | hp
          · exact absurd (ends f held) last
          · exact ⟨p, hp, ends⟩
        simp only [handle, ih later]

/-- The end of a connection comes to the same as the end that a worker announces. -/
theorem handle_finish (payloads more : List ByteArray) (error : Option LinkError) :
    h.handle (Stream.framesOf error (payloads ++ Frame.finish.payload :: more)).1
        (Stream.framesOf error (payloads ++ Frame.finish.payload :: more)).2 =
      h.handle (Stream.framesOf none payloads).1 (Stream.framesOf none payloads).2 := by
  induction payloads with
  | nil =>
    have finish : Frame.ofPacket Frame.finish.payload = .ok .finish := Frame.ofPacket_payload (by decide)
    rw [List.nil_append]
    unfold Stream.framesOf
    rw [finish]
    rfl
  | cons payload payloads ih =>
    rw [List.cons_append]
    unfold Stream.framesOf
    cases Frame.ofPacket payload with
    | error e => rfl
    | ok f => simp only [handle, ih]

/-- Packets arrive on a connection, cut anywhere, and then it ends or breaks. Whatever the handler's
sink refuses, the handler does what the frames before the first last one stand for, in their order:
it writes back the options for each request, makes the calls and merges the reports. A packet that is
the last, or holds no frame, hides everything behind it; and closing the connection between two
packets comes to the same as announcing the end there. -/
theorem serve_of_packets (options_fit : (Frame.optionsResponse h.options).Fits) (w : World σ)
    (pieces broken : List Arrival) (payloads : List ByteArray) (rest : ByteArray)
    (brings : Stream.Brings pieces broken payloads rest) :
    ((h.serve (pieces ++ broken)).run w).1 =
        .ok (concat (fun _ => (Frame.optionsResponse h.options).bytes)
          ((Frame.heard payloads).filter (· = .optionsRequest))) ∧
      w.Grown h.sink ((Frame.heard payloads).flatMap Frame.forwarded)
        ((Frame.heard payloads).flatMap Frame.reports) ((h.serve (pieces ++ broken)).run w).2 ∧
      (∀ d, ((h.serve (pieces ++ broken)).run w).2.store.get? d =
        Run.mergeAll ((w.store.get? d).toList ++ runsOf d ((Frame.heard payloads).flatMap Frame.reports))) ∧
      (∀ method args, (Frame.outputCall method args).forwarded =
        if method = "run_start" ∨ method = "run_end" then []
        else match Call.decode method args with
          | .ok c => [.call c]
          | .error e => [.call (.println ("WARNING: " ++ e.message))]) ∧
      (∀ method args c, Call.decode method args = .ok c → c.method.name = method) ∧
      ((∃ payload ∈ payloads, ∀ f, Frame.ofPacket payload = .ok f → f.isLast) →
        ∀ pieces' broken' more rest', Stream.Brings pieces' broken' (payloads ++ more) rest' →
          h.serve (pieces' ++ broken') = h.serve (pieces ++ broken)) ∧
      (rest = .empty → broken = [] → ∀ pieces' broken' more rest',
        Stream.Brings pieces' broken' (payloads ++ Frame.finish.payload :: more) rest' →
          h.serve (pieces' ++ broken') = h.serve (pieces ++ broken)) := by
  obtain ⟨error, frames, clean⟩ := Stream.frames_of_brings brings
  have does := h.handle_does (Stream.framesOf error payloads).1 (Stream.framesOf error payloads).2
  rw [h.served_framesOf options_fit, h.concat_answer options_fit] at does
  have serves : h.serve (pieces ++ broken) =
      h.handle (Stream.framesOf error payloads).1 (Stream.framesOf error payloads).2 := by
    rw [serve, frames]
  rw [serves]
  refine ⟨does.returns w, does.changes w, (does.changes w).get?, Frame.forwarded_outputCall,
    fun _ _ _ => Call.name_of_decode, ?_, ?_⟩
  · intro closed pieces' broken' more rest' brings'
    obtain ⟨error', frames', -⟩ := Stream.frames_of_brings brings'
    rw [serve, frames']
    exact h.handle_append closed more error' error
  · intro nothing closed pieces' broken' more rest' brings'
    obtain ⟨error', frames', -⟩ := Stream.frames_of_brings brings'
    rw [serve, frames', clean nothing closed]
    exact h.handle_finish payloads more error'

def deaf : Sink Nat := fun _ n => (.error (.other "full"), n + 1)

/-- A worker of the wrong version asks for the options, ends the run, makes a call that is unknown and
one that is cut off, reports, and sends a packet that holds no frame before it reports again; then
the connection breaks within a length. -/
theorem serve_of_packets_of_deaf :
    let d : Descriptor := ⟨"parse", .singleShot, 1⟩
    let run : Run := ⟨⟨"parse", .seconds, .singleShot 1 7⟩, ∅, [⟨0x7ff8000000000001⟩], 1⟩
    let frames : List Frame := [.optionsRequest, .outputCall "run_end" .empty, .outputCall "spin" .empty,
      .outputCall "println" ⟨#[9]⟩, .report d run, .ofCall .flush]
    let payloads := frames.map Frame.payload ++ [⟨#[5, 0, 0, 0]⟩, (Frame.report d run).payload]
    let pieces : List Arrival := [.bytes (concat Link.packet payloads), .bytes ⟨#[1, 0]⟩]
    let served := (serve ⟨deaf, {}, 1⟩ (pieces ++ [.interrupted])).run (World.start 0)
    served.1 = .ok (Frame.optionsResponse {}).bytes ∧ served.2.sink = 3 ∧
      served.2.told = [
        .call (.println "WARNING: Unknown method to forward: spin"),
        .call (.println ("WARNING: Bad arguments for forwarded method println: " ++
          "io error: unexpected end of file")),
        .call .flush] ∧
      served.2.merged = [(d, run)] := by
  intro d run frames payloads pieces
  have fits : ∀ f ∈ frames, f.Fits := by decide +kernel
  have garbled : Frame.ofPacket ⟨#[5, 0, 0, 0]⟩ =
      .error (.decode (.invalidVariant 5 5)) := by rfl
  have heard : Frame.heard payloads = frames := by
    rw [Frame.heard_append fits (by simp [frames, Frame.isLast, Frame.ofCall]), Frame.heard, garbled,
      List.append_nil]
  have options_fit : (Frame.optionsResponse {}).Fits := by decide
  have brings : Stream.Brings pieces [.interrupted] payloads ⟨#[1, 0]⟩ := by
    refine ⟨by simp [pieces, Arrival.Sound], by simp [Stream.Ends, Arrival.Sound], fun payload mem => ?_, ?_, by decide⟩
    · have others : ∀ p ∈ [⟨#[5, 0, 0, 0]⟩, (Frame.report d run).payload], p.size < 1 <<< 32 := by
        decide +kernel
      rcases List.mem_append.1 mem with sent | other
      · obtain ⟨f, hf, rfl⟩ := List.mem_map.1 sent
        exact (fits f hf).short
      · exact others payload other
    · simp [pieces, Stream.content]
  obtain ⟨answered, grown, -⟩ := serve_of_packets ⟨deaf, {}, 1⟩ options_fit (World.start 0) pieces
    [.interrupted] payloads ⟨#[1, 0]⟩ brings
  have calls : frames.flatMap Frame.forwarded = [
      .call (.println "WARNING: Unknown method to forward: spin"),
      .call (.println ("WARNING: Bad arguments for forwarded method println: " ++
        "io error: unexpected end of file")),
      .call .flush] := by rfl
  have requests : frames.filter (· = .optionsRequest) = [.optionsRequest] := by
    simp [frames, Frame.ofCall]
  rw [heard] at answered grown
  rw [calls] at grown
  rw [requests, concat_cons, concat_nil, ByteArray.append_empty] at answered
  exact ⟨answered, grown.sink, grown.told, grown.merged⟩

end Link.Handler

end Microbench
