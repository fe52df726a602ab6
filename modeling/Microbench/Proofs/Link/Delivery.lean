import Microbench.Link.Client

/-!
Frames arrive as they were sent. A frame is written whole or not at all, and what a connection
carries is cut into pieces by no rule of ours; reading puts the pieces together again
(`Stream.frames_of_bytes`).
-/

namespace Microbench

open Wire

theorem eq_extract_append_extract (bytes : ByteArray) {n : Nat} (within : n ≤ bytes.size) :
    bytes = bytes.extract 0 n ++ bytes.extract n bytes.size := by
  rw [← ByteArray.extract_eq_extract_append_extract n (Nat.zero_le n) within, ByteArray.extract_zero_size]

/-- Two ways to cut the same bytes: the longer front begins with the shorter one. -/
theorem append_eq_append {a b c d : ByteArray} (h : a ++ b = c ++ d) (shorter : a.size ≤ c.size) :
    ∃ e, c = a ++ e ∧ b = e ++ d := by
  have whole := eq_extract_append_extract c shorter
  have same : a ++ b = c.extract 0 a.size ++ (c.extract a.size c.size ++ d) := by
    rw [← ByteArray.append_assoc, ← whole, h]
  have front : a = c.extract 0 a.size := by
    refine ByteArray.append_inj_left same ?_
    rw [ByteArray.size_extract]; omega
  refine ⟨c.extract a.size c.size, ?_, ?_⟩
  · exact whole.trans (by rw [← front])
  · rw [← front] at same
    exact (ByteArray.append_right_inj a).1 same

/-- A payload as it is sent, behind its length. -/
def Link.packet (payload : ByteArray) : ByteArray := little 4 payload.size ++ payload

namespace Frame

def payload (f : Frame) : ByteArray := codec.encode f

def Fits (f : Frame) : Prop := f.payload.size ≤ Link.maxFrame

instance (f : Frame) : Decidable f.Fits := inferInstanceAs (Decidable (_ ≤ _))

theorem Fits.short {f : Frame} (fits : f.Fits) : f.payload.size < 1 <<< 32 :=
  Nat.lt_of_le_of_lt fits (by decide)

/-- The frame as it is written. -/
def bytes (f : Frame) : ByteArray := little 4 f.payload.size ++ f.payload

theorem encode_eq (f : Frame) :
    f.encode = if f.Fits then .ok f.bytes else .error (.frameTooLarge f.payload.size) := by
  by_cases fits : f.Fits
  · rw [if_pos fits]
    exact if_neg (Nat.not_lt.2 fits)
  · rw [if_neg fits]
    exact if_pos (Nat.lt_of_not_le fits)

theorem decode_payload {f : Frame} (fits : f.Fits) : decode f.payload = .ok f := by
  have small : f.payload.size < 1 <<< 64 := Nat.lt_of_le_of_lt fits (by decide)
  have read := codec.decode_encode f .empty small
  rw [ByteArray.append_empty] at read
  rw [decode, payload, read]
  rfl

def ofPacket (payload : ByteArray) : Except LinkError Frame :=
  if payload.size > Link.maxFrame then .error (.frameTooLarge payload.size) else decode payload

theorem ofPacket_payload {f : Frame} (fits : f.Fits) : ofPacket f.payload = .ok f := by
  rw [ofPacket, if_neg (Nat.not_lt.2 fits), decode_payload fits]

theorem size_payload_outputCall (method : String) (args : ByteArray) :
    (outputCall method args).payload.size = 20 + method.utf8ByteSize + args.size := by
  have text : ((Codec.text).encode method).size = 8 + method.utf8ByteSize := by
    simp [Codec.text, Codec.sized, ByteArray.size_append]
  have rest : (Codec.bytes.encode args).size = 8 + args.size := by
    simp [Codec.bytes, Codec.sized, ByteArray.size_append]
  have parts : (outputCall method args).payload =
      little 4 0 ++ (Codec.text.encode method ++ Codec.bytes.encode args) := rfl
  rw [parts, ByteArray.size_append, ByteArray.size_append, size_little, text, rest]
  omega

end Frame

namespace Link

theorem send_eq (f : Frame) (sent : ByteArray) :
    send f sent = if f.Fits then .ok (sent ++ f.bytes)
      else .error (.frameTooLarge f.payload.size) := by
  rw [send, Frame.encode_eq]
  split <;> rfl

/-- Write frames one after another. How each write ended comes with what has been sent, which a
refused frame leaves as it was. -/
def sendAll : List Frame → ByteArray → List (Except LinkError Unit) × ByteArray
  | [], sent => ([], sent)
  | f :: rest, sent =>
    match send f sent with
    | .ok more => (.ok () :: (sendAll rest more).1, (sendAll rest more).2)
    | .error e => (.error e :: (sendAll rest sent).1, (sendAll rest sent).2)

theorem sendAll_eq (frames : List Frame) (sent : ByteArray) :
    sendAll frames sent =
      (frames.map fun f => if f.Fits then .ok () else .error (.frameTooLarge f.payload.size),
        sent ++ concat Frame.bytes (frames.filter (·.Fits))) := by
  induction frames generalizing sent with
  | nil => simp [sendAll]
  | cons f rest ih =>
    by_cases fits : f.Fits <;> simp [sendAll, send_eq, fits, ih, ByteArray.append_assoc]

end Link

/-- An arrival that is no failure of the connection. An interrupted read is made again where reads
are blocking. -/
def Arrival.Sound (style : ReadStyle) : Arrival → Prop
  | .bytes _ => True
  | .interrupted => style = .blocking
  | .failed _ => False

namespace Stream

/-- What the arrivals carry. -/
def content : List Arrival → ByteArray
  | [] => .empty
  | .bytes piece :: rest => piece ++ content rest
  | _ :: rest => content rest

/-- As many bytes as are asked for are taken from the front, wherever the arrivals are cut and
whatever comes behind them. -/
theorem filled_eq_full {style : ReadStyle} {pieces : List Arrival}
    (sound : ∀ a ∈ pieces, a.Sound style) {front back : ByteArray}
    (carries : content pieces = front ++ back) (got : ByteArray) (behind : List Arrival) :
    ∃ rest, Filled.of style front.size got (pieces ++ behind) = .full (got ++ front) (rest ++ behind) ∧
      content rest = back ∧ ∀ a ∈ rest, a.Sound style := by
  induction pieces generalizing front got with
  | nil =>
    have sizes := congrArg ByteArray.size carries
    simp only [content, ByteArray.size_empty, ByteArray.size_append] at sizes
    have hf : front = .empty := ByteArray.size_eq_zero_iff.1 (by omega)
    have hb : back = .empty := ByteArray.size_eq_zero_iff.1 (by omega)
    exact ⟨[], by simp [hf, hb, Filled.of, content]⟩
  | cons a pieces ih =>
    have sound' : ∀ a ∈ pieces, a.Sound style := fun a ha => sound a (List.mem_cons_of_mem _ ha)
    rw [List.cons_append]
    cases wanted : front.size with
    | zero =>
      have hf : front = .empty := ByteArray.size_eq_zero_iff.1 wanted
      subst hf
      exact ⟨a :: pieces, by simp [Filled.of], by simpa using carries, sound⟩
    | succ n =>
      cases a with
      | bytes piece =>
        rw [content] at carries
        rw [Filled.of, ← wanted]
        by_cases within : piece.size ≤ front.size
        · obtain ⟨more, rfl, later⟩ := append_eq_append carries within
          have left : (piece ++ more).size - piece.size = more.size := by
            rw [ByteArray.size_append]; omega
          rw [if_pos within, left, ← ByteArray.append_assoc]
          exact ih sound' later (got ++ piece)
        · obtain ⟨more, rfl, later⟩ := append_eq_append carries.symm (by omega)
          have taken : (front ++ more).extract 0 front.size = front :=
            ByteArray.extract_append_eq_left rfl
          have kept : (front ++ more).extract front.size (front ++ more).size = more :=
            ByteArray.extract_append_eq_right rfl ByteArray.size_append
          rw [if_neg within, taken, kept]
          refine ⟨.bytes more :: pieces, rfl, later.symm, ?_⟩
          simpa [Arrival.Sound] using sound'
      | interrupted =>
        obtain rfl : style = .blocking := sound _ List.mem_cons_self
        rw [Filled.of, ← wanted]
        exact ih sound' carries got
      | failed reason => exact (sound _ List.mem_cons_self).elim

/-- Where the arrivals carry too little, all of it is taken and the rest is asked of what comes
behind them. -/
theorem filled_of_short {style : ReadStyle} {pieces : List Arrival}
    (sound : ∀ a ∈ pieces, a.Sound style) {wanted : Nat} (short : (content pieces).size < wanted)
    (got : ByteArray) (behind : List Arrival) :
    Filled.of style wanted got (pieces ++ behind) =
      Filled.of style (wanted - (content pieces).size) (got ++ content pieces) behind := by
  induction pieces generalizing wanted got with
  | nil => simp [content]
  | cons a pieces ih =>
    have sound' : ∀ a ∈ pieces, a.Sound style := fun a ha => sound a (List.mem_cons_of_mem _ ha)
    obtain ⟨n, rfl⟩ : ∃ n, wanted = n + 1 := Nat.exists_eq_succ_of_ne_zero (by omega)
    rw [List.cons_append]
    cases a with
    | bytes piece =>
      simp only [content, ByteArray.size_append] at short ⊢
      rw [Filled.of, if_pos (by omega), ih sound' (by omega), ByteArray.append_assoc, Nat.sub_sub]
    | interrupted =>
      obtain rfl : style = .blocking := sound _ List.mem_cons_self
      exact ih sound' short got
    | failed reason => exact (sound _ List.mem_cons_self).elim

theorem lengthOf_little {n : Nat} (h : n < 1 <<< 32) : lengthOf (little 4 n) = n := by
  have := littleEndian_little 4 n [] [] h
  simpa [lengthOf, little] using this

/-- A packet at the front is read, and nothing behind it is touched. -/
theorem next_eq_ofPacket {style : ReadStyle} {pieces : List Arrival}
    (sound : ∀ a ∈ pieces, a.Sound style) {payload back : ByteArray}
    (short : payload.size < 1 <<< 32) (carries : content pieces = Link.packet payload ++ back)
    (behind : List Arrival) :
    ∃ rest, next style (pieces ++ behind) = (match Frame.ofPacket payload with
        | .ok f => .frame f (rest ++ behind)
        | .error e => .failed e) ∧
      content rest = back ∧ ∀ a ∈ rest, a.Sound style := by
  rw [Link.packet, ByteArray.append_assoc] at carries
  obtain ⟨later, first, carries, sound⟩ := filled_eq_full sound carries .empty behind
  obtain ⟨rest, second, carries, sound⟩ := filled_eq_full sound carries .empty behind
  refine ⟨rest, ?_, carries, sound⟩
  rw [size_little, ByteArray.empty_append] at first
  rw [ByteArray.empty_append] at second
  unfold next Frame.ofPacket
  rw [first]
  simp only [lengthOf_little short]
  by_cases large : payload.size > Link.maxFrame
  · rw [if_pos large, if_pos large]
  · rw [if_neg large, if_neg large]
    exact second ▸ rfl

/-- A frame at the front is read, and nothing behind it is touched. -/
theorem next_eq_frame {style : ReadStyle} {arrivals : List Arrival}
    (sound : ∀ a ∈ arrivals, a.Sound style) {f : Frame} (fits : f.Fits) {back : ByteArray}
    (carries : content arrivals = f.bytes ++ back) :
    ∃ rest, next style arrivals = .frame f rest ∧ content rest = back ∧
      ∀ a ∈ rest, a.Sound style := by
  have read := next_eq_ofPacket sound fits.short carries []
  simpa only [Frame.ofPacket_payload fits, List.append_nil] using read

theorem next_eq_finished {style : ReadStyle} {arrivals : List Arrival}
    (sound : ∀ a ∈ arrivals, a.Sound style) (nothing : content arrivals = .empty) :
    next style arrivals = .finished := by
  have short : (content arrivals).size < 4 := by rw [nothing]; decide
  have ended := filled_of_short sound short .empty []
  rw [nothing, List.append_nil] at ended
  unfold next
  rw [ended]
  rfl

theorem frames_of_next_frame {style : ReadStyle} {arrivals rest : List Arrival} {f : Frame}
    (h : next style arrivals = .frame f rest) :
    frames style arrivals = (f :: (frames style rest).1, (frames style rest).2) := by
  rw [frames]
  split <;> simp_all

theorem frames_of_next_finished {style : ReadStyle} {arrivals : List Arrival}
    (h : next style arrivals = .finished) : frames style arrivals = ([], none) := by
  rw [frames]
  split <;> simp_all

/-- Frames that were written are read, and the connection ends well behind the last one. -/
theorem frames_of_bytes {style : ReadStyle} {sent : List Frame} (fits : ∀ f ∈ sent, f.Fits)
    {arrivals : List Arrival} (sound : ∀ a ∈ arrivals, a.Sound style)
    (carries : content arrivals = concat Frame.bytes sent) : frames style arrivals = (sent, none) := by
  induction sent generalizing arrivals with
  | nil => exact frames_of_next_finished (next_eq_finished sound carries)
  | cons f sent ih =>
    rw [concat_cons] at carries
    obtain ⟨rest, first, carries, sound⟩ := next_eq_frame sound (fits f List.mem_cons_self) carries
    rw [frames_of_next_frame first, ih (fun g hg => fits g (List.mem_cons_of_mem f hg)) sound carries]

/-- Whatever frames are written one after another: those with a payload of at most the largest size
are appended whole and the others are refused and append nothing; and from the bytes, however they
are cut, both styles of reading give back precisely the accepted frames, and then a good end. -/
theorem frames_of_sendAll (style : ReadStyle) (sent : List Frame) (arrivals : List Arrival)
    (sound : ∀ a ∈ arrivals, a.Sound style)
    (carries : content arrivals = (Link.sendAll sent .empty).2) :
    (Link.sendAll sent .empty).1 = sent.map (fun f =>
      if f.payload.size ≤ Link.maxFrame then .ok () else .error (.frameTooLarge f.payload.size)) ∧
    (Link.sendAll sent .empty).2 = concat (fun f => little 4 f.payload.size ++ f.payload)
      (sent.filter fun f => f.payload.size ≤ Link.maxFrame) ∧
    frames style arrivals = (sent.filter fun f => f.payload.size ≤ Link.maxFrame, none) := by
  rw [Link.sendAll_eq, ByteArray.empty_append] at carries ⊢
  have fits : ∀ f ∈ sent.filter (·.Fits), f.Fits := fun f hf => by simpa using (List.mem_filter.1 hf).2
  exact ⟨rfl, rfl, frames_of_bytes fits sound carries⟩

/-- A call one byte too large between a request and the end of a connection, whose bytes come in
four pieces and are interrupted three times. -/
theorem frames_of_sendAll_of_refused :
    let large : Frame := .outputCall "write_bytes" ⟨Array.replicate (Link.maxFrame - 30) 0⟩
    let arrivals : List Arrival := [.bytes ⟨#[8, 0]⟩, .interrupted, .bytes ⟨#[0, 0, 1, 0, 0, 0, 0]⟩,
      .bytes ⟨#[0, 0, 0, 4, 0, 0]⟩, .interrupted, .interrupted, .bytes ⟨#[0, 4, 0, 0, 0]⟩]
    (∀ a ∈ arrivals, a.Sound .blocking) ∧
    content arrivals = (Link.sendAll [.optionsRequest, large, .finish] .empty).2 ∧
    large.payload.size = Link.maxFrame + 1 ∧
    frames .blocking arrivals = ([.optionsRequest, .finish], none) := by
  intro large arrivals
  have size : large.payload.size = Link.maxFrame + 1 := by
    rw [Frame.size_payload_outputCall, ByteArray.size, Array.size_replicate]
    decide
  have accepted : [Frame.optionsRequest, large, .finish].filter (·.Fits) =
      [.optionsRequest, .finish] := by
    have refused : ¬ large.Fits := by rw [Frame.Fits, size]; omega
    have request : Frame.optionsRequest.Fits := by decide
    have finish : Frame.finish.Fits := by decide
    simp [refused, request, finish]
  have sound : ∀ a ∈ arrivals, a.Sound .blocking := by simp [arrivals, Arrival.Sound]
  have carries : content arrivals = (Link.sendAll [.optionsRequest, large, .finish] .empty).2 := by
    rw [Link.sendAll_eq, accepted]
    rfl
  refine ⟨sound, carries, size, ?_⟩
  rw [(frames_of_sendAll .blocking _ arrivals sound carries).2.2]
  exact congrArg (·, none) accepted

end Stream

end Microbench
