import Microbench.Proofs.Link.Packets

/-!
Reading bytes that no one has encoded. `Stream.scan` says, without regard to pieces and styles of reading, which
frames a stream holds, where each of them ends, and how the reading ends. Both styles read what is scanned; and of a
stream that was cut off, just the frames are scanned that lie before the cut.
-/

namespace Microbench

open Wire

theorem Frame.four_le_of_decode {payload : ByteArray} {f : Frame} (holds : codec.decode payload = .ok f) :
    4 ≤ payload.size := by
  refine Nat.le_of_not_lt fun short => ?_
  have missing : Reader.number 4 payload 0 = .error .endOfInput := if_neg (by omega)
  have fails : codec.decode payload = .error .endOfInput := by
    simp only [Codec.decode, codec, Reader.andThen, missing]
    rfl
  rw [fails] at holds
  contradiction

namespace Stream

inductive Ending where
  | closed
  | cutLength (got : Nat)
  | cutPayload
  | tooLarge (length : Nat)
  | garbled (error : WireError)

def Ending.error (style : ReadStyle) : Ending → Option LinkError
  | closed => none
  | cutLength got => some (.io s!"stream closed after {got} of 4 length bytes")
  | cutPayload => some (.io style.earlyEnd)
  | tooLarge length => some (.frameTooLarge length)
  | garbled e => some (.decode e)

/-- What stands at the front of a stream. -/
inductive Front where
  | frame (f : Frame) (size : Nat)
  | ended (ending : Ending)

def front (bytes : ByteArray) : Front :=
  let length := lengthOf bytes
  if bytes.size = 0 then .ended .closed
  else if bytes.size < 4 then .ended (.cutLength bytes.size)
  else if length > Link.maxFrame then .ended (.tooLarge length)
  else if bytes.size < 4 + length then .ended .cutPayload
  else match Frame.codec.decode (bytes.extract 4 (4 + length)) with
    | .ok f => .frame f (4 + length)
    | .error e => .ended (.garbled e)

/-- A frame stands at the front where its length and its payload do. -/
theorem front_eq_frame {bytes : ByteArray} {f : Frame} {n : Nat} :
    front bytes = .frame f n ↔ 4 ≤ bytes.size ∧ n = 4 + lengthOf bytes ∧ lengthOf bytes ≤ Link.maxFrame ∧
      n ≤ bytes.size ∧ Frame.codec.decode (bytes.extract 4 n) = .ok f := by
  unfold front
  constructor
  · intro stands
    simp only at stands
    split at stands
    · cases stands
    split at stands
    · cases stands
    split at stands
    · cases stands
    split at stands
    · cases stands
    cases decoded : Frame.codec.decode (bytes.extract 4 (4 + lengthOf bytes)) with
    | error e =>
      rw [decoded] at stands
      cases stands
    | ok f =>
      rw [decoded] at stands
      cases stands
      exact ⟨by omega, rfl, by omega, by omega, decoded⟩
  · rintro ⟨four, rfl, fits, within, decoded⟩
    rw [if_neg (by omega), if_neg (by omega), if_neg (by omega), if_neg (by omega)]
    simp only [decoded]

theorem front_closed (bytes : ByteArray) : front bytes = .ended .closed ↔ bytes.size = 0 := by
  unfold front
  by_cases nothing : bytes.size = 0
  · simp [nothing]
  · simp only [nothing, if_false, iff_false]
    intro ended
    split at ended
    · cases ended
    split at ended
    · cases ended
    split at ended
    · cases ended
    split at ended <;> cases ended

/-- A frame is longer than its length and its kind. -/
theorem size_of_front {bytes : ByteArray} {f : Frame} {n : Nat} (stands : front bytes = .frame f n) :
    8 ≤ n ∧ n ≤ bytes.size := by
  obtain ⟨four, length, -, within, decoded⟩ := front_eq_frame.1 stands
  have kind := Frame.four_le_of_decode decoded
  rw [ByteArray.size_extract] at kind
  omega

/-- A frame at the front stays when the stream goes on, and it was there as soon as its bytes were. -/
theorem front_append {a b : ByteArray} {f : Frame} {n : Nat} :
    front a = .frame f n ↔ front (a ++ b) = .frame f n ∧ n ≤ a.size := by
  have bytes (within : n ≤ a.size) : (a ++ b).extract 4 n = a.extract 4 n := by
    have nothing : b.extract (4 - a.size) (n - a.size) = .empty := by
      refine ByteArray.size_eq_zero_iff.1 ?_
      rw [ByteArray.size_extract]
      omega
    rw [ByteArray.extract_append, nothing, ByteArray.append_empty]
  have length (four : 4 ≤ a.size) : lengthOf (a ++ b) = lengthOf a := littleEndian_append a b 4 0 (by omega)
  simp only [front_eq_frame, ByteArray.size_append]
  constructor
  · rintro ⟨four, size, fits, within, decoded⟩
    rw [length four, bytes within]
    exact ⟨⟨by omega, size, fits, by omega, decoded⟩, within⟩
  · rintro ⟨⟨-, size, fits, -, decoded⟩, within⟩
    have four : 4 ≤ a.size := by omega
    rw [length four] at size fits
    rw [bytes within] at decoded
    exact ⟨four, size, fits, within, decoded⟩

/-- The frames of a stream, each with the place where it ends, and how the reading ends. The stream begins at
`start`. -/
def scan (start : Nat) (bytes : ByteArray) : List (Frame × Nat) × Ending :=
  match _ : front bytes with
  | .ended ending => ([], ending)
  | .frame f n =>
    let (more, ending) := scan (start + n) (bytes.extract n bytes.size)
    ((f, start + n) :: more, ending)
termination_by bytes.size
decreasing_by
  have := size_of_front ‹_›
  rw [ByteArray.size_extract]
  omega

theorem scan_of_ended {bytes : ByteArray} {ending : Ending} (stands : front bytes = .ended ending) (start : Nat) :
    scan start bytes = ([], ending) := by
  rw [scan]
  split <;> simp_all

theorem scan_of_frame {bytes : ByteArray} {f : Frame} {n : Nat} (stands : front bytes = .frame f n) (start : Nat) :
    scan start bytes = ((f, start + n) :: (scan (start + n) (bytes.extract n bytes.size)).1,
      (scan (start + n) (bytes.extract n bytes.size)).2) := by
  rw [scan]
  split <;> simp_all

def reached (start : Nat) : List (Frame × Nat) → Nat
  | [] => start
  | (_, stop) :: more => reached stop more

theorem bounds_of_mem_scan {start : Nat} {bytes : ByteArray} {entry : Frame × Nat}
    (mem : entry ∈ (scan start bytes).1) : start < entry.2 ∧ entry.2 ≤ start + bytes.size := by
  fun_induction scan start bytes with
  | case1 => simp at mem
  | case2 start bytes f n stands more ending scanned ih =>
    have size := size_of_front stands
    rcases List.mem_cons.1 mem with rfl | mem
    · simp only
      omega
    · rw [scanned] at ih
      have bounds := ih mem
      rw [ByteArray.size_extract] at bounds
      omega

/-- A frame takes eight bytes or more. -/
theorem length_scan (start : Nat) (bytes : ByteArray) : 8 * (scan start bytes).1.length ≤ bytes.size := by
  fun_induction scan start bytes with
  | case1 => simp
  | case2 start bytes f n stands more ending scanned ih =>
    have size := size_of_front stands
    rw [scanned, ByteArray.size_extract] at ih
    simp only [List.length_cons] at ih ⊢
    omega

/-- The reading ends well just where the last frame ends. -/
theorem scan_closed (start : Nat) (bytes : ByteArray) :
    (scan start bytes).2 = .closed ↔ start + bytes.size = reached start (scan start bytes).1 := by
  fun_induction scan start bytes with
  | case1 start bytes ending stands =>
    have closed := front_closed bytes
    rw [stands, Front.ended.injEq] at closed
    simp only [reached, closed]
    omega
  | case2 start bytes f n stands more ending scanned ih =>
    have size := size_of_front stands
    rw [scanned, ByteArray.size_extract] at ih
    simp only [reached] at ih ⊢
    rw [ih]
    omega

/-- Of a stream that goes on, those frames are scanned already that have ended. -/
theorem scan_append (start : Nat) (a b : ByteArray) :
    (scan start a).1 = (scan start (a ++ b)).1.filter (·.2 ≤ start + a.size) := by
  fun_induction scan start a with
  | case1 start a ending stands =>
    -- A frame that stands at the front of the longer stream is cut short in `a`, so it ends beyond it.
    refine (List.filter_eq_nil_iff.2 fun entry mem => ?_).symm
    cases longer : front (a ++ b) with
    | ended => simp [scan_of_ended longer] at mem
    | frame f n =>
      have beyond : ¬ n ≤ a.size := fun within => by simp [front_append.2 ⟨longer, within⟩] at stands
      rw [scan_of_frame longer] at mem
      rcases List.mem_cons.1 mem with rfl | mem
      · simpa using beyond
      · have := bounds_of_mem_scan mem
        simp only [decide_eq_true_eq]
        omega
  | case2 start a f n stands more ending scanned ih =>
    obtain ⟨longer, within⟩ := front_append (b := b) |>.1 stands
    have rest : (a ++ b).extract n (a ++ b).size = a.extract n a.size ++ b := by
      have whole := eq_extract_append_extract a within
      have first : n = (a.extract 0 n).size := by
        rw [ByteArray.size_extract]
        omega
      rw [whole, ByteArray.append_assoc, ← whole]
      refine ByteArray.extract_append_eq_right first ?_
      simp only [ByteArray.size_append]
    have here : start + n ≤ start + a.size := by omega
    rw [scanned, ByteArray.size_extract, show start + n + (min a.size a.size - n) = start + a.size by omega] at ih
    rw [scan_of_frame longer, rest, List.filter_cons_of_pos (by simpa using within)]
    exact congrArg _ ih

theorem filled_eq_extract {style : ReadStyle} {arrivals : List Arrival} (sound : ∀ a ∈ arrivals, a.Sound style)
    {n : Nat} (within : n ≤ (content arrivals).size) :
    ∃ rest, Filled.of style n .empty arrivals = .full ((content arrivals).extract 0 n) rest ∧
      content rest = (content arrivals).extract n (content arrivals).size ∧ ∀ a ∈ rest, a.Sound style := by
  obtain ⟨rest, taken, carries, sound⟩ :=
    filled_eq_full sound (eq_extract_append_extract _ within) .empty []
  refine ⟨rest, ?_, carries, sound⟩
  have size : ((content arrivals).extract 0 n).size = n := by
    rw [ByteArray.size_extract]
    omega
  rwa [size, List.append_nil, List.append_nil, ByteArray.empty_append] at taken

theorem filled_eq_ended {style : ReadStyle} {arrivals : List Arrival} (sound : ∀ a ∈ arrivals, a.Sound style)
    {n : Nat} (short : (content arrivals).size < n) :
    Filled.of style n .empty arrivals = .ended (content arrivals).size := by
  obtain ⟨left, missing⟩ : ∃ left, n - (content arrivals).size = left + 1 :=
    Nat.exists_eq_succ_of_ne_zero (by omega)
  have taken := filled_of_short sound short .empty []
  rwa [missing, List.append_nil, ByteArray.empty_append] at taken

/-- What stands at the front is read, whatever the style and wherever the arrivals are cut. -/
theorem next_eq_front {style : ReadStyle} {arrivals : List Arrival} {bytes : ByteArray}
    (sound : ∀ a ∈ arrivals, a.Sound style) (carries : content arrivals = bytes) :
    match front bytes with
    | .ended ending => next style arrivals = Next.stop (ending.error style)
    | .frame f n => ∃ rest, next style arrivals = .frame f rest ∧
        content rest = bytes.extract n bytes.size ∧ ∀ a ∈ rest, a.Sound style := by
  unfold front next
  by_cases short : bytes.size < 4
  · rw [filled_eq_ended sound (carries ▸ short), carries]
    cases got : bytes.size with
    | zero => rfl
    | succ got =>
      simp only [← got, if_pos short]
      rw [got]
      rfl
  · obtain ⟨later, first, left, sound⟩ := filled_eq_extract sound (n := 4) (by rw [carries]; omega)
    rw [carries] at first left
    have length : lengthOf (bytes.extract 0 4) = lengthOf bytes := by
      conv => rhs; rw [eq_extract_append_extract bytes (n := 4) (by omega)]
      exact (littleEndian_append _ _ 4 0 (by rw [ByteArray.size_extract]; omega)).symm
    rw [if_neg (by omega), if_neg short, first]
    simp only [length]
    generalize lengthOf bytes = n
    by_cases large : n > Link.maxFrame
    · rw [if_pos large, if_pos large]
      rfl
    rw [if_neg large, if_neg large]
    have size : (content later).size = bytes.size - 4 := by
      rw [left, ByteArray.size_extract]
      omega
    by_cases cut : bytes.size < 4 + n
    · rw [filled_eq_ended sound (by omega), if_pos cut]
      rfl
    · obtain ⟨rest, second, others, sound⟩ := filled_eq_extract sound (n := n) (by omega)
      have payload : (content later).extract 0 n = bytes.extract 4 (4 + n) := by
        rw [left, ByteArray.extract_extract, Nat.add_zero, Nat.min_eq_left (by omega)]
      have behind : (content later).extract n (content later).size = bytes.extract (4 + n) bytes.size := by
        have end_eq : min (4 + (bytes.size - 4)) bytes.size = bytes.size := by omega
        rw [size, left, ByteArray.extract_extract, end_eq]
      rw [if_neg cut, second, payload]
      simp only [Frame.decode]
      cases Frame.codec.decode (bytes.extract 4 (4 + n)) with
      | error e => rfl
      | ok f => exact ⟨rest, rfl, others.trans behind, sound⟩

/-- What is read is what is scanned. -/
theorem frames_eq_scan {style : ReadStyle} {arrivals : List Arrival} (sound : ∀ a ∈ arrivals, a.Sound style)
    (start : Nat) {bytes : ByteArray} (carries : content arrivals = bytes) :
    frames style arrivals = ((scan start bytes).1.map Prod.fst, (scan start bytes).2.error style) := by
  have reads := next_eq_front sound carries
  fun_induction scan start bytes generalizing arrivals with
  | case1 start bytes ending stands =>
    rw [stands] at reads
    exact frames_of_next_stop reads
  | case2 start bytes f n stands more ending scanned ih =>
    rw [stands] at reads
    obtain ⟨rest, reads, carries, sound⟩ := reads
    have later := ih sound carries (next_eq_front sound carries)
    rw [scanned] at later
    rw [frames_of_next_frame reads, later]
    rfl

/-- Of a stream that is lost in part, nothing is read but frames that were sent. -/
theorem mem_of_mem_frames {style : ReadStyle} {arrivals : List Arrival} (sound : ∀ a ∈ arrivals, a.Sound style)
    {sent : List Frame} (fits : ∀ f ∈ sent, f.Fits) {lost : ByteArray}
    (carries : content arrivals ++ lost = concat Frame.bytes sent) : ∀ f ∈ (frames style arrivals).1, f ∈ sent := by
  have whole : frames style [.bytes (concat Frame.bytes sent)] = (sent, none) :=
    frames_of_bytes fits (by simp [Arrival.Sound]) ByteArray.append_empty
  rw [frames_eq_scan (by simp [Arrival.Sound]) 0 ByteArray.append_empty] at whole
  obtain ⟨all, -⟩ := Prod.mk.inj whole
  intro f mem
  rw [frames_eq_scan sound 0 rfl, scan_append 0 (content arrivals) lost, carries] at mem
  obtain ⟨entry, scanned, rfl⟩ := List.mem_map.1 mem
  rw [← all]
  exact List.mem_map_of_mem (List.mem_filter.1 scanned).1

/-- The frames of a stream that end at the place `k` or before it. -/
def complete (bytes : ByteArray) (k : Nat) : List (Frame × Nat) := (scan 0 bytes).1.filter (·.2 ≤ k)

theorem scan_extract {bytes : ByteArray} {k : Nat} (within : k ≤ bytes.size) :
    (scan 0 (bytes.extract 0 k)).1 = complete bytes k ∧
      ((scan 0 (bytes.extract 0 k)).2 = .closed ↔ k = reached 0 (complete bytes k)) := by
  have size : (bytes.extract 0 k).size = k := by
    rw [ByteArray.size_extract]
    omega
  have before := scan_append 0 (bytes.extract 0 k) (bytes.extract k bytes.size)
  rw [← eq_extract_append_extract bytes within, size, Nat.zero_add] at before
  have closed := scan_closed 0 (bytes.extract 0 k)
  rw [before, size, Nat.zero_add] at closed
  exact ⟨before, closed⟩

theorem Ending.error_eq_none {style : ReadStyle} {ending : Ending} :
    ending.error style = none ↔ ending = .closed := by
  cases ending <;> simp [error]

/-- Whatever bytes are read, in either style and however they are cut, they hold the same frames, at most one in
eight bytes, and their reading ends in the same way. When the stream is cut off at any place, just the frames are
read that have ended there, and this is a good end only where the last of them ends; and a handler does what these
frames stand for, up to the first that stops it, and nothing else. -/
theorem frames_of_truncated (bytes : ByteArray) :
    8 * (scan 0 bytes).1.length ≤ bytes.size ∧
    (∀ style arrivals, (∀ a ∈ arrivals, a.Sound style) → content arrivals = bytes →
      frames style arrivals = ((scan 0 bytes).1.map Prod.fst, (scan 0 bytes).2.error style)) ∧
    ∀ k ≤ bytes.size, ∃ ending : Ending,
      (∀ style arrivals, (∀ a ∈ arrivals, a.Sound style) → content arrivals = bytes.extract 0 k →
        frames style arrivals = ((complete bytes k).map Prod.fst, ending.error style) ∧
        ((frames style arrivals).2 = none ↔ k = reached 0 (complete bytes k))) ∧
      ∀ {σ : Type} (h : Link.Handler σ) arrivals, (∀ a ∈ arrivals, a.Sound .async) →
        content arrivals = bytes.extract 0 k →
          Act.Does h.sink (h.serve arrivals)
            (.ok (concat h.answer (h.served ((complete bytes k).map Prod.fst))))
            ((h.served ((complete bytes k).map Prod.fst)).flatMap Frame.forwarded)
            ((h.served ((complete bytes k).map Prod.fst)).flatMap Frame.reports) := by
  refine ⟨length_scan 0 bytes, fun style arrivals sound carries => frames_eq_scan sound 0 carries, ?_⟩
  intro k within
  obtain ⟨before, closed⟩ := scan_extract within
  refine ⟨(scan 0 (bytes.extract 0 k)).2, fun style arrivals sound carries => ?_,
    fun h arrivals sound carries => ?_⟩
  · rw [frames_eq_scan sound 0 carries, before, ← closed]
    exact ⟨rfl, Ending.error_eq_none⟩
  · rw [Link.Handler.serve, frames_eq_scan sound 0 carries, before]
    exact h.handle_does _ _

theorem front_bytes {f : Frame} (fits : f.Fits) (behind : ByteArray) :
    front (f.bytes ++ behind) = .frame f f.bytes.size := by
  refine (front_append.1 (front_eq_frame.2 ?_)).1
  have length : lengthOf f.bytes = f.payload.size := by
    rw [Frame.bytes]
    exact (littleEndian_append _ _ 4 0 (by simp)).trans (lengthOf_little fits.short)
  have size : f.bytes.size = 4 + f.payload.size := by
    rw [Frame.bytes, ByteArray.size_append, size_little]
  have payload : f.bytes.extract 4 f.bytes.size = f.payload :=
    ByteArray.extract_append_eq_right (size_little 4 _).symm ByteArray.size_append
  have small : f.payload.size < 1 <<< 64 := Nat.lt_of_le_of_lt fits (by decide)
  have read := Frame.codec.decode_encode f .empty small
  rw [ByteArray.append_empty] at read
  refine ⟨by omega, by rw [length, size], length ▸ fits, Nat.le_refl _, ?_⟩
  rw [payload]
  exact read

/-- A worker crashes while it sends a second report; before, it was cut off within the first one. -/
theorem frames_of_truncated_of_crash :
    let d : Descriptor := ⟨"parse", .sampleTime, 1⟩
    let run := Run.sampled 7 ⟨0x3ff0000000000000⟩
    let report := Frame.report d run
    let bytes := Frame.optionsRequest.bytes ++ (report.bytes ++ ⟨#[2, 0, 0, 0, 9, 9]⟩)
    let early : List Arrival := [.bytes (bytes.extract 0 3), .interrupted, .bytes (bytes.extract 3 20)]
    let late : List Arrival := [.bytes (bytes.extract 0 30), .bytes (bytes.extract 30 184)]
    bytes.size = 186 ∧ (∃ e, frames .blocking early = ([.optionsRequest], some e)) ∧
      (∃ e, frames .async late = ([.optionsRequest, report], some e)) ∧
      (((⟨Link.Handler.deaf, {}, 1⟩ : Link.Handler Nat).serve late).run (World.start 0)).2.merged = [(d, run)] := by
  intro d run report bytes early late
  have fits : report.Fits := by decide +kernel
  have large : report.bytes.size = 168 := by decide +kernel
  have size : bytes.size = 186 := by
    rw [ByteArray.size_append, ByteArray.size_append, large]
    rfl
  have scanned : (scan 0 bytes).1 = [(.optionsRequest, 12), (report, 180)] := by
    have request : front bytes = .frame .optionsRequest 12 := front_bytes (by decide) _
    have behind : bytes.extract 12 bytes.size = report.bytes ++ ⟨#[2, 0, 0, 0, 9, 9]⟩ :=
      ByteArray.extract_append_eq_right rfl ByteArray.size_append
    have garbage : (report.bytes ++ ⟨#[2, 0, 0, 0, 9, 9]⟩ : ByteArray).extract report.bytes.size
        (report.bytes ++ ⟨#[2, 0, 0, 0, 9, 9]⟩ : ByteArray).size = ⟨#[2, 0, 0, 0, 9, 9]⟩ :=
      ByteArray.extract_append_eq_right rfl ByteArray.size_append
    have last : front ⟨#[2, 0, 0, 0, 9, 9]⟩ = .ended (.garbled .endOfInput) := by rfl
    rw [scan_of_frame request, behind, scan_of_frame (front_bytes fits _), garbage, scan_of_ended last, large]
  have carries : content early = bytes.extract 0 20 := by simp [early, content]
  have carries' : content late = bytes.extract 0 184 := by simp [late, content]
  have sound : ∀ a ∈ early, a.Sound .blocking := by simp [early, Arrival.Sound]
  have sound' : ∀ a ∈ late, a.Sound .async := by simp [late, Arrival.Sound]
  obtain ⟨-, -, truncated⟩ := frames_of_truncated bytes
  obtain ⟨_, reads, -⟩ := truncated 20 (by omega)
  obtain ⟨_, reads', serves⟩ := truncated 184 (by omega)
  obtain ⟨read, closed⟩ := reads .blocking early sound carries
  obtain ⟨read', closed'⟩ := reads' .async late sound' carries'
  have served := (serves ⟨Link.Handler.deaf, {}, 1⟩ late sound' carries').changes (World.start 0)
  have first : complete bytes 20 = [(.optionsRequest, 12)] := by simp [complete, scanned]
  have both : complete bytes 184 = [(.optionsRequest, 12), (report, 180)] := by simp [complete, scanned]
  rw [first] at read closed
  rw [both] at read' closed' served
  rw [read] at closed
  rw [read'] at closed'
  refine ⟨size, ?_, ?_, ?_⟩
  · rw [read]
    obtain ⟨e, failed⟩ := Option.ne_none_iff_exists'.1 fun ended => absurd (closed.1 ended) (by decide)
    exact ⟨e, congrArg _ failed⟩
  · rw [read']
    obtain ⟨e, failed⟩ := Option.ne_none_iff_exists'.1 fun ended => absurd (closed'.1 ended) (by decide)
    exact ⟨e, congrArg _ failed⟩
  · exact served.merged

end Stream

end Microbench
