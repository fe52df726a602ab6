import Microbench.Link.Frame

/-!
Frames read from a connection. What arrives is a list of pieces, which may be cut anywhere;
`Filled.of` gathers a fixed number of bytes from them, and `Stream.frames` reads frames until the
connection ends. Ending between two frames is the only good end.
-/

namespace Microbench

inductive Arrival where
  | bytes (piece : ByteArray)
  | interrupted
  | failed (reason : String)

/-- How reads are made: a blocking read that was interrupted is made again, an asynchronous one
fails. -/
inductive ReadStyle where
  | blocking
  | async
  deriving DecidableEq, Repr

def ReadStyle.earlyEnd : ReadStyle → String
  | blocking => "failed to fill whole buffer"
  | async => "early eof"

namespace Stream

def size : List Arrival → Nat
  | [] => 0
  | .bytes piece :: rest => piece.size + size rest
  | _ :: rest => size rest

end Stream

inductive Filled where
  | full (bytes : ByteArray) (rest : List Arrival)
  | ended (got : Nat)
  | failed (reason : String)

def Filled.of (style : ReadStyle) : Nat → ByteArray → List Arrival → Filled
  | 0, got, arrivals => full got arrivals
  | _ + 1, got, [] => ended got.size
  | wanted + 1, got, .bytes piece :: rest =>
    if piece.size ≤ wanted + 1 then Filled.of style (wanted + 1 - piece.size) (got ++ piece) rest
    else full (got ++ piece.extract 0 (wanted + 1))
      (.bytes (piece.extract (wanted + 1) piece.size) :: rest)
  | wanted + 1, got, .interrupted :: rest =>
    match style with
    | .blocking => Filled.of style (wanted + 1) got rest
    | .async => failed "operation interrupted"
  | _ + 1, _, .failed reason :: _ => failed reason

/-- The bytes asked for are taken from those that arrive. -/
theorem Filled.size_of {style : ReadStyle} {wanted : Nat} {got bytes : ByteArray}
    {arrivals rest : List Arrival} (h : Filled.of style wanted got arrivals = full bytes rest) :
    Stream.size rest + wanted = Stream.size arrivals := by
  induction arrivals generalizing wanted got with
  | nil => cases wanted <;> simp_all [Filled.of]
  | cons a arrivals ih =>
    cases wanted with
    | zero => simp_all [Filled.of]
    | succ wanted =>
      cases a with
      | bytes piece =>
        rw [Filled.of] at h
        split at h
        · have := ih h; simp only [Stream.size]; omega
        · obtain ⟨-, rfl⟩ := Filled.full.inj h
          simp only [Stream.size, ByteArray.size_extract]; omega
      | interrupted =>
        cases style with
        | blocking => rw [Filled.of] at h; simpa [Stream.size] using ih h
        | async => simp [Filled.of] at h
      | failed reason => simp [Filled.of] at h

namespace Stream

/-- How one attempt to read a frame ends. -/
inductive Next where
  | frame (frame : Frame) (rest : List Arrival)
  | finished
  | failed (error : LinkError)

def lengthOf (bytes : ByteArray) : Nat := Wire.Reader.littleEndian bytes 0 4

/-- Read one frame. -/
def next (style : ReadStyle) (arrivals : List Arrival) : Next :=
  match Filled.of style 4 .empty arrivals with
  | .failed reason => .failed (.io reason)
  | .ended 0 => .finished
  | .ended got => .failed (.io s!"stream closed after {got} of 4 length bytes")
  | .full bytes rest =>
    let length := lengthOf bytes
    if length > Link.maxFrame then .failed (.frameTooLarge length)
    else match Filled.of style length .empty rest with
      | .failed reason => .failed (.io reason)
      | .ended _ => .failed (.io style.earlyEnd)
      | .full payload rest =>
        match Frame.decode payload with
        | .ok frame => .frame frame rest
        | .error e => .failed e

/-- A frame takes at least the bytes of its length. -/
theorem size_next {style : ReadStyle} {arrivals rest : List Arrival} {f : Frame}
    (h : next style arrivals = .frame f rest) : size rest < size arrivals := by
  unfold next at h
  split at h <;> try contradiction
  rename_i bytes after first
  simp only at h
  split at h <;> try contradiction
  split at h <;> try contradiction
  rename_i payload last second
  split at h <;> try contradiction
  obtain ⟨-, rfl⟩ := Next.frame.inj h
  have := Filled.size_of first
  have := Filled.size_of second
  omega

/-- The frames up to the end of the connection, and what went wrong there, if anything. -/
def frames (style : ReadStyle) (arrivals : List Arrival) : List Frame × Option LinkError :=
  match _ : next style arrivals with
  | .finished => ([], none)
  | .failed e => ([], some e)
  | .frame f rest =>
    let (more, stop) := frames style rest
    (f :: more, stop)
termination_by size arrivals
decreasing_by exact size_next ‹_›

end Stream

end Microbench
