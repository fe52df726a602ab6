import Microbench.Link.Dispatch

/-!
Messages on the link. A frame is written as the length of its payload, four bytes, and the
payload; a payload beyond `Link.maxFrame` is refused.
-/

namespace Microbench

open Wire Wire.Codec

/-- What is sent on a link. The arguments of a forwarded call are read by its method, when it is applied. -/
inductive Frame where
  | outputCall (method : String) (args : ByteArray)
  | optionsRequest
  | optionsResponse (options : Options)
  | report (descriptor : Descriptor) (result : Run)
  | finish
  deriving DecidableEq

namespace Frame

def kind : Frame → String
  | outputCall .. => "OutputCall"
  | optionsRequest => "InfraRequest"
  | optionsResponse _ => "InfraResponse"
  | report .. => "ResultsReport"
  | finish => "Finish"

def ofCall (c : Call) : Frame := outputCall c.method.name c.args

/-- What follows the place of a kind of frame. -/
def payloadCase : Nat → Reader Frame
  | 0 => (Codec.text.pair bytes).read.map fun (method, args) => outputCall method args
  | 1 => (variant [()] (by simp) (by decide)).read.map fun _ => optionsRequest
  | 2 => Options.codec.read.map optionsResponse
  | 3 => (Descriptor.codec.pair Run.codec).read.map fun (d, r) => report d r
  | 4 => .pure finish
  | n => .fail (.invalidVariant (UInt32.ofNat n) 5)

def codec : Codec Frame where
  encode
    | outputCall method args => little 4 0 ++ (Codec.text.pair bytes).encode (method, args)
    | optionsRequest => little 4 1 ++ little 4 0
    | optionsResponse o => little 4 2 ++ Options.codec.encode o
    | report d r => little 4 3 ++ (Descriptor.codec.pair Run.codec).encode (d, r)
    | finish => little 4 4
  read := (Reader.number 4).andThen payloadCase
  reads f h := by
    cases f with
    | outputCall method args =>
      simp only [ByteArray.size_append] at h
      exact (Reader.At.number 4 0 (by decide)).andThen
        (((Codec.text.pair Codec.bytes).reads (method, args) (by omega)).map _)
    | optionsRequest =>
      exact (Reader.At.number 4 1 (by decide)).andThen
        (((variant [()] (by simp) (by decide)).reads () (by simp [variant])).map _)
    | optionsResponse o =>
      simp only [ByteArray.size_append] at h
      exact (Reader.At.number 4 2 (by decide)).andThen
        ((Options.codec.reads o (by omega)).map _)
    | report d r =>
      simp only [ByteArray.size_append] at h
      exact (Reader.At.number 4 3 (by decide)).andThen
        (((Descriptor.codec.pair Run.codec).reads (d, r) (by omega)).map _)
    | finish => exact (Reader.At.number 4 4 (by decide)).then_pure rfl
  size_pos f := by cases f <;> simp only [ByteArray.size_append, size_little] <;> omega

/-- The frame with its length in front, ready to be written. -/
def encode (f : Frame) : Except LinkError ByteArray :=
  let payload := codec.encode f
  if payload.size > Link.maxFrame then .error (.frameTooLarge payload.size)
  else .ok (little 4 payload.size ++ payload)

def decode (payload : ByteArray) : Except LinkError Frame :=
  (codec.decode payload).mapError .decode

end Frame

end Microbench
