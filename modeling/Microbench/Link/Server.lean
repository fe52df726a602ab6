import Microbench.Link.Stream
import Microbench.World

/-!
The parent's side of the link. A handler acts on the frames of one connection in order: it answers
requests for the options, merges reports and passes calls on to the sink. It stops at the first
frame that ends the connection, and whatever comes behind that frame has no effect. No failure of
the sink stops it.
-/

namespace Microbench.Link

structure Handler (σ : Type) where
  sink : Sink σ
  options : Options
  number : Nat

namespace Handler

variable {σ : Type}

inductive Reaction where
  | answer (bytes : ByteArray)
  | stop (error : Option LinkError)

def pass (h : Handler σ) (e : Event) (logged : String) : Act σ Unit := do
  match ← Act.attempt (Act.tell h.sink e) with
  | .ok () => return ()
  | .error f => Act.log .warn (logged ++ ": " ++ f.fullText)

/-- Pass a call on. One that cannot be read is told of instead, and one that belongs to the parent
is dropped. -/
def forward (h : Handler σ) (method : String) (args : ByteArray) : Act σ Unit := do
  match Call.decode method args with
  | .ok call => h.pass (.call call) ("Forwarded " ++ method ++ " call failed")
  | .error (.forbidden name) => Act.log .warn ("Ignoring forbidden forwarded method: " ++ name)
  | .error e =>
    Act.log .warn e.message
    h.pass (.call (.println ("WARNING: " ++ e.message))) "Failed to print to output sink"

def response (h : Handler σ) : Except LinkError ByteArray := (Frame.optionsResponse h.options).encode

def unexpected (f : Frame) : LinkError :=
  .unexpectedFrame "OutputCall, InfraRequest, ResultsReport or Finish" f.kind

def react (h : Handler σ) : Frame → Act σ Reaction
  | .optionsRequest => return match h.response with
    | .ok bytes => .answer bytes
    | .error e => .stop (some e)
  | .report d run => do
    Act.merge d run
    return .answer .empty
  | .outputCall method args => do
    h.forward method args
    return .answer .empty
  | .finish => return .stop none
  | .optionsResponse o => return .stop (some (unexpected (.optionsResponse o)))

def close (h : Handler σ) : Option LinkError → Act σ Unit
  | none => return ()
  | some e => Act.log .warn (s!"Closing link connection {h.number}: " ++ e.message)

/-- Act on frames, and on what went wrong behind them. The bytes written back are the outcome. -/
def handle (h : Handler σ) : List Frame → Option LinkError → Act σ ByteArray
  | [], error => do
    h.close error
    return .empty
  | f :: rest, error => do
    match ← h.react f with
    | .stop e =>
      h.close e
      return .empty
    | .answer bytes =>
      let more ← h.handle rest error
      return bytes ++ more

def serve (h : Handler σ) (arrivals : List Arrival) : Act σ ByteArray :=
  let (frames, error) := Stream.frames .async arrivals
  h.handle frames error

/-- Whether a frame is the last one a handler looks at. -/
def stops (h : Handler σ) : Frame → Bool
  | .finish | .optionsResponse _ => true
  | .optionsRequest => h.response.toOption.isNone
  | _ => false

/-- The frames a handler acts on. -/
def served (h : Handler σ) (frames : List Frame) : List Frame := frames.takeWhile (!h.stops ·)

end Handler

end Microbench.Link
