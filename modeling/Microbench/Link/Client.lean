import Microbench.Link.Server

/-!
The worker's side of the link. Calls are sent as they are made; the start and the end of the whole
run belong to the parent and are not sent. Nothing can be done before the parent has answered the
request for its options.
-/

namespace Microbench.Link

abbrev Network := String → UInt16 → Except String Unit

def connect (network : Network) (host : String) (port : UInt16) : Except LinkError Unit :=
  (network host port).mapError .io

def send (f : Frame) (sent : ByteArray) : Except LinkError ByteArray := f.encode.map (sent ++ ·)

/-- The sink of a worker; its state is what has been sent. -/
def sink : Sink ByteArray := fun e sent =>
  match e.call? with
  | none => (.ok (), sent)
  | some call =>
    match send (.ofCall call) sent with
    | .ok sent => (.ok (), sent)
    | .error e => (.error (.transport e), sent)

def readOptions (arrivals : List Arrival) : Except LinkError Options :=
  match Stream.next .blocking arrivals with
  | .frame (.optionsResponse o) _ => .ok o
  | .frame f _ => .error (.unexpectedFrame "InfraResponse" f.kind)
  | .finished => .error .disconnected
  | .failed e => .error e

inductive Step where
  | tell (event : Event)
  | send (frame : Frame)
  | raw (bytes : ByteArray)
  | request

structure Played where
  sent : ByteArray := .empty
  answers : List (Option Options) := []

/-- Requests among the frames that a handler of these options answers. -/
def answered (options : Options) (sent : ByteArray) : Nat :=
  let handler : Handler Unit := ⟨Sink.silent, options, 0⟩
  (handler.served (Stream.frames .async [.bytes sent]).1).count .optionsRequest

/-- Take one step; a frame that is too large is not sent. A request is lost if the handler has
stopped by then. -/
def Played.step (options : Options) (p : Played) : Step → Played
  | .tell e => { p with sent := (sink e p.sent).2 }
  | .send f => { p with sent := (Link.send f p.sent).toOption.getD p.sent }
  | .raw bytes => { p with sent := p.sent ++ bytes }
  | .request =>
    let sent := (Link.send .optionsRequest p.sent).toOption.getD p.sent
    let reply := if answered options p.sent < answered options sent then some options else none
    ⟨sent, p.answers ++ [reply]⟩

def play (options : Options) (steps : List Step) : Played := steps.foldl (Played.step options) {}

end Microbench.Link
