import Microbench.Link.Server

/-!
A server and its clients taking turns. Connections are made, accepted and acted on in steps that can
come in any order; only the frames of one connection keep theirs. The parent waits for handlers and
in the end closes the server. `Server.Path` is an order in which they do.

Clients send what they like, also without asking for the options or waiting for the answer. What a
client has sent is delivered even if it is gone by then.
-/

namespace Microbench.Link

/-- How far the server has come with a connection. It is `queued` until it is accepted; then its handler is
`registered`, and `awaited` when a wait has taken it out of the registry. -/
inductive Stage where
  | queued
  | registered
  | awaited
  | ended
  deriving DecidableEq, Repr

def Stage.isLive : Stage → Bool
  | registered | awaited => true
  | queued | ended => false

/-- What a client has sent is in its `inbox` until it was acted on. One that is `gone` has closed its side of the
connection. -/
structure Connection where
  stage : Stage := .queued
  inbox : List Frame := []
  acted : List Frame := []
  unsent : List Frame
  answered : Bool := false
  gone : Bool := false
  deriving Inhabited

def Connection.sent (c : Connection) : List Frame := c.acted ++ c.inbox

/-- What has to be known of a server to say what can happen next: whether it listens, whether the parent waits for
handlers, and whether it was closed. -/
structure Server (σ : Type) where
  world : World σ
  connections : List Connection := []
  listening : Bool := true
  waiting : Bool := false
  closed : Bool := false

/-- One step of the server, of a client or of the parent. A handler may `act` on a frame, `lose` the answer to the
request of a client that is gone, and `hangUp` behind the last frame. `beginWait` takes all handlers out of the
registry, and `abort` ends one between two frames. -/
inductive Move where
  | connect (frames : List Frame)
  | send (i : Nat)
  | leave (i : Nat)
  | accept (i : Nat)
  | act (i : Nat)
  | lose (i : Nat) (reason : String)
  | hangUp (i : Nat)
  | beginWait
  | endWait
  | stopListening
  | abort (i : Nat)
  | finishClosing
  | tell (e : Event)
  | merge (d : Descriptor) (run : Run)

namespace Server

variable {σ : Type}

def start (sink : σ) : Server σ := { world := World.start sink }

def update (s : Server σ) (i : Nat) (f : Connection → Connection) : Server σ :=
  { s with connections := s.connections.modify i f }

def Has (s : Server σ) (i : Nat) (p : Connection → Prop) : Prop := ∃ c, s.connections[i]? = some c ∧ p c

def actOn (sink : Sink σ) (options : Options) (s : Server σ) (i : Nat) (c : Connection) : Server σ :=
  match c.inbox with
  | [] => s
  | f :: rest =>
    let handler : Handler σ := ⟨sink, options, i + 1⟩
    let acted : Connection := { c with inbox := rest, acted := c.acted ++ [f] }
    match (handler.react f).run s.world with
    | (.ok (.answer _), world) =>
      let acted := if f = .optionsRequest then { acted with answered := true } else acted
      { s with world, connections := s.connections.set i acted }
    | (.ok (.stop e), world) =>
      { s with
        world := ((handler.close e).run world).2
        connections := s.connections.set i { acted with stage := .ended } }
    | (.error _, world) =>
      { s with world, connections := s.connections.set i { acted with stage := .ended } }

/-- What a handler makes of a request whose answer it cannot write. -/
def lose (sink : Sink σ) (options : Options) (s : Server σ) (i : Nat) (reason : String) : Server σ :=
  let handler : Handler σ := ⟨sink, options, i + 1⟩
  { s.update i fun c =>
      { c with inbox := c.inbox.drop 1, acted := c.acted ++ c.inbox.take 1, stage := .ended } with
    world := ((handler.close (some (.io reason))).run s.world).2 }

/-- When a step can be taken. -/
def Enabled (s : Server σ) : Move → Prop
  | .connect _ => s.listening
  | .send i => s.Has i fun c => ¬ c.gone ∧ ∃ f, c.unsent.head? = some f ∧ f.encode.isOk
  | .leave i => s.Has i fun c => ¬ c.gone
  | .accept i => s.listening ∧ s.Has i fun c => c.stage = .queued
  | .act i => s.Has i fun c => c.stage.isLive ∧ c.inbox ≠ []
  | .lose i _ => s.Has i fun c => c.stage.isLive ∧ c.inbox.head? = some .optionsRequest ∧ c.gone
  | .hangUp i => s.Has i fun c => c.stage.isLive ∧ c.inbox = [] ∧ c.gone
  | .beginWait => s.listening ∧ ¬ s.waiting
  | .endWait => s.waiting ∧ ∀ c ∈ s.connections, c.stage ≠ .awaited
  | .stopListening => s.listening ∧ ¬ s.waiting
  | .abort i => ¬ s.listening ∧ s.Has i fun c => c.stage.isLive
  | .finishClosing => ¬ s.listening ∧ ∀ c ∈ s.connections, c.stage = .ended
  | .tell _ => True
  | .merge _ _ => ¬ s.closed

def next (sink : Sink σ) (options : Options) (s : Server σ) : Move → Server σ
  | .connect frames => { s with connections := s.connections ++ [{ unsent := frames }] }
  | .send i => s.update i fun c => { c with inbox := c.inbox ++ c.unsent.take 1, unsent := c.unsent.drop 1 }
  | .leave i => s.update i ({ · with gone := true })
  | .accept i => s.update i ({ · with stage := .registered })
  | .act i => match s.connections[i]? with
    | some c => s.actOn sink options i c
    | none => s
  | .lose i reason => s.lose sink options i reason
  | .hangUp i | .abort i => s.update i ({ · with stage := .ended })
  | .beginWait =>
    { s with
      waiting := true
      connections := s.connections.map fun c => if c.stage = .registered then { c with stage := .awaited } else c }
  | .endWait => { s with waiting := false }
  | .stopListening =>
    { s with
      listening := false
      connections := s.connections.map fun c => if c.stage = .queued then { c with stage := .ended } else c }
  | .finishClosing => { s with closed := true }
  | .tell e => { s with world := ((Act.tell sink e).run s.world).2 }
  | .merge d run => { s with world := ((Act.merge d run).run s.world).2 }

/-- From one state to another by these moves. -/
inductive Path (sink : Sink σ) (options : Options) : Server σ → List Move → Server σ → Prop where
  | refl (s : Server σ) : Path sink options s [] s
  | tail {s t : Server σ} {ms : List Move} {m : Move} (before : Path sink options s ms t)
      (enabled : t.Enabled m) : Path sink options s (ms ++ [m]) (t.next sink options m)

end Server

end Microbench.Link
