import Microbench.Link.Interleaving

/-!
How a server is closed. The parent tells the task that accepts connections to stop and waits for its
end. Then it takes all handlers out of the registry, aborts them, and waits for each of them. Between
these steps the task and the handlers go on, so a connection may have been taken up that has no handler
yet, and a handler may have read a frame that it has not acted on. When the server is closed the parent
ends the run.

`Closing` follows a `Server` through all of this. A step is a move of the server, or none.
-/

namespace Microbench.Link

/-- The task that accepts connections. It may be `holding` one that has no handler yet. -/
inductive Acceptor where
  | listening
  | holding (i : Nat)
  | ended (failure : Option String)
  deriving DecidableEq, Repr

def Acceptor.hasEnded : Acceptor → Bool
  | ended _ => true
  | listening | holding _ => false

/-- What the parent is doing, with the handlers that it has taken out of the registry for it. -/
inductive Phase where
  | running
  | waiting (handlers : List Nat)
  | stopping
  | joining (handlers : List Nat)
  | closed
  | concluding (results : Store)
  | flushing
  | done

namespace Phase

def isOpen : Phase → Bool
  | running | waiting _ | stopping => true
  | joining _ | closed | concluding _ | flushing | done => false

def isWaiting : Phase → Bool
  | waiting _ => true
  | _ => false

def awaited : Phase → List Nat
  | waiting handlers => handlers
  | _ => []

def aborted : Phase → List Nat
  | joining handlers => handlers
  | _ => []

end Phase

/-- A server and those who close it. While it is `attached`, the parent has not told the accepting task to stop;
`reading` are the handlers that have read a frame and not yet acted on it. -/
structure Closing (σ : Type) where
  server : Server σ
  acceptor : Acceptor := .listening
  attached : Bool := true
  registry : List Nat := []
  reading : List Nat := []
  phase : Phase := .running

namespace Closing

/-- What can happen next. `register` gives its handler to the connection that was taken up, `stop` and `fail` end the
accepting task, and `terminate`, `detach` and `finish` close the server. -/
inductive Step where
  | connect (frames : List Frame)
  | send (i : Nat)
  | leave (i : Nat)
  | takeUp (i : Nat)
  | register
  | stop
  | fail (reason : String)
  | read (i : Nat)
  | act (i : Nat)
  | lose (i : Nat) (reason : String)
  | hangUp (i : Nat)
  | abort (i : Nat)
  | tell (c : Call)
  | merge (d : Descriptor) (run : Run)
  | beginWait
  | endWait
  | terminate
  | detach
  | finish
  | snapshot
  | tellEnd
  | flush

inductive Party where
  | client
  | acceptor
  | handler
  | parent
  deriving DecidableEq, Repr

def Step.party : Step → Party
  | connect _ | send _ | leave _ => .client
  | takeUp _ | register | stop | fail _ => .acceptor
  | read _ | act _ | lose .. | hangUp _ | abort _ => .handler
  | tell _ | merge .. | beginWait | endWait | terminate | detach | finish | snapshot | tellEnd | flush =>
    .parent

variable {σ : Type}

def start (sink : σ) : Closing σ := { server := .start sink }

def HaveEnded (s : Closing σ) (handlers : List Nat) : Prop :=
  ∀ i ∈ handlers, s.server.Has i fun c => c.stage = .ended

/-- When a step can be taken. An aborted handler may go on for a while, or end at once. -/
def Enabled (s : Closing σ) : Step → Prop
  | .connect _ => ¬ s.acceptor.hasEnded
  | .send i => s.server.Enabled (.send i)
  | .leave i => s.server.Enabled (.leave i)
  | .takeUp i => s.acceptor = .listening ∧ s.server.Has i fun c => c.stage = .queued
  | .register => ∃ i, s.acceptor = .holding i
  | .stop => s.acceptor = .listening ∧ ¬ s.attached
  | .fail _ => s.acceptor = .listening
  | .read i => s.server.Enabled (.act i) ∧ i ∉ s.reading
  | .act i => s.server.Enabled (.act i) ∧ i ∈ s.reading
  | .lose i reason => s.server.Enabled (.lose i reason) ∧ i ∈ s.reading
  | .hangUp i => s.server.Enabled (.hangUp i)
  | .abort i => i ∈ s.phase.aborted ∧ s.server.Has i fun c => c.stage.isLive
  | .tell _ | .merge _ _ | .beginWait => s.phase = .running
  | .endWait => ∃ handlers, s.phase = .waiting handlers ∧ s.HaveEnded handlers
  | .terminate => s.phase = .running ∨ s.phase = .closed
  | .detach => s.phase = .stopping ∧ s.acceptor.hasEnded
  | .finish => ∃ handlers, s.phase = .joining handlers ∧ s.HaveEnded handlers
  | .snapshot => s.phase = .closed
  | .tellEnd => ∃ results, s.phase = .concluding results
  | .flush => s.phase = .flushing

def move? (s : Closing σ) : Step → Option Move
  | .connect frames => some (.connect frames)
  | .send i => some (.send i)
  | .leave i => some (.leave i)
  | .register => match s.acceptor with
    | .holding i => some (.accept i)
    | _ => none
  | .act i => some (.act i)
  | .lose i reason => some (.lose i reason)
  | .hangUp i => some (.hangUp i)
  | .abort i => some (.abort i)
  | .tell c => some (.tell (.call c))
  | .merge d run => some (.merge d run)
  | .beginWait => some .beginWait
  | .endWait => some .endWait
  | .detach => some .stopListening
  | .finish => some .finishClosing
  | .tellEnd => match s.phase with
    | .concluding results => some (.tell (.runEnd results))
    | _ => none
  | .flush => some (.tell (.call .flush))
  | .takeUp _ | .stop | .fail _ | .read _ | .terminate | .snapshot => none

def serverNext (sink : Sink σ) (options : Options) (s : Closing σ) (m : Step) : Server σ :=
  match s.move? m with
  | some move => s.server.next sink options move
  | none => s.server

def phaseAfter : Except Failure Unit → Phase
  | .ok () => .flushing
  | .error _ => .done

/-- What a step leads to. A server that is closed once more has no accepting task to wait for. -/
def next (sink : Sink σ) (options : Options) (s : Closing σ) (m : Step) : Closing σ :=
  let s' : Closing σ := { s with server := s.serverNext sink options m }
  match m with
  | .takeUp i => { s' with acceptor := .holding i }
  | .register => match s.acceptor with
    | .holding i => { s' with acceptor := .listening, registry := i :: s.registry }
    | _ => s'
  | .stop => { s' with acceptor := .ended none }
  | .fail reason => { s' with acceptor := .ended (some reason) }
  | .read i => { s' with reading := i :: s.reading }
  | .act i | .lose i _ | .hangUp i | .abort i => { s' with reading := s.reading.erase i }
  | .beginWait => { s' with phase := .waiting s.registry, registry := [] }
  | .endWait => { s' with phase := .running }
  | .terminate =>
    if s.attached then { s' with phase := .stopping, attached := false }
    else { s' with phase := .joining s.registry, registry := [] }
  | .detach => { s' with phase := .joining s.registry, registry := [] }
  | .finish => { s' with phase := .closed }
  | .snapshot => { s' with phase := .concluding s.server.world.store }
  | .tellEnd => match s.phase with
    | .concluding results =>
      { s' with phase := phaseAfter ((Act.tell sink (.runEnd results)).run s.server.world).1 }
    | _ => s'
  | .flush => { s' with phase := .done }
  | .connect _ | .send _ | .leave _ | .tell _ | .merge _ _ => s'

inductive Path (sink : Sink σ) (options : Options) : Closing σ → List Step → Closing σ → Prop where
  | refl (s : Closing σ) : Path sink options s [] s
  | tail {s t : Closing σ} {ms : List Step} {m : Step} (before : Path sink options s ms t)
      (enabled : t.Enabled m) : Path sink options s (ms ++ [m]) (t.next sink options m)

end Closing

end Microbench.Link
