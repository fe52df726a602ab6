import Microbench.Proofs.Live.Course
import Microbench.Proofs.Link.Barrier

/-!
A run among its workers. The parent follows its course step by step. Meanwhile a worker that runs connects,
sends and goes away, connections are accepted, and handlers act on what was sent, each when it comes to it:
a wait for a worker ends when the worker has exited, and a wait for handlers when those in the registry have
ended. Nothing else orders these steps.
-/

namespace Microbench

open Link

section

variable {σ : Type} (s : Server σ)

instance (i : Nat) {p : Connection → Prop} [DecidablePred p] : Decidable (s.Has i p) :=
  inferInstanceAs (Decidable (∃ c, c ∈ s.connections[i]? ∧ p c))

instance (f : Frame → Prop) [DecidablePred f] (frames : List Frame) :
    Decidable (∃ g, frames.head? = some g ∧ f g) := inferInstanceAs (Decidable (∃ g, g ∈ frames.head? ∧ f g))

instance : DecidablePred s.Enabled
  | .connect _ => inferInstanceAs (Decidable (s.listening = true))
  | .send i => inferInstanceAs (Decidable (s.Has i fun c => ¬ c.gone ∧ ∃ f, c.unsent.head? = some f ∧ f.encode.isOk))
  | .leave i => inferInstanceAs (Decidable (s.Has i fun c => ¬ c.gone))
  | .accept i => inferInstanceAs (Decidable (s.listening ∧ s.Has i fun c => c.stage = .queued))
  | .act i => inferInstanceAs (Decidable (s.Has i fun c => c.stage.isLive ∧ c.inbox ≠ []))
  | .lose i _ =>
    inferInstanceAs (Decidable (s.Has i fun c => c.stage.isLive ∧ c.inbox.head? = some .optionsRequest ∧ c.gone))
  | .hangUp i => inferInstanceAs (Decidable (s.Has i fun c => c.stage.isLive ∧ c.inbox = [] ∧ c.gone))
  | .beginWait | .stopListening => inferInstanceAs (Decidable (s.listening ∧ ¬ s.waiting))
  | .endWait => inferInstanceAs (Decidable (s.waiting ∧ ∀ c ∈ s.connections, c.stage ≠ .awaited))
  | .abort i => inferInstanceAs (Decidable (¬ s.listening ∧ s.Has i fun c => c.stage.isLive))
  | .finishClosing => inferInstanceAs (Decidable (¬ s.listening ∧ ∀ c ∈ s.connections, c.stage = .ended))
  | .tell _ => .isTrue trivial
  | .merge _ _ => inferInstanceAs (Decidable (¬ s.closed))

end

/-- How far the parent has come: it goes on with its course, or a worker runs, or the worker has exited, or
the parent waits for handlers behind that, or it closes the server. -/
inductive Control (α : Type) where
  | ready (p : Course α)
  | hosting (next : Option Int → Course α)
  | exited (code : Option Int) (next : Option Int → Course α)
  | waiting (code : Option Int) (next : Option Int → Course α)
  | closing (p : Course α)

/-- A run, the server of its link, for each connection the number of the worker that has made it, and for
each attempt to start a worker why it has failed or how the worker has exited. -/
structure Live (σ α : Type) where
  server : Server σ
  control : Control α
  owners : List Nat := []
  results : List (Except String (Option Int)) := []

namespace Control

variable {α : Type}

instance : DecidablePred fun c : Control α => ∃ outcome, c = .ready (.done outcome)
  | ready (.done outcome) => .isTrue ⟨outcome, rfl⟩
  | ready (.tell ..) | ready (.note ..) | ready (.merge ..) | ready (.look _) | ready (.start ..) | ready (.close _)
  | hosting _ | exited .. | waiting .. | closing _ => .isFalse nofun

def isHosting : Control α → Bool
  | hosting _ => true
  | ready _ | exited .. | waiting .. | closing _ => false

def isClosing : Control α → Bool
  | closing _ => true
  | ready _ | hosting _ | exited .. | waiting .. => false

def isStarting : Control α → Bool
  | ready (.start ..) => true
  | ready _ | hosting _ | exited .. | waiting .. | closing _ => false

def CanAdvance {σ : Type} (s : Server σ) : Control α → Prop
  | ready (.done _) | hosting _ => False
  | ready (.tell ..) | ready (.note ..) | ready (.look _) => True
  | ready (.merge d run _) => s.Enabled (.merge d run)
  | ready (.start ..) => s.listening
  | ready (.close _) => s.Enabled .stopListening
  | exited .. => s.Enabled .beginWait
  | waiting .. => s.Enabled .endWait
  | closing _ => s.Enabled .finishClosing

instance {σ : Type} (s : Server σ) : DecidablePred (CanAdvance s : Control α → Prop)
  | ready (.done _) | hosting _ => .isFalse id
  | ready (.tell ..) | ready (.note ..) | ready (.look _) => .isTrue trivial
  | ready (.merge d run _) => inferInstanceAs (Decidable (s.Enabled (.merge d run)))
  | ready (.start ..) => inferInstanceAs (Decidable (s.listening = true))
  | ready (.close _) => inferInstanceAs (Decidable (s.Enabled .stopListening))
  | exited .. => inferInstanceAs (Decidable (s.Enabled .beginWait))
  | waiting .. => inferInstanceAs (Decidable (s.Enabled .endWait))
  | closing _ => inferInstanceAs (Decidable (s.Enabled .finishClosing))

end Control

/-- A worker waits for its options before it sends anything but the request for them. -/
def Link.Connection.MaySend (c : Connection) : Prop :=
  c.answered = true ∨ c.sent = [] ∧ c.unsent.head? = some .optionsRequest

instance (c : Connection) : Decidable c.MaySend := inferInstanceAs (Decidable (_ ∨ _))

def Link.Server.noted {σ : Type} (s : Server σ) (a : Action) : Server σ :=
  { s with world := ((Act.note a).run s.world).2 }

namespace Live

/-- What can happen next: the parent does what is next in its course, or fails to start a worker, or sees
how one has exited, or something happens to a connection. -/
inductive Step where
  | advance
  | fail (reason : String)
  | exit (code : Option Int)
  | move (m : Move)

variable {σ α : Type}

def start (course : Course α) (sink : σ) : Live σ α := { server := .start sink, control := .ready course }

/-- What workers and the tasks of the server may do. A worker connects, sends and leaves while it runs, and
handlers are aborted when the server is closed. -/
def Allows (s : Live σ α) : Move → Prop
  | .connect _ | .leave _ => s.control.isHosting
  | .send i => s.control.isHosting ∧ s.server.Has i Connection.MaySend
  | .accept _ | .act _ | .lose .. | .hangUp _ => True
  | .abort _ => s.control.isClosing
  | .beginWait | .endWait | .stopListening | .finishClosing | .tell _ | .merge .. => False

/-- When a step can be taken. The connections of a worker are closed by the time it has exited. -/
def Enabled (s : Live σ α) : Step → Prop
  | .advance => s.control.CanAdvance s.server
  | .fail _ => s.control.isStarting
  | .exit _ => s.control.isHosting ∧ ∀ c ∈ s.server.connections, c.gone
  | .move m => s.Allows m ∧ s.server.Enabled m

instance (s : Live σ α) : DecidablePred s.Allows
  | .connect _ | .leave _ => inferInstanceAs (Decidable (s.control.isHosting = true))
  | .send i => inferInstanceAs (Decidable (s.control.isHosting ∧ s.server.Has i Connection.MaySend))
  | .accept _ | .act _ | .lose .. | .hangUp _ => .isTrue trivial
  | .abort _ => inferInstanceAs (Decidable (s.control.isClosing = true))
  | .beginWait | .endWait | .stopListening | .finishClosing | .tell _ | .merge .. => .isFalse id

instance (s : Live σ α) : DecidablePred s.Enabled
  | .advance => inferInstanceAs (Decidable (s.control.CanAdvance s.server))
  | .fail _ => inferInstanceAs (Decidable (s.control.isStarting = true))
  | .exit _ => inferInstanceAs (Decidable (s.control.isHosting ∧ ∀ c ∈ s.server.connections, c.gone))
  | .move m => inferInstanceAs (Decidable (s.Allows m ∧ s.server.Enabled m))

def advance (sink : Sink σ) (options : Options) (s : Live σ α) : Live σ α :=
  match s.control with
  | .ready (.done _) | .hosting _ => s
  | .ready (.tell e next) =>
    { s with
      server := s.server.next sink options (.tell e)
      control := .ready (next ((Act.tell sink e).run s.server.world).1) }
  | .ready (.note r next) => { s with server := s.server.noted r.action, control := .ready next }
  | .ready (.merge d run next) =>
    { s with server := s.server.next sink options (.merge d run), control := .ready next }
  | .ready (.look next) => { s with control := .ready (next s.server.world.store) }
  | .ready (.start args next) =>
    { s with server := s.server.noted (.launched args), control := .hosting fun code => next (.ok code) }
  | .ready (.close next) =>
    { s with server := s.server.next sink options .stopListening, control := .closing next }
  | .exited code next =>
    { s with server := s.server.next sink options .beginWait, control := .waiting code next }
  | .waiting code next =>
    { s with
      server := s.server.next sink options .endWait
      control := .ready (next code)
      results := s.results ++ [.ok code] }
  | .closing next => { s with server := s.server.next sink options .finishClosing, control := .ready next }

/-- What a step leads to. A connection belongs to the worker that runs when it is made. -/
def next (sink : Sink σ) (options : Options) (s : Live σ α) : Step → Live σ α
  | .advance => s.advance sink options
  | .fail reason => match s.control with
    | .ready (.start args next) =>
      { s with
        server := s.server.noted (.launched args)
        control := .ready (next (.error reason))
        results := s.results ++ [.error reason] }
    | _ => s
  | .exit code => match s.control with
    | .hosting next => { s with control := .exited code next }
    | _ => s
  | .move m =>
    let owners := match m with
      | .connect _ => s.owners ++ [s.results.length]
      | _ => s.owners
    { s with server := s.server.next sink options m, owners }

inductive Path (sink : Sink σ) (options : Options) : Live σ α → List Step → Live σ α → Prop where
  | refl (s : Live σ α) : Path sink options s [] s
  | tail {s t : Live σ α} {ms : List Step} {m : Step} (before : Path sink options s ms t)
      (enabled : t.Enabled m) : Path sink options s (ms ++ [m]) (t.next sink options m)

def Enables (sink : Sink σ) (options : Options) (s : Live σ α) : List Step → Prop
  | [] => True
  | m :: ms => s.Enabled m ∧ (s.next sink options m).Enables sink options ms

instance decidableEnables (sink : Sink σ) (options : Options) (s : Live σ α) :
    (ms : List Step) → Decidable (s.Enables sink options ms)
  | [] => .isTrue trivial
  | m :: ms =>
    have := decidableEnables sink options (s.next sink options m) ms
    inferInstanceAs (Decidable (s.Enabled m ∧ (s.next sink options m).Enables sink options ms))

section

variable {sink : Sink σ} {options : Options} {s t u : Live σ α} {ms : List Step}

theorem Path.append {ms' : List Step} (first : Path sink options s ms t)
    (second : Path sink options t ms' u) : Path sink options s (ms ++ ms') u := by
  induction second with
  | refl => simpa using first
  | tail _ enabled ih =>
    rw [← List.append_assoc]
    exact ih.tail enabled

theorem Path.of_enables (enables : s.Enables sink options ms) :
    Path sink options s ms (ms.foldl (next sink options) s) := by
  induction ms generalizing s with
  | nil => exact .refl s
  | cons m ms ih => exact ((Path.refl s).tail enables.1).append (ih enables.2)

end

end Live

end Microbench
