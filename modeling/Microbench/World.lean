import Microbench.Log
import Microbench.Sink
import Microbench.Worker.Args

/-!
What a run does, and what it leaves behind. Acts change the state of the sink and the store, and
note in a trace what was done, in order; an act that fails leaves what was done before it.
-/

namespace Microbench

/-- Something that was done. `launched` is the attempt to start a worker, `accepted` that its connection was taken up,
and `overheard` that it logged something, which is shown with what is logged here. -/
inductive Action where
  | told (event : Event) (refusal : Option Failure)
  | executed (descriptor : Descriptor) (params : Params) (kind : IterationKind) (index : UInt32)
  | launched (args : WorkerArgs)
  | accepted
  | merged (descriptor : Descriptor) (run : Run)
  | created (path : String)
  | wrote (path text : String)
  | logged (entry : Log.Entry)
  | overheard (entry : Log.Entry)

structure World (σ : Type) where
  sink : σ
  store : Store := .empty
  trace : Array Action := #[]

namespace World

variable {σ : Type}

def start (sink : σ) : World σ := { sink }

/-- Attempts to start a worker. -/
def launches (w : World σ) : Nat :=
  w.trace.toList.countP fun
    | .launched _ => true
    | _ => false

def connections (w : World σ) : Nat :=
  w.trace.toList.countP fun
    | .accepted => true
    | _ => false

def logged (w : World σ) : List Log.Entry :=
  w.trace.toList.filterMap fun
    | .logged e => some e
    | _ => none

end World

abbrev Act (σ : Type) := ExceptT Failure (StateM (World σ))

def refusal? {α : Type} : Except Failure α → Option Failure
  | .ok _ => none
  | .error f => some f

namespace Act

variable {σ α : Type}

def change (f : World σ → World σ) : Act σ Unit := modify f

def note (a : Action) : Act σ Unit := change fun w => { w with trace := w.trace.push a }

def log (level : Log.Level) (text : String) : Act σ Unit := note (.logged ⟨level, text, none⟩)

def tell (sink : Sink σ) (e : Event) : Act σ Unit := ExceptT.mk fun w =>
  let (answer, s) := sink e w.sink
  (answer, { w with sink := s, trace := w.trace.push (.told e (refusal? answer)) })

def merge (d : Descriptor) (run : Run) : Act σ Unit :=
  change fun w => { w with store := w.store.merge d run, trace := w.trace.push (.merged d run) }

/-- Go on whatever comes of an act. -/
def attempt (act : Act σ α) : Act σ (Except Failure α) := ExceptT.mk do
  let outcome ← act.run
  return .ok outcome

def settle (outcome : Except Failure α) : Act σ α := ExceptT.mk (pure outcome)

def counted (f : Nat → Act σ Unit) (first : Nat) : Nat → Act σ Unit
  | 0 => pure ()
  | n + 1 => do
    f first
    counted f (first + 1) n

end Act

end Microbench
