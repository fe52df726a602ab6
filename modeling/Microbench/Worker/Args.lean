import Microbench.Descriptor

/-!
What a worker is started with: where its parent listens and the one descriptor it is to run.
-/

namespace Microbench

/-- What a worker is started with. The counts come before those of the parent's options. -/
structure WorkerArgs where
  host : String
  port : UInt16
  benchmark : String
  mode : Mode
  threads : UInt32
  warmupCount : Option UInt32 := none
  measurementCount : Option UInt32 := none
  deriving DecidableEq, Repr

namespace WorkerArgs

def descriptor (a : WorkerArgs) : Descriptor := .new a.benchmark a.mode a.threads

/-- A warmup fork runs one warmup iteration and measures nothing. -/
def of (host : String) (port : UInt16) (d : Descriptor) (warmup : Bool) : WorkerArgs where
  host; port
  benchmark := d.name
  mode := d.mode
  threads := d.threads
  warmupCount := if warmup then some 1 else none
  measurementCount := if warmup then some 0 else none

/-- The flag that turns the program into a worker. -/
def flag : String := "--internal-worker"

def setting (name : String) : Option UInt32 → List String
  | none => []
  | some n => [name, toString n]

def toArguments (a : WorkerArgs) : List String :=
  [flag, "--link-host", a.host, "--link-port", toString a.port, "--benchmark", a.benchmark,
    "--benchmark-mode", a.mode.label, "--benchmark-threads", toString a.threads]
    ++ setting "--warmup-iterations" a.warmupCount ++ setting "--iterations" a.measurementCount

end WorkerArgs

end Microbench
