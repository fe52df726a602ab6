import Microbench.Cycle
import Microbench.Link.Client

/-!
A worker runs one descriptor for its parent. It connects, asks for the options, runs the cycle with
every call sent over the link, reports the result if there is one, and says that it has finished.
A broken link is an error of the worker; the failure of its benchmark is told to the parent, and
decides the exit code only if failures are to stop the run.
-/

namespace Microbench.Worker

open Link

def send (f : Frame) : Act ByteArray Unit := do
  match Link.send f (← get).sink with
  | .ok sent => Act.change fun w => { w with sink := sent }
  | .error e => throw (.transport e)

def request (reply : List Arrival) : Act ByteArray Options := do
  send .optionsRequest
  Act.settle ((readOptions reply).mapError .transport)

/-- Tell what an act is done for when it fails. -/
def inContext {α : Type} (text : String) (act : Act ByteArray α) : Act ByteArray α := do
  match ← Act.attempt act with
  | .ok x => return x
  | .error f => throw (.context text f)

/-- Run the cycle of a connected worker and report its result; the exit code is the outcome. -/
def work (executor : Executor) (d : Descriptor) (p : Params) (o : Options) :
    Act ByteArray Nat := do
  match ← Act.attempt (Cycle.run ⟨sink, executor, o.detailed⟩ d p) with
  | .ok (some run) =>
    send (.report d run)
    return 0
  | .ok none => return 0
  | .error f =>
    match f with
    | .benchmarkFailed .. =>
      Act.log .warn f.message
      Act.tell sink (.call (.exception f.message))
      return if f.isFatal o.failOnError then 1 else 0
    | _ => throw f

def failureText (f : Failure) : String := "Worker failed: " ++ f.fullText

/-- Everything a worker does; its exit code is the outcome. -/
def run (network : Network) (registry : Registry) (executor : Executor) (args : WorkerArgs)
    (reply : List Arrival) : Act ByteArray Nat := do
  inContext (s!"Failed to connect to parent at {args.host}:{args.port}")
    (Act.settle ((connect network args.host args.port).mapError .transport))
  let received ← inContext "Failed to receive run options from parent" (request reply)
  let o := received.withCounts args.warmupCount args.measurementCount
  let d := args.descriptor
  let p ← Act.settle (registry.paramsFor d o)
  Act.log .info ("Worker running " ++ d.text)
  let code ← work executor d p o
  Act.tell sink (.call .flush)
  send .finish
  return code

end Microbench.Worker
