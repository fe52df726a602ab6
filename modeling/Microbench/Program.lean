import Microbench.Builtin
import Microbench.CommandLine
import Microbench.Harness
import Microbench.Pattern.Engine
import Microbench.Sink.Pretty

/-!
The program: a command line and what surrounds it in, an exit code and output out. It is a host,
which runs what its command line selects, or a worker of a host.
-/

namespace Microbench.Program

/-- What the program finds around it. `listen` and `refused` say why there is no port and why a file cannot be
written, and `reply` is what arrives from the parent of a worker. -/
structure Surroundings where
  network : Link.Network
  listen : Except String UInt16
  launcher : Options → Launcher
  reply : List Arrival
  clocks : Duration → TimedLoop.Clocks
  metadata : Report.Metadata
  refused : String → Option String
  coloured : Bool

structure Outcome where
  code : Nat
  output : ByteArray := .empty
  messages : String := ""
  files : List (String × ByteArray) := []

def name : String := "benchfork"

def versionText : String := name ++ " " ++ version ++ "\n"

def helpText : String :=
  "Usage: " ++ name ++ " [OPTIONS] [REGEX]...\n\nOptions:\n" ++ String.join
    ((CommandLine.Key.all.filter (!·.isInternal)).map fun k => "  " ++ k.shown ++ "\n")

/-- The lines of what was logged. Workers are not told to be verbose. -/
def messages (s : Surroundings) (role : Log.Role) (verbose : Bool) (trace : List Action) : String :=
  String.join <| trace.filterMap fun
    | .logged e => some (e.line role verbose s.coloured)
    | .overheard e => some (e.line .fork false s.coloured)
    | _ => none

def finish {σ : Type} (text : Failure → String) (act : Act σ Nat) : Act σ Nat := do
  match ← Act.attempt act with
  | .ok code => return code
  | .error f =>
    Act.log .error (text f)
    return 1

def sinkOf (o : Options) : Sink Writer :=
  match o.format with
  | .silent => Sink.silent
  | .pretty => Sink.pretty o.verbose

def outputFile (o : Options) : Option String := o.output.filter fun _ => o.format = .pretty

def openOutput (s : Surroundings) (o : Options) : Act Writer Unit := do
  if let some path := outputFile o then
    Act.settle (Sink.create s.refused path)
    Act.note (.created path)

/-- Run what a command line selects. -/
def host (s : Surroundings) (a : CommandLine.Arguments) : Act Writer Nat := do
  Act.log .info ("Starting " ++ name ++ " " ++ version)
  let o ← Act.settle a.checkedOptions
  openOutput s o
  let registry ← Act.settle Builtin.registry
  let results ← Harness.run {
    registry
    options := o
    sink := sinkOf o
    executor := TimedLoop.executor registry s.clocks
    launcher := s.launcher o
    listen := s.listen
    metadata := s.metadata
    refused := s.refused }
  Act.log .info s!"Run finished with {results.size} result(s)"
  return 0

/-- Run one descriptor for a parent. -/
def worker (s : Surroundings) (a : CommandLine.Arguments) : Act ByteArray Nat := do
  let args ← Act.settle a.workerArgs
  let registry ← Act.settle Builtin.registry
  Worker.run s.network registry (TimedLoop.executor registry s.clocks) args s.reply

/-- Files among what was done; what was shown goes to the one that was created. -/
def files (shown : ByteArray) (trace : List Action) : List (String × ByteArray) :=
  trace.filterMap fun
    | .created path => some (path, shown)
    | .wrote path text => some (path, text.toByteArray)
    | _ => none

def runHost (s : Surroundings) (a : CommandLine.Arguments) : Outcome :=
  let toFile := (outputFile a.options).isSome
  let writer : Writer := { capacity := if toFile then Writer.fileCapacity else 0 }
  let (code, w) := (finish Failure.fullText (host s a)).run (World.start writer)
  { code := code.toOption.getD 1
    output := if toFile then .empty else w.sink.all
    messages := messages s .host a.options.verbose w.trace.toList
    files := files w.sink.all w.trace.toList }

def runWorker (s : Surroundings) (a : CommandLine.Arguments) : Outcome :=
  let (code, w) := (finish Worker.failureText (worker s a)).run (World.start .empty)
  { code := code.toOption.getD 1
    messages := messages s .fork a.options.verbose w.trace.toList }

def run (s : Surroundings) (words : List String) : Outcome :=
  match CommandLine.parse words with
  | .error .helpWanted => { code := 0, output := helpText.toByteArray }
  | .error .versionWanted => { code := 0, output := versionText.toByteArray }
  | .error e => { code := 2, messages := "error: " ++ e.message ++ "\n" }
  | .ok a => if a.isWorker then runWorker s a else runHost s a

end Microbench.Program
