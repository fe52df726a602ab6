import Microbench.Failure
import Microbench.Report.Document
import Microbench.Report.Timestamp
import Microbench.Store

/-!
The file of results: facts about the run, then one entry per measured descriptor, in their order.
-/

namespace Microbench

def version : String := "0.1.0"

structure RunId where
  value : Nat
  deriving DecidableEq, Repr

/-- Digits in groups of 8, 4, 4, 4 and 12. -/
def RunId.text (id : RunId) : String :=
  let digits := (List.range 32).reverse.map fun i => Nat.digitChar (id.value >>> (4 * i) % 16)
  let group (start size : Nat) : String := String.ofList ((digits.drop start).take size)
  "-".intercalate [group 0 8, group 8 4, group 12 4, group 16 4, group 20 12]

namespace Report

structure System where
  os : String
  architecture : String
  cores : Nat
  memory : Option Binary64
  toolchain : String

structure Metadata where
  runId : RunId
  startedAt : Timestamp
  finishedAt : Timestamp
  system : System

structure Entry where
  name : String
  mode : Mode
  threads : UInt32
  score : Option Binary64
  unit : String
  runs : UInt32
  iterations : Nat
  min : Option Binary64
  mean : Option Binary64
  max : Option Binary64
  secondary : List (String × Option Binary64)

def Entry.of (d : Descriptor) (run : Run) : Entry :=
  let statistics := if run.scores.isEmpty then none else some (Statistics.of run.scores)
  { name := d.name
    mode := d.mode
    threads := d.threads
    score := run.primary.score
    unit := run.primary.scoreUnit
    runs := run.contributions
    iterations := run.scores.length
    min := statistics.map (·.min)
    mean := statistics.map (·.mean)
    max := statistics.map (·.max)
    secondary := run.secondary.toList.map fun (name, value) => (name, value.score) }

def optional : Option Binary64 → Document
  | none => .null
  | some x => .number x

def Entry.document (e : Entry) : Document := .record [
  ("name", .text e.name), ("mode", .text e.mode.label), ("threads", .count e.threads.toNat),
  ("score", optional e.score), ("unit", .text e.unit), ("runs", .count e.runs.toNat),
  ("iterations", .count e.iterations), ("min", optional e.min), ("mean", optional e.mean),
  ("max", optional e.max),
  ("secondary", .record (e.secondary.map fun (name, score) => (name, optional score)))]

def System.document (s : System) : Document := .record [
  ("os", .text s.os), ("architecture", .text s.architecture), ("cpu_cores", .count s.cores),
  ("memory_gb", optional s.memory), ("rust_version", .text s.toolchain),
  ("harness_version", .text version)]

def Metadata.members (m : Metadata) : List (String × Document) := [
  ("version", .text version), ("run_id", .text m.runId.text),
  ("started_at", .text m.startedAt.text), ("finished_at", .text m.finishedAt.text),
  ("system_info", m.system.document)]

def entries (results : Store) : List Entry := results.toList.map fun (d, run) => Entry.of d run

def document (m : Metadata) (results : Store) : Document := .record [
  ("metadata", .record m.members), ("benchmarks", .list ((entries results).map Entry.document))]

/-- Open the file of results. `refused` tells why a path cannot be written to, if it cannot. -/
def create (refused : String → Option String) (path : String) : Except Failure Unit :=
  match refused path with
  | some reason => .error (.context ("Failed to write result file " ++ path) (.other reason))
  | none => .ok ()

end Report

end Microbench
