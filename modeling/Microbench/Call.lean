import Microbench.Options
import Microbench.Store

/-!
What a sink is told: the progress and the results of benchmarks, and text. Calls can cross the
link from a worker; the start and the end of the whole run are told by the parent alone.
-/

namespace Microbench

instance decidableEqBytes : DecidableEq ByteArray := fun a b =>
  decidable_of_iff (a.data = b.data) ⟨ByteArray.ext, congrArg ByteArray.data⟩

/-- What can be told from a worker as well. A benchmark ends without a result if no measurement iteration ran. -/
inductive Call where
  | iterationStart (descriptor : Descriptor) (params : Params) (index : UInt32)
      (kind : IterationKind)
  | iterationEnd (descriptor : Descriptor) (params : Params) (index : UInt32)
      (kind : IterationKind) (sample : Sample)
  | benchmarkStart (descriptor : Descriptor) (params : Params)
  | benchmarkEnd (descriptor : Descriptor) (result : Option Run)
  | detailedResults (descriptor : Descriptor) (index : UInt32) (sample : Sample)
  | exception (message : String)
  | println (line : String)
  | verbosePrintln (line : String)
  | writeByte (byte : UInt8)
  | writeBytes (bytes : ByteArray)
  | flush
  | close
  deriving DecidableEq

inductive Method where
  | iterationStart
  | iterationEnd
  | benchmarkStart
  | benchmarkEnd
  | detailedResults
  | exception
  | println
  | verbosePrintln
  | writeByte
  | writeBytes
  | flush
  | close
  deriving DecidableEq, Repr

namespace Method

def all : List Method :=
  [iterationStart, iterationEnd, benchmarkStart, benchmarkEnd, detailedResults, exception,
    println, verbosePrintln, writeByte, writeBytes, flush, close]

def name : Method → String
  | iterationStart => "iteration_start"
  | iterationEnd => "iteration_end"
  | benchmarkStart => "benchmark_start"
  | benchmarkEnd => "benchmark_end"
  | detailedResults => "detailed_results"
  | exception => "exception"
  | println => "println"
  | verbosePrintln => "verbose_println"
  | writeByte => "write_byte"
  | writeBytes => "write_bytes"
  | flush => "flush"
  | close => "close"

def arity : Method → Nat
  | iterationStart => 4
  | iterationEnd => 5
  | benchmarkStart | benchmarkEnd => 2
  | detailedResults => 3
  | exception | println | verbosePrintln | writeByte | writeBytes => 1
  | flush | close => 0

def ofName? (name : String) : Option Method := all.find? (·.name == name)

theorem mem_all (m : Method) : m ∈ all := by cases m <;> decide

theorem ofName?_name (m : Method) : ofName? m.name = some m := by cases m <;> decide

end Method

def Call.method : Call → Method
  | iterationStart .. => .iterationStart
  | iterationEnd .. => .iterationEnd
  | benchmarkStart .. => .benchmarkStart
  | benchmarkEnd .. => .benchmarkEnd
  | detailedResults .. => .detailedResults
  | exception _ => .exception
  | println _ => .println
  | verbosePrintln _ => .verbosePrintln
  | writeByte _ => .writeByte
  | writeBytes _ => .writeBytes
  | flush => .flush
  | close => .close

inductive Event where
  | runStart
  | runEnd (results : Store)
  | call (c : Call)
  deriving DecidableEq

namespace Event

def name : Event → String
  | runStart => "run_start"
  | runEnd _ => "run_end"
  | call c => c.method.name

/-- Names that only the parent uses. -/
def parentOnly : List String := ["run_start", "run_end"]

def call? : Event → Option Call
  | call c => some c
  | _ => none

end Event

end Microbench
