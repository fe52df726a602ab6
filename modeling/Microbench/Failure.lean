import Microbench.Link.Error
import Microbench.Options

/-!
Failures of an invocation. A configuration failure always stops the run; the failure of a
benchmark, of a worker or of the link to it stops the run only if that was asked for.
-/

namespace Microbench

/-- A text that is no pattern, and what is said of it. A text alone is one of which nothing is said. -/
structure PatternError where
  pattern : String
  source : String := ""
  deriving DecidableEq, Repr

namespace PatternError

instance : Coe String PatternError := ⟨({ pattern := · })⟩
instance : Coe PatternError String := ⟨pattern⟩

def message (e : PatternError) : String :=
  "Invalid benchmark pattern '" ++ e.pattern ++ "': " ++ e.source

end PatternError

/-- Why something could not be done. `transport` is a failure of the link that was not taken for one of the run. -/
inductive Failure where
  | config (error : ConfigError)
  | invalidPattern (error : PatternError)
  | noSuchBenchmark (name : String)
  | benchmarkFailed (descriptor : Descriptor) (reason : String)
  | workerExit (descriptor : Descriptor) (code : Int)
  | workerSpawn (descriptor : Descriptor) (reason : String)
  | link (error : LinkError)
  | transport (error : LinkError)
  | taskPanicked
  | other (text : String)
  | context (text : String) (cause : Failure)
  deriving DecidableEq, Repr

namespace Failure

def message : Failure → String
  | config error => "Configuration error: " ++ error.message
  | invalidPattern error => error.message
  | noSuchBenchmark name => "No such benchmark: " ++ name
  | benchmarkFailed d reason => "Benchmark " ++ d.text ++ " failed: " ++ reason
  | workerExit d code => "Forked process for " ++ d.text ++ s!" returned code: {code}"
  | workerSpawn d reason => "Failed to run forked process for " ++ d.text ++ ": " ++ reason
  | link error => "Link error: " ++ error.message
  | transport error => error.message
  | taskPanicked => "Benchmark task panicked"
  | other text => text
  | context text _ => text

def chain : Failure → List String
  | invalidPattern error => [error.message, error.source]
  | workerSpawn d reason => [(workerSpawn d reason).message, reason]
  | link error => (link error).message :: error.chain
  | transport error => error.chain
  | context text cause => text :: cause.chain
  | f => [f.message]

def fullText (f : Failure) : String := ": ".intercalate f.chain

def root : Failure → Failure
  | context _ cause => cause.root
  | f => f

/-- Whether the run reports the failure and may go on, or gives up at once. -/
def isReported (f : Failure) : Bool :=
  match f.root with
  | transport _ | taskPanicked | other _ => false
  | _ => true

/-- Failures that no option makes harmless. -/
def isConfiguration : Failure → Bool
  | config _ | invalidPattern _ | noSuchBenchmark _ => true
  | _ => false

def isFatal (f : Failure) (failOnError : Bool) : Bool := f.isConfiguration || failOnError

end Failure

end Microbench
