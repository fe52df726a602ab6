import Microbench.CommandLine.Value
import Microbench.Worker.Args

/-!
The settings that can be given on the command line, by their long and short names, and what each
of them changes.
-/

namespace Microbench.CommandLine

structure Arguments where
  options : Options := {}
  warmupCount : Option UInt32 := none
  measurementCount : Option UInt32 := none
  isWorker : Bool := false
  linkHost : Option String := none
  linkPort : Option UInt16 := none
  benchmark : Option String := none
  benchmarkMode : Option Mode := none
  benchmarkThreads : Option UInt32 := none

inductive Key where
  | exclude
  | warmupBenchmark
  | list
  | mode
  | warmupIterations
  | warmupTime
  | iterations
  | time
  | forks
  | warmupForks
  | warmupMode
  | threads
  | syncIterations
  | failOnError
  | timeUnit
  | format
  | output
  | resultFile
  | details
  | verbose
  | internalWorker
  | linkHost
  | linkPort
  | benchmark
  | benchmarkMode
  | benchmarkThreads
  | help
  | version
  deriving DecidableEq, Repr

namespace Key

def all : List Key :=
  [exclude, warmupBenchmark, list, mode, warmupIterations, warmupTime, iterations, time, forks,
    warmupForks, warmupMode, threads, syncIterations, failOnError, timeUnit, format, output,
    resultFile, details, verbose, internalWorker, linkHost, linkPort, benchmark, benchmarkMode,
    benchmarkThreads, help, version]

def long : Key → String
  | exclude => "exclude"
  | warmupBenchmark => "warmup-benchmark"
  | list => "list"
  | mode => "mode"
  | warmupIterations => "warmup-iterations"
  | warmupTime => "warmup-time"
  | iterations => "iterations"
  | time => "time"
  | forks => "forks"
  | warmupForks => "warmup-forks"
  | warmupMode => "warmup-mode"
  | threads => "threads"
  | syncIterations => "sync-iterations"
  | failOnError => "fail-on-error"
  | timeUnit => "time-unit"
  | format => "format"
  | output => "output"
  | resultFile => "result-file"
  | details => "details"
  | verbose => "verbose"
  | internalWorker => "internal-worker"
  | linkHost => "link-host"
  | linkPort => "link-port"
  | benchmark => "benchmark"
  | benchmarkMode => "benchmark-mode"
  | benchmarkThreads => "benchmark-threads"
  | help => "help"
  | version => "version"

def short : Key → Option Char
  | exclude => some 'e'
  | list => some 'l'
  | mode => some 'm'
  | warmupIterations => some 'w'
  | iterations => some 'i'
  | time => some 'r'
  | forks => some 'f'
  | threads => some 't'
  | output => some 'o'
  | verbose => some 'v'
  | help => some 'h'
  | version => some 'V'
  | _ => none

def ofLong? (name : String) : Option Key := all.find? (·.long == name)

def ofShort? (c : Char) : Option Key := all.find? (·.short == some c)

def isSwitch : Key → Bool
  | list | failOnError | details | verbose | internalWorker | help | version => true
  | _ => false

/-- Settings that a host gives to its workers. -/
def isInternal : Key → Bool
  | internalWorker | linkHost | linkPort | benchmark | benchmarkMode | benchmarkThreads => true
  | _ => false

/-- Settings that may be given more than once, each time with further values. -/
def repeats : Key → Bool
  | exclude | warmupBenchmark | mode => true
  | _ => false

def valueName : Key → String
  | exclude | warmupBenchmark => "REGEX"
  | mode => "MODES"
  | k => k.long.map fun c => if c = '-' then '_' else c.toUpper

def shown (k : Key) : String :=
  "--" ++ k.long ++ if k.isSwitch then "" else " <" ++ k.valueName ++ ">"

theorem mem_all (k : Key) : k ∈ all := by cases k <;> decide

theorem ofLong?_long (k : Key) : ofLong? k.long = some k := by cases k <;> decide

end Key

def Key.set (k : Key) (a : Arguments) (text : String) : Except Fault Arguments :=
  let o := a.options
  let setting (o : Options) : Except Fault Arguments := .ok { a with options := o }
  match k with
  | exclude => setting { o with excludes := o.excludes ++ [text] }
  | warmupBenchmark => setting { o with warmupIncludes := o.warmupIncludes ++ [text] }
  | list => setting { o with listOnly := true }
  | mode => do setting { o with modes := o.modes ++ [← readMode text] }
  | warmupIterations => do return { a with warmupCount := some (← readCount text) }
  | warmupTime => do setting { o with warmup := { o.warmup with time := ← readDuration text } }
  | iterations => do return { a with measurementCount := some (← readCount text) }
  | time => do setting { o with measurement := { o.measurement with time := ← readDuration text } }
  | forks => do setting { o with forks := some (← readCount text) }
  | warmupForks => do setting { o with warmupForks := some (← readCount text) }
  | warmupMode => do
    setting { o with warmupMode := ← readOneOf WarmupMode.all WarmupMode.label text }
  | threads => do setting { o with threads := some (← readCount text) }
  | syncIterations => do setting { o with synchronized := ← readTruth text }
  | failOnError => setting { o with failOnError := true }
  | timeUnit => do setting { o with unit := some (← readOneOf TimeUnit.all TimeUnit.suffix text) }
  | format => do setting { o with format := ← readOneOf OutputFormat.all OutputFormat.label text }
  | output => do setting { o with output := some (← readPath text) }
  | resultFile => do setting { o with resultFile := some (← readPath text) }
  | details => setting { o with detailed := true }
  | verbose => setting { o with verbose := true }
  | internalWorker => .ok { a with isWorker := true }
  | linkHost => .ok { a with linkHost := some text }
  | linkPort => do return { a with linkPort := some (← readPort text) }
  | benchmark => .ok { a with benchmark := some text }
  | benchmarkMode => do return { a with benchmarkMode := some (← readMode text) }
  | benchmarkThreads => do return { a with benchmarkThreads := some (← readCount text) }
  | help | version => .ok a

end Microbench.CommandLine
