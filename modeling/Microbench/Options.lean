import Microbench.Descriptor
import Microbench.Duration
import Microbench.Sample

/-!
The configuration of an invocation, and the parameters of one benchmark that follow from it.
Options are values with defaults; `Options.check` is the gate that a configuration passes before
anything runs, and `Options.Runnable` says what it guarantees.
-/

namespace Microbench

/-- When warmup iterations run: as part of each benchmark's own cycle, right before its measurement, or for all
benchmarks before any of them is measured. -/
inductive WarmupMode where
  | none
  | beforeEach
  | beforeAny
  deriving DecidableEq, Repr, Inhabited

namespace WarmupMode

def all : List WarmupMode := [none, beforeEach, beforeAny]

def label : WarmupMode → String
  | none => "none"
  | beforeEach => "before-each"
  | beforeAny => "before-any"

/-- Whether the requested benchmarks themselves are warmed up in bulk. -/
def isBulk (mode : WarmupMode) : Bool := mode == beforeAny

end WarmupMode

inductive OutputFormat where
  | pretty
  | silent
  deriving DecidableEq, Repr, Inhabited

namespace OutputFormat

def all : List OutputFormat := [pretty, silent]

def label : OutputFormat → String
  | pretty => "pretty"
  | silent => "silent"

end OutputFormat

structure Iterations where
  count : UInt32
  time : Duration
  deriving DecidableEq, Repr, Inhabited

namespace Iterations

def HasTime (i : Iterations) : Prop := i.count = 0 ∨ i.time.isZero = false

instance (i : Iterations) : Decidable i.HasTime := inferInstanceAs (Decidable (_ ∨ _))

end Iterations

structure Params where
  warmup : Iterations
  measurement : Iterations
  threads : UInt32
  synchronized : Bool
  unit : TimeUnit
  forks : UInt32
  warmupForks : UInt32
  deriving DecidableEq, Repr, Inhabited

namespace Params

def warmupOnly (p : Params) : Params := { p with measurement := { p.measurement with count := 0 } }

def withoutWarmup (p : Params) : Params := { p with warmup := { p.warmup with count := 0 } }

def iterations (p : Params) : IterationKind → Iterations
  | .warmup => p.warmup
  | .measurement => p.measurement

end Params

/-- Without `includes` all benchmarks are measured, and without `modes` each in its own mode; those of
`warmupIncludes` are only warmed up. -/
structure Options where
  includes : List String := []
  excludes : List String := []
  warmupIncludes : List String := []
  modes : List Mode := []
  warmup : Iterations := ⟨5, .ofSeconds 1⟩
  measurement : Iterations := ⟨5, .ofSeconds 1⟩
  forks : Option UInt32 := none
  warmupForks : Option UInt32 := none
  warmupMode : WarmupMode := .none
  threads : Option UInt32 := none
  synchronized : Bool := true
  failOnError : Bool := false
  verbose : Bool := false
  detailed : Bool := false
  unit : Option TimeUnit := none
  format : OutputFormat := .pretty
  output : Option String := none
  resultFile : Option String := none
  listOnly : Bool := false
  deriving DecidableEq, Repr, Inhabited

inductive ConfigError where
  | noThreads
  | noMeasurementTime
  | noWarmupTime
  | registeredTwice (name : String)
  | workerFlagMissing (flag : String)
  | custom (text : String)
  deriving DecidableEq, Repr

def ConfigError.message : ConfigError → String
  | noThreads => "Thread count must be at least 1"
  | noMeasurementTime => "Measurement time must be greater than zero"
  | noWarmupTime => "Warmup time must be greater than zero"
  | registeredTwice name => "Benchmark '" ++ name ++ "' is registered twice"
  | workerFlagMissing flag => "Worker mode requires " ++ flag
  | custom text => text

namespace Options

def check (o : Options) : Except ConfigError Options :=
  if o.threads = some 0 then .error .noThreads
  else if ¬ o.measurement.HasTime then .error .noMeasurementTime
  else if ¬ o.warmup.HasTime then .error .noWarmupTime
  else .ok o

/-- What a checked configuration guarantees. -/
structure Runnable (o : Options) : Prop where
  threads : o.threads ≠ some 0
  measurement : o.measurement.HasTime
  warmup : o.warmup.HasTime

theorem check_eq_ok_iff {o p : Options} : o.check = .ok p ↔ p = o ∧ o.Runnable := by
  constructor
  · intro h
    unfold check at h
    split at h <;> try contradiction
    split at h <;> try contradiction
    split at h <;> try contradiction
    rename_i h₁ h₂ h₃
    exact ⟨(Except.ok.inj h).symm, h₁, Decidable.not_not.1 h₂, Decidable.not_not.1 h₃⟩
  · rintro ⟨rfl, h⟩
    simp [check, h.threads, h.measurement, h.warmup]

/-- The same with other iteration counts, where one is given. -/
def withCounts (o : Options) (warmup measurement : Option UInt32) : Options :=
  { o with
    warmup := { o.warmup with count := warmup.getD o.warmup.count }
    measurement := { o.measurement with count := measurement.getD o.measurement.count } }

end Options

end Microbench
