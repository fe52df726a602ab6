import Microbench.Workload

/-!
The benchmarks that can be run, by name, and the choice among them. Patterns select by name, and an
engine that is given says which texts are patterns and what they match;
options override a benchmark's mode and threads, while its own forks and unit come before those of
the options. `Registry.resolve` decides what is measured and what is only warmed up, before
anything runs.
-/

namespace Microbench

structure Definition where
  name : String
  mode : Mode := .throughput
  threads : UInt32 := 1
  forks : Option UInt32 := none
  warmupForks : Option UInt32 := none
  unit : Option TimeUnit := none
  workload : Workload

namespace Definition

def descriptor (d : Definition) : Descriptor := .new d.name d.mode d.threads

end Definition

structure Registry where
  benchmarks : Std.ExtTreeMap String Definition

namespace Registry

def empty : Registry := ⟨∅⟩

instance : Inhabited Registry := ⟨empty⟩

def register (r : Registry) (d : Definition) : Except Failure Registry :=
  if r.benchmarks.contains d.name then .error (.config (.registeredTwice d.name))
  else .ok ⟨r.benchmarks.insert d.name d⟩

def ofList (definitions : List Definition) : Except Failure Registry :=
  definitions.foldlM register empty

def get (r : Registry) (name : String) : Except Failure Definition :=
  match r.benchmarks[name]? with
  | some d => .ok d
  | none => .error (.noSuchBenchmark name)

def names (r : Registry) : List String := r.benchmarks.keys
def size (r : Registry) : Nat := r.benchmarks.size
def isEmpty (r : Registry) : Bool := r.benchmarks.isEmpty

end Registry

/-- What compiles patterns. A text is compiled to a test of names, or refused with a reason. -/
class PatternEngine where
  compile (text : String) : Except String (String → Bool)

/-- Patterns compiled in order; the first text that is none is named, with what is said of it. -/
def PatternEngine.compileAll [PatternEngine] : List String → Except Failure (List (String → Bool))
  | [] => .ok []
  | text :: rest =>
    match compile text with
    | .error reason => .error (.invalidPattern ⟨text, reason⟩)
    | .ok test => (compileAll rest).map (test :: ·)

abbrev DescriptorSet := Std.ExtTreeMap Descriptor Unit

def DescriptorSet.ofList (ds : List Descriptor) : DescriptorSet :=
  Std.ExtTreeMap.ofList (ds.map fun d => (d, ()))

/-- What an invocation runs: what is measured, which is part of the results, and what is only warmed up. -/
structure Plan where
  measured : DescriptorSet
  warmupOnly : DescriptorSet

namespace Plan

def isEmpty (p : Plan) : Bool := p.measured.isEmpty && p.warmupOnly.isEmpty

end Plan

namespace Registry

/-- Whether a name is selected: some include matches, or there is none, and no exclude does. -/
def selects (includes excludes : List (String → Bool)) (name : String) : Bool :=
  (includes.isEmpty || includes.any (· name)) && !excludes.any (· name)

/-- The benchmarks that the patterns select. -/
def find [PatternEngine] (r : Registry) (includes excludes : List String) : Except Failure (List Descriptor) := do
  let includes ← PatternEngine.compileAll includes
  let excludes ← PatternEngine.compileAll excludes
  return ((r.benchmarks.toList.map (·.2)).filter (selects includes excludes ·.name)).map
    Definition.descriptor

def expand (o : Options) (d : Descriptor) : List Descriptor :=
  let d := match o.threads with
    | some threads => d.withThreads threads
    | none => d
  d.expandWithModes o.modes

def expandAll (o : Options) (found : List Descriptor) : DescriptorSet :=
  .ofList (found.flatMap (expand o))

/-- What the options select, with their overrides applied. A benchmark that is measured is not
warmed up beside that. -/
def resolve [PatternEngine] (r : Registry) (o : Options) : Except Failure Plan := do
  let measured := expandAll o (← r.find o.includes o.excludes)
  if o.warmupIncludes.isEmpty then return ⟨measured, ∅⟩
  let warmup := expandAll o (← r.find o.warmupIncludes o.excludes)
  return ⟨measured, warmup.filter fun d _ => !measured.contains d⟩

/-- Scores are rates per second and times in microseconds unless told otherwise. -/
def defaultUnit : Mode → TimeUnit
  | .throughput => .seconds
  | _ => .microseconds

/-- What a descriptor runs with: its own settings, then the options, then the defaults of one fork
and no warmup fork. -/
def paramsFor (r : Registry) (d : Descriptor) (o : Options) : Except Failure Params := do
  let definition ← r.get d.name
  return {
    warmup := o.warmup
    measurement := o.measurement
    threads := d.threads
    synchronized := o.synchronized
    unit := (definition.unit <|> o.unit).getD (defaultUnit d.mode)
    forks := (definition.forks <|> o.forks).getD 1
    warmupForks := (definition.warmupForks <|> o.warmupForks).getD 0 }

end Registry

end Microbench
