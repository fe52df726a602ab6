import Microbench.TimedLoop
import Microbench.World

/-!
The cycle of one descriptor: its warmup iterations, then its measurement iterations, each told to
the sink as it starts and ends, between the start and the end of the benchmark. The first thing
that fails ends the cycle, and a cycle that has failed has no result.
-/

namespace Microbench

/-- What a cycle runs with. If it is `detailed`, the values of single threads are told. -/
structure Setting (σ : Type) where
  sink : Sink σ
  executor : Executor
  detailed : Bool

namespace Cycle

variable {σ : Type}

def execute (executor : Executor) (d : Descriptor) (p : Params) (kind : IterationKind)
    (index : UInt32) : Act σ Sample := do
  Act.note (.executed d p kind index)
  match executor d p kind index with
  | .sample s => return s
  | .failed f => throw (.benchmarkFailed d f.fullText)
  | .panicked => throw .taskPanicked

def iteration (s : Setting σ) (d : Descriptor) (p : Params) (kind : IterationKind)
    (index : UInt32) : Act σ Sample := do
  Act.tell s.sink (.call (.iterationStart d p index kind))
  let sample ← execute s.executor d p kind index
  Act.tell s.sink (.call (.iterationEnd d p index kind sample))
  if s.detailed && kind = .measurement then
    Act.tell s.sink (.call (.detailedResults d index sample))
  return sample

def iterations (s : Setting σ) (d : Descriptor) (p : Params) (kind : IterationKind)
    (first : Nat) : Nat → Act σ (List Sample)
  | 0 => return []
  | n + 1 => do
    let sample ← iteration s d p kind (UInt32.ofNat first)
    let more ← iterations s d p kind (first + 1) n
    return sample :: more

/-- The whole cycle. There is no result if nothing was measured. -/
def run (s : Setting σ) (d : Descriptor) (p : Params) : Act σ (Option Run) := do
  Act.tell s.sink (.call (.benchmarkStart d p))
  let _ ← iterations s d p .warmup 1 p.warmup.count.toNat
  let samples ← iterations s d p .measurement 1 p.measurement.count.toNat
  let result := Run.ofSamples samples
  Act.tell s.sink (.call (.benchmarkEnd d result))
  return result

end Cycle

end Microbench
