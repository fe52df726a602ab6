import Microbench.Registry

/-!
Iterations that call a workload until their time is used up. Each thread of an iteration has its
own readings of a clock, in nanoseconds; a loop takes them from the front, so that what a thread
does is a function of its readings. A thread whose readings run out has not finished.

Rates and average times count calls and take the time from first to last; sampled times take the
time of each call; a single shot is one call.
-/

namespace Microbench

/-- An executor runs one iteration and answers with its sample, or with what went wrong. -/
inductive Execution where
  | sample (sample : Sample)
  | failed (failure : Failure)
  | panicked

abbrev Executor := Descriptor → Params → IterationKind → UInt32 → Execution

namespace TimedLoop

/-- How a loop ends: with a value and the readings that are left, by a failure, or not at all. -/
inductive LoopEnd (α : Type) where
  | done (value : α) (rest : List Nat)
  | failed (failure : Failure)
  | unfinished

structure Share where
  descriptor : Descriptor
  unit : TimeUnit
  budget : Nat
  kind : IterationKind
  index : UInt32
  thread : UInt32

namespace Share

def invocation (s : Share) (number : Nat) : Invocation := ⟨s.kind, s.index, number, s.thread⟩

/-- Call the workload once; a failure is told with where it happened. -/
def call (s : Share) (w : Workload) (number : Nat) : Except Failure Unit :=
  match w (s.invocation number) with
  | .done => .ok ()
  | .failed f => .error (.context
      (s.descriptor.name ++ s!" failed on thread {s.thread} in iteration {s.index}") f)
  | .panicked => .error (.other "Benchmark thread panicked")

end Share

def elapsed (start now : Nat) : UInt64 := UInt64.ofNat (min (now - start) (1 <<< 64 - 1))

/-- Call until the time is over. The number of calls made comes first; at least one is. -/
def countLoop (call : Nat → Except Failure Unit) (start budget : Nat) :
    Nat → List Nat → Nat × LoopEnd Unit
  | made, clock =>
    match call made with
    | .error f => (made + 1, .failed f)
    | .ok () =>
      match clock with
      | [] => (made + 1, .unfinished)
      | now :: rest =>
        if budget ≤ now - start then (made + 1, .done () rest)
        else countLoop call start budget (made + 1) rest

def sampleLoop (call : Nat → Except Failure Unit) (start budget : Nat) (samples : List UInt64) :
    Nat → List Nat → Nat × LoopEnd (List UInt64)
  | made, before :: clock =>
    match call made with
    | .error f => (made + 1, .failed f)
    | .ok () =>
      match clock with
      | after :: now :: rest =>
        let samples := elapsed before after :: samples
        if budget ≤ now - start then (made + 1, .done samples.reverse rest)
        else sampleLoop call start budget samples (made + 1) rest
      | _ => (made + 1, .unfinished)
  | made, [] => (made, .unfinished)

structure ThreadRun where
  calls : Nat
  outcome : LoopEnd ThreadResult

def measured (s : Share) (m : Measurement) (rest : List Nat) : LoopEnd ThreadResult :=
  .done { primary := ⟨s.descriptor.name, s.unit, m⟩ } rest

def runThread (w : Workload) (s : Share) (clock : List Nat) : ThreadRun :=
  let counting (measurement : UInt64 → UInt64 → Measurement) : ThreadRun :=
    match clock with
    | [] => ⟨0, .unfinished⟩
    | start :: clock =>
      match countLoop (s.call w) start s.budget 0 clock with
      | (calls, .done () (stop :: rest)) =>
        ⟨calls, measured s (measurement (UInt64.ofNat calls) (elapsed start stop)) rest⟩
      | (calls, .done () []) | (calls, .unfinished) => ⟨calls, .unfinished⟩
      | (calls, .failed f) => ⟨calls, .failed f⟩
  match s.descriptor.mode with
  | .throughput => counting .throughput
  | .averageTime => counting .averageTime
  | .sampleTime =>
    match clock with
    | [] => ⟨0, .unfinished⟩
    | start :: clock =>
      match sampleLoop (s.call w) start s.budget [] 0 clock with
      | (calls, .done samples rest) => ⟨calls, measured s (.sampleTime (.ofSamples samples)) rest⟩
      | (calls, .unfinished) => ⟨calls, .unfinished⟩
      | (calls, .failed f) => ⟨calls, .failed f⟩
  | .singleShot =>
    match clock with
    | [] => ⟨0, .unfinished⟩
    | before :: clock =>
      match s.call w 0, clock with
      | .error f, _ => ⟨1, .failed f⟩
      | .ok (), after :: rest => ⟨1, measured s (.singleShot 1 (elapsed before after)) rest⟩
      | .ok (), [] => ⟨1, .unfinished⟩
  | .all => ⟨0, .failed (.other
      (s.descriptor.name ++ " must be expanded to concrete modes before running"))⟩

/-- The clocks of an iteration: its whole length, and the readings of each thread. -/
structure Clocks where
  elapsed : UInt64
  thread : Nat → List Nat

/-- Clocks that all run through the same readings: a time to run for passes in a thousand steps,
each of a microsecond at least, and is over before the readings are. -/
def Clocks.steady (time : Duration) : Clocks :=
  let step := max 1000 (time.totalNanos / 1000 + 1)
  ⟨UInt64.ofNat (min time.totalNanos (1 <<< 64 - 1)), fun _ => (List.range 2010).map (· * step)⟩

/-- The results in thread order, or the failure of the first thread that has one; none while a
thread is still running. -/
def collect : List ThreadRun → Option (Except Failure (List ThreadResult))
  | [] => some (.ok [])
  | run :: rest =>
    match run.outcome, collect rest with
    | .unfinished, _ => none
    | _, none => none
    | .failed f, _ => some (.error f)
    | .done _ _, some (.error f) => some (.error f)
    | .done result _, some (.ok results) => some (.ok (result :: results))

def share (d : Descriptor) (p : Params) (kind : IterationKind) (index : UInt32) (thread : Nat) :
    Share :=
  ⟨d, p.unit, (p.iterations kind).time.totalNanos, kind, index, UInt32.ofNat thread⟩

def runThreads (w : Workload) (clocks : Clocks) (d : Descriptor) (p : Params)
    (kind : IterationKind) (index : UInt32) : List ThreadRun :=
  (List.range d.threads.toNat).map fun thread =>
    runThread w (share d p kind index thread) (clocks.thread thread)

def runIteration (r : Registry) (clocks : Clocks) (d : Descriptor) (p : Params)
    (kind : IterationKind) (index : UInt32) : Option Execution :=
  match r.get d.name with
  | .error f => some (.failed f)
  | .ok definition =>
    (collect (runThreads definition.workload clocks d p kind index)).map fun
      | .error f => .failed f
      | .ok results =>
        match Sample.ofThreads index kind clocks.elapsed results with
        | some sample => .sample sample
        | none => .failed (.other ("No thread reported a result for " ++ d.text))

/-- Runs the iterations of registered workloads by these clocks. -/
def executor (r : Registry) (clocks : Duration → Clocks) : Executor := fun d p kind index =>
  match runIteration r (clocks (p.iterations kind).time) d p kind index with
  | some execution => execution
  | none => .failed (.other "The clock stopped before the iteration was over")

def ThreadRun.invocations (run : ThreadRun) (s : Share) : List Invocation :=
  (List.range run.calls).map s.invocation

def invocations (r : Registry) (clocks : Clocks) (d : Descriptor) (p : Params)
    (kind : IterationKind) (index : UInt32) : List Invocation :=
  match r.get d.name with
  | .error _ => []
  | .ok definition =>
    (runThreads definition.workload clocks d p kind index).zipIdx.flatMap fun (run, thread) =>
      run.invocations (share d p kind index thread)

end TimedLoop

end Microbench
