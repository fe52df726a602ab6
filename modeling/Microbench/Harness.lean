import Microbench.Report
import Microbench.Worker.Launch

/-!
A whole run. The descriptors that the options select are warmed up in bulk where that was asked
for, then those without forks run in this process, then the others in workers, one at a time.
Failures of benchmarks and workers are reported, and stop the run only if they are to. A run that
was started ends with its results, whatever stopped it.
-/

namespace Microbench

/-- What a run works with. `listen` says why there is no port that workers connect to, and `refused` why a file
cannot be written. -/
structure Harness (σ : Type) where
  registry : Registry
  options : Options
  sink : Sink σ
  executor : Executor
  launcher : Launcher
  listen : Except String UInt16
  metadata : Report.Metadata
  refused : String → Option String

def Link.host : String := "127.0.0.1"

namespace Harness

variable {σ : Type} (h : Harness σ)

def setting : Setting σ := ⟨h.sink, h.executor, h.options.detailed⟩

def println (line : String) : Act σ Unit := Act.tell h.sink (.call (.println line))

def report (f : Failure) : Act σ Unit := do
  Act.log .warn f.message
  Act.tell h.sink (.call (.exception f.message))
  if f.isFatal h.options.failOnError then throw f

/-- Run a descriptor in this process and merge what it measured. -/
def runEmbedded (d : Descriptor) (p : Params) : Act σ Unit := do
  match ← Act.attempt (Cycle.run h.setting d p) with
  | .ok (some run) => Act.merge d run
  | .ok none => return ()
  | .error f => if f.isReported then h.report f.root else throw f

def serve (arrivals : List Arrival) : Act σ Unit := do
  Act.note .accepted
  let handler : Link.Handler σ := ⟨h.sink, h.options, (← get).connections⟩
  let _ ← handler.serve arrivals

/-- Start a worker and wait for it and its connection. Whether it ran is the outcome. -/
def fork (port : UInt16) (d : Descriptor) (warmup : Bool) : Act σ Bool := do
  let args := WorkerArgs.of Link.host port d warmup
  let earlier := (← get).launches
  Act.note (.launched args)
  match h.launcher earlier args with
  | .failed reason =>
    h.report (.workerSpawn d reason)
    return false
  | .ran connection exit messages =>
    messages.forM fun e => Act.note (.overheard e)
    if let some arrivals := connection then h.serve arrivals
    if exit ≠ some 0 then
      let code := exit.getD (-1)
      let warning := s!"WARNING: Forked process returned code: {code}"
      Act.log .warn (warning ++ " for " ++ d.text)
      h.println warning
      let f := Failure.workerExit d code
      if f.isFatal h.options.failOnError then throw f
    return true

def warmupFork (port : UInt16) (d : Descriptor) (p : Params) (i : Nat) : Act σ Unit := do
  Act.log .info (d.text ++ s!": warmup fork {i} of {p.warmupForks}")
  h.println s!"# Warmup Fork: {i} of {p.warmupForks}"
  let _ ← h.fork port d true

def measuredFork (port : UInt16) (d : Descriptor) (p : Params) (i : Nat) : Act σ Unit := do
  Act.log .info (d.text ++ s!": fork {i} of {p.forks}")
  h.println s!"# Fork: {i} of {p.forks}"
  let before := (← get).store.contributions d
  let ran ← h.fork port d false
  let after := (← get).store.contributions d
  if ran && after = before && p.measurement.count > 0 then
    let warning := "WARNING: Forked run of " ++ d.text ++ " reported no results"
    Act.log .warn warning
    h.println warning

def runForked (port : UInt16) (d : Descriptor) (p : Params) : Act σ Unit := do
  Act.counted (h.warmupFork port d p) 1 p.warmupForks.toNat
  Act.counted (h.measuredFork port d p) 1 p.forks.toNat

/-- The measured descriptors with what they run with: those that run in this process, and those
that run in workers. -/
def split (plan : Plan) : Except Failure (List (Descriptor × Params) × List (Descriptor × Params)) := do
  let all ← plan.measured.keys.mapM fun d => do return (d, ← h.registry.paramsFor d h.options)
  return all.partition (·.2.forks = 0)

def warmupSet (plan : Plan) : DescriptorSet :=
  if h.options.warmupMode.isBulk then .ofList (plan.warmupOnly.keys ++ plan.measured.keys)
  else plan.warmupOnly

def warmUp (d : Descriptor) : Act σ Unit := do
  let p ← Act.settle (h.registry.paramsFor d h.options)
  h.runEmbedded d p.warmupOnly

def bulkWarmup (plan : Plan) : Act σ Unit := do
  let set := h.warmupSet plan
  if h.options.warmupMode.isBulk || !plan.warmupOnly.isEmpty then
    Act.log .info s!"Bulk warmup of {set.size} benchmark(s)"
    set.keys.forM h.warmUp

/-- Warmup is left out where it has been done in bulk. -/
def embeddedParams (p : Params) : Params :=
  if h.options.warmupMode.isBulk then p.withoutWarmup else p

def openPort (forked : List (Descriptor × Params)) : Act σ (Option UInt16) := do
  if forked.isEmpty then return none
  match h.listen with
  | .error reason => throw (.link (.io reason))
  | .ok port =>
    Act.log .info (s!"Link server listening on {Link.host}:{port}")
    return some port

/-- Run everything that a plan holds. -/
def runPlan (plan : Plan) : Act σ Unit := do
  let (embedded, forked) ← Act.settle (h.split plan)
  let port ← h.openPort forked
  h.bulkWarmup plan
  embedded.forM fun (d, p) => h.runEmbedded d (h.embeddedParams p)
  if let some port := port then forked.forM fun (d, p) => h.runForked port d p

def list (plan : Plan) : Act σ Unit := do
  h.println "Benchmarks:"
  plan.measured.keys.forM fun d => h.println d.text
  Act.tell h.sink (.call .flush)

def writeResults (path : String) (results : Store) : Act σ Unit := do
  Act.settle (Report.create h.refused path)
  Act.note (.wrote path (Report.document h.metadata results).toText)
  Act.log .info ("Results written to " ++ path)

/-- Start the run, do all of the plan, and end the run with what was merged. -/
def runStarted (plan : Plan) : Act σ Store := do
  Act.tell h.sink .runStart
  let outcome ← Act.attempt (h.runPlan plan)
  if let .error f := outcome then Act.log .error ("Run aborted: " ++ f.fullText)
  let results := (← get).store
  Act.tell h.sink (.runEnd results)
  Act.tell h.sink (.call .flush)
  Act.settle outcome
  if let some path := h.options.resultFile then h.writeResults path results
  return results

/-- The whole invocation; the results are its outcome. -/
def run [PatternEngine] : Act σ Store := do
  let plan ← Act.settle (h.registry.resolve h.options)
  if h.options.listOnly then
    h.list plan
    return .empty
  if plan.isEmpty then
    h.println "No matching benchmarks. Miss-spelled regexp?"
    throw (.noSuchBenchmark (", ".intercalate h.options.includes))
  Act.log .info ("Run " ++ h.metadata.runId.text ++ s!": {plan.measured.size} measured, " ++
    s!"{plan.warmupOnly.size} warmup-only descriptor(s)")
  h.runStarted plan

end Harness

end Microbench
