import Microbench.Proofs.Schedule

/-!
What the parent does, one thing after another. A `Course` tells events, notes what is done, merges what was
measured in this process, looks at the store, starts workers and closes the server, and what comes next may
depend on what came of it. `Parent.run` is the course of a whole run.
-/

namespace Microbench

inductive Remark where
  | logged (level : Log.Level) (text : String)
  | executed (d : Descriptor) (p : Params) (kind : IterationKind) (index : UInt32)
  | wrote (path text : String)

def Remark.action : Remark → Action
  | logged level text => .logged ⟨level, text, none⟩
  | executed d p kind index => .executed d p kind index
  | wrote path text => .wrote path text

/-- What is left to be done. What comes of the start of a worker is why it could not be started, or how it
exited, which is known when everything was done for it. -/
inductive Course (α : Type) where
  | done (outcome : Except Failure α)
  | tell (e : Event) (next : Except Failure Unit → Course α)
  | note (r : Remark) (next : Course α)
  | merge (d : Descriptor) (run : Run) (next : Course α)
  | look (next : Store → Course α)
  | start (args : WorkerArgs) (next : Except String (Option Int) → Course α)
  | close (next : Course α)

namespace Course

variable {α β : Type}

/-- Go on with what came of it, also if it has failed. -/
def andThen (p : Course α) (f : Except Failure α → Course β) : Course β :=
  match p with
  | done outcome => f outcome
  | tell e next => tell e fun answer => (next answer).andThen f
  | note r next => note r (next.andThen f)
  | merge d run next => merge d run (next.andThen f)
  | look next => look fun store => (next store).andThen f
  | start args next => start args fun status => (next status).andThen f
  | close next => close (next.andThen f)

instance : Monad Course where
  pure x := done (.ok x)
  bind p f := p.andThen fun
    | .ok x => f x
    | .error e => done (.error e)

def attempt (p : Course α) : Course (Except Failure α) := p.andThen fun outcome => done (.ok outcome)

def say (e : Event) : Course Unit := tell e done

def remark (r : Remark) : Course Unit := note r (pure ())

def log (level : Log.Level) (text : String) : Course Unit := remark (.logged level text)

end Course

namespace Parent

open Course

variable {σ α : Type} (h : Harness σ)

def println (line : String) : Course Unit := say (.call (.println line))

def report (f : Failure) : Course Unit := do
  log .warn f.message
  say (.call (.exception f.message))
  if f.isFatal h.options.failOnError then done (.error f)

def act (d : Descriptor) (p : Params) : Deed → Course Unit
  | .tell c => say (.call c)
  | .execute kind index => remark (.executed d p kind index)

def play (d : Descriptor) (p : Params) (s : Script α) : Course α := do
  s.deeds.forM (act d p)
  done s.outcome

def runEmbedded (d : Descriptor) (p : Params) : Course Unit := do
  match ← (play d p (h.cycle d p)).attempt with
  | .ok (some run) => merge d run (pure ())
  | .ok none => return ()
  | .error f => if f.isReported then report h f.root else done (.error f)

def leave (d : Descriptor) (exit : Option Int) : Course Bool := do
  if exit ≠ some 0 then
    let code := exit.getD (-1)
    let warning := s!"WARNING: Forked process returned code: {code}"
    log .warn (warning ++ " for " ++ d.text)
    println warning
    let f := Failure.workerExit d code
    if f.isFatal h.options.failOnError then done (.error f)
  return true

def fork (port : UInt16) (d : Descriptor) (warmup : Bool) : Course Bool :=
  start (.of Link.host port d warmup) fun
    | .error reason => do
      report h (.workerSpawn d reason)
      return false
    | .ok exit => leave h d exit

def watch (port : UInt16) (f : Fork) : Course Unit := do
  if f.warmup then
    let _ ← fork h port f.descriptor true
  else
    let before ← look fun store => pure (store.contributions f.descriptor)
    let ran ← fork h port f.descriptor false
    let after ← look fun store => pure (store.contributions f.descriptor)
    if ran && after = before && f.params.measurement.count > 0 then
      log .warn f.warning
      println f.warning

def attempt (port : UInt16) (f : Fork) : Course Unit := do
  log .info f.entry.text
  println f.line
  watch h port f

def runForked (port : UInt16) (d : Descriptor) (p : Params) : Course Unit :=
  (Fork.list d p).forM (attempt h port)

def warmUp (d : Descriptor) : Course Unit := do
  let p ← done (h.registry.paramsFor d h.options)
  runEmbedded h d p.warmupOnly

def bulkWarmup (plan : Plan) : Course Unit := do
  let set := h.warmupSet plan
  if h.options.warmupMode.isBulk || !plan.warmupOnly.isEmpty then
    log .info s!"Bulk warmup of {set.size} benchmark(s)"
    set.keys.forM (warmUp h)

def openPort (forked : List (Descriptor × Params)) : Course (Option UInt16) := do
  if forked.isEmpty then return none
  match h.listen with
  | .error reason => done (.error (.link (.io reason)))
  | .ok port =>
    log .info (s!"Link server listening on {Link.host}:{port}")
    return some port

def runPhases (plan : Plan) (embedded forked : List (Descriptor × Params)) (port : Option UInt16) :
    Course Unit := do
  bulkWarmup h plan
  embedded.forM fun (d, p) => runEmbedded h d (h.embeddedParams p)
  if let some port := port then forked.forM fun (d, p) => runForked h port d p

/-- Run everything that a plan holds, and close the server if there is one, whatever came of it. -/
def runPlan (plan : Plan) : Course Unit := do
  let (embedded, forked) ← done (h.split plan)
  let port ← openPort h forked
  let outcome ← (runPhases h plan embedded forked port).attempt
  if port.isSome then close (pure ())
  done outcome

def list (plan : Plan) : Course Unit := do
  println "Benchmarks:"
  plan.measured.keys.forM fun d => println d.text
  say (.call .flush)

def writeResults (path : String) (results : Store) : Course Unit := do
  done (Report.create h.refused path)
  remark (.wrote path (Report.document h.metadata results).toText)
  log .info ("Results written to " ++ path)

def conclude (planned : Except Failure Unit) : Course Store := do
  let results ← look pure
  say (.runEnd results)
  say (.call .flush)
  done planned
  if let some path := h.options.resultFile then writeResults h path results
  return results

def runStarted (plan : Plan) : Course Store := do
  say .runStart
  let outcome ← (runPlan h plan).attempt
  if let .error f := outcome then log .error ("Run aborted: " ++ f.fullText)
  conclude h outcome

/-- The course of a whole invocation. -/
def run [PatternEngine] : Course Store := do
  let plan ← done (h.registry.resolve h.options)
  if h.options.listOnly then
    list plan
    return .empty
  if plan.isEmpty then
    println "No matching benchmarks. Miss-spelled regexp?"
    done (.error (.noSuchBenchmark (", ".intercalate h.options.includes)))
  log .info ("Run " ++ h.metadata.runId.text ++ s!": {plan.measured.size} measured, " ++
    s!"{plan.warmupOnly.size} warmup-only descriptor(s)")
  runStarted h plan

end Parent

end Microbench
