import Microbench.Proofs.Forked
import Microbench.Proofs.Resolution

/-!
The time that iterations are given. Options that were checked give time to every iteration that they plan
(`Options.Runnable.timed`), and what a run does with its parameters keeps that. Only a warmup fork, which is told to
run one warmup iteration whatever the options plan, can run it without time (`Harness.run_timed`).
-/

namespace Microbench

variable {σ α : Type} {P : Params → IterationKind → Prop} {Q : WorkerArgs → Prop}

/-- Iterations and starts of workers are of these kinds; all else may be done. -/
def Action.Keeps (P : Params → IterationKind → Prop) (Q : WorkerArgs → Prop) : Action → Prop
  | executed _ p kind _ => P p kind
  | launched args => Q args
  | _ => True

theorem Action.IsServed.keeps (a : Action) (served : a.IsServed) : a.Keeps P Q := by
  cases a <;> trivial

namespace Params

def Timed (p : Params) : Prop := ∀ kind, (p.iterations kind).HasTime

variable {p : Params}

theorem Timed.warmupOnly (timed : p.Timed) : p.warmupOnly.Timed
  | .warmup => timed .warmup
  | .measurement => .inl rfl

theorem Timed.withoutWarmup (timed : p.Timed) : p.withoutWarmup.Timed
  | .warmup => .inl rfl
  | .measurement => timed .measurement

theorem Timed.isZero_eq (timed : p.Timed) {kind : IterationKind} (planned : 0 < (p.iterations kind).count.toNat) :
    (p.iterations kind).time.isZero = false := by
  refine (timed kind).resolve_left fun none => ?_
  rw [none] at planned
  exact absurd planned (by decide)

end Params

theorem Options.Runnable.timed {o : Options} (runnable : o.Runnable) {r : Registry} {d : Descriptor} {p : Params}
    (params : r.paramsFor d o = .ok p) : p.Timed := by
  obtain ⟨warmup, measurement⟩ := Registry.iterations_of_paramsFor params
  intro kind
  cases kind with
  | warmup =>
    rw [Params.iterations, warmup]
    exact runnable.warmup
  | measurement =>
    rw [Params.iterations, measurement]
    exact runnable.measurement

namespace Harness

variable {h : Harness σ}

/-- The cycles in the process of a run have parameters of its options, of which some iterations may be left out. -/
theorem Plans.timed (runnable : h.options.Runnable) {d : Descriptor} {p : Params} (plans : h.Plans d p) : p.Timed := by
  cases plans with
  | bulk params => exact (runnable.timed params).warmupOnly
  | embedded params =>
    unfold embeddedParams
    split
    · exact (runnable.timed params).withoutWarmup
    · exact runnable.timed params

theorem writeResults_keeps (path : String) (results : Store) :
    (h.writeResults path results).Only (Action.Keeps P Q) :=
  .bind (.settle _) fun _ => .bind (.note trivial rfl) fun _ => .log (fun _ => trivial) _ _

/-- Whatever is done around the plan of a run, its iterations are those of its cycles, and its workers are forks. -/
theorem run_keeps [PatternEngine] (cycles : ∀ d p, h.Plans d p → (Cycle.run h.setting d p).Only (Action.Keeps P Q))
    (launched : ∀ port d warmup, Q (.of Link.host port d warmup)) : h.run.Only (Action.Keeps P Q) := by
  have served : ∀ a, Action.IsServed a → a.Keeps P Q := Action.IsServed.keeps
  have tells (e : Event) : (Act.tell h.sink e).Only (Action.Keeps P Q) := .tell h.sink fun _ => trivial
  have started (plan : Plan) : (h.runStarted plan).Only (Action.Keeps P Q) := by
    refine .bind (tells _) fun _ => .bind (.attempt (h.runPlan_allowed served launched cycles plan)) fun outcome => ?_
    have ended : (h.conclude outcome).Only (Action.Keeps P Q) := by
      refine .get_bind fun w => .bind (tells _) fun _ => .bind (tells _) fun _ => .bind (.settle _) fun _ => ?_
      simp only
      split
      · exact .bind (h.writeResults_keeps _ _) fun _ => .pure _
      · exact .pure _
    cases outcome with
    | ok _ => exact ended
    | error f => exact .bind (.logged served _ _) fun _ => ended
  refine .bind (.settle _) fun plan => ?_
  split
  · exact .bind (h.list_allowed served plan) fun _ => .pure _
  simp only
  split
  · exact .bind (tells _) fun _ => .throw_bind _ _
  · exact .bind (.logged served _ _) fun _ => started plan

end Harness

namespace Worker

theorem inContext_keeps {act : Act ByteArray α} (keeps : act.Only (Action.Keeps P Q)) (text : String) :
    (inContext text act).Only (Action.Keeps P Q) := by
  refine .bind (.attempt keeps) fun outcome => ?_
  cases outcome with
  | ok x => exact .pure x
  | error f => exact .throw _

theorem send_keeps (f : Frame) : (send f).Only (Action.Keeps P Q) := by
  refine .get_bind fun w => ?_
  split
  · exact fun w => ⟨[], ⟨by rw [List.append_nil]; rfl, rfl⟩, by simp⟩
  · exact .throw _

theorem work_keeps {executor : Executor} {d : Descriptor} {p : Params} {o : Options}
    (cycle : (Cycle.run ⟨Link.sink, executor, o.detailed⟩ d p).Only (Action.Keeps P Q)) :
    (work executor d p o).Only (Action.Keeps P Q) := by
  refine .bind (.attempt cycle) fun outcome => ?_
  split
  · exact .bind (send_keeps _) fun _ => .pure _
  · exact .pure _
  · split
    · exact .bind (.log (fun _ => trivial) _ _) fun _ => .bind (.tell _ fun _ => trivial) fun _ => .pure _
    · exact .throw _

/-- A worker that has read the options runs the iterations that they plan with its own counts. -/
theorem run_keeps {network : Link.Network} {registry : Registry} {executor : Executor} {args : WorkerArgs}
    {reply : List Arrival} {o : Options} (read : Link.readOptions reply = .ok o)
    (planned : ∀ p, registry.paramsFor args.descriptor (o.withCounts args.warmupCount args.measurementCount) = .ok p →
      ∀ kind, 0 < (p.iterations kind).count.toNat → P p kind) :
    (run network registry executor args reply).Only (Action.Keeps P Q) := by
  have asks : (request reply).Only (Action.Keeps P Q) := .bind (send_keeps _) fun _ => .settle _
  have received := (request_sends read).inContext "Failed to receive run options from parent"
  refine .bind (inContext_keeps (.settle _) _) fun _ => .bind_returned (inContext_keeps asks _) fun w x returned => ?_
  obtain rfl : o = x := Except.ok.inj ((received.returns w).symm.trans returned)
  refine .settle_bind fun p params => .bind (.log (fun _ => trivial) _ _) fun _ => ?_
  have cycle : (Cycle.run ⟨Link.sink, executor, o.detailed⟩ args.descriptor p).Only (Action.Keeps P Q) :=
    Cycle.run_allowed (fun _ _ => trivial) fun kind some _ => planned p params kind some
  refine .bind (work_keeps cycle) fun code => .bind (.tell _ fun _ => trivial) fun _ => ?_
  exact .bind (send_keeps _) fun _ => .pure _

end Worker

namespace Harness

/-- Under options that were checked, every iteration in the process of a run has time to run in. The workers that are
started run one descriptor each for a fork that measures or warms up; of these, all iterations have time as well,
unless it is a warmup fork and the options give no time to warmup. -/
theorem run_timed [PatternEngine] {h : Harness σ} {o : Options} (accepted : o.check = .ok h.options) :
    h.run.Only (Action.Keeps (fun p kind => (p.iterations kind).time.isZero = false) fun args =>
      ∃ port d warmup, args = .of Link.host port d warmup ∧
        ∀ network registry executor reply, Link.readOptions reply = .ok h.options →
          (Worker.run network registry executor args reply).Only (Action.Keeps
            (fun p kind => (p.iterations kind).time.isZero = true ↔
              warmup = true ∧ h.options.warmup.time.isZero = true) fun _ => False)) := by
  obtain ⟨rfl, runnable⟩ := Options.check_eq_ok_iff.1 accepted
  refine run_keeps (fun d p plans => ?_) fun port d warmup => ⟨port, d, warmup, rfl, ?_⟩
  · exact Cycle.run_allowed (fun _ _ => trivial) fun kind some _ => (plans.timed runnable).isZero_eq some
  intro network registry executor reply read
  refine Worker.run_keeps read fun p params kind some => ?_
  cases warmup with
  | false =>
    -- Without counts of its own, a worker has the options as they were checked.
    have timed : p.Timed := runnable.timed params
    simp [timed.isZero_eq some]
  | true =>
    obtain ⟨warmup, measurement⟩ := Registry.iterations_of_paramsFor params
    cases kind with
    | measurement =>
      rw [Params.iterations, measurement] at some
      contradiction
    | warmup => simp [Params.iterations, warmup, Options.withCounts]

/-- A harness that warms its benchmark up in a fork, with options that plan no warmup and give it no time. -/
def unplanned : Harness (Array Event) :=
  { refusing with options := { warmup := ⟨0, .zero⟩, measurement := ⟨1, .ofSeconds 1⟩, warmupForks := some 1 } }

def unplannedArgs : WorkerArgs := .of Link.host 4000 ⟨"noop", .throughput, 1⟩ true

def unplannedReply : List Arrival := [.bytes (Frame.optionsResponse unplanned.options).bytes]

def unplannedWorker : Act ByteArray Nat :=
  Worker.run (fun _ _ => .ok ()) unplanned.registry unplanned.executor unplannedArgs unplannedReply

attribute [local instance] PatternEngine.plain

theorem launched_unplanned :
    (unplanned.run.run (World.start #[])).2.trace[5]? = some (.launched unplannedArgs) := rfl

theorem unplanned_read : Link.readOptions unplannedReply = .ok unplanned.options :=
  have replied : Stream.content unplannedReply = (Frame.optionsResponse unplanned.options).bytes ++ .empty := rfl
  Link.readOptions_eq_ok (by decide) (by simp [unplannedReply, Arrival.Sound]) replied

/-- The options of `unplanned` are accepted, its run starts the warmup fork, and that runs a warmup iteration which is
given no time. -/
theorem warmupFork_untimed :
    unplanned.options.check = .ok unplanned.options ∧
      .launched unplannedArgs ∈ (unplanned.run.run (World.start #[])).2.trace ∧
      ∃ d p, .executed d p .warmup 1 ∈ (unplannedWorker.run (World.start .empty)).2.trace ∧
        (p.iterations .warmup).time.isZero = true := by
  let p : Params := ⟨⟨1, .zero⟩, ⟨0, .ofSeconds 1⟩, 1, true, .seconds, 1, 1⟩
  have ran : (unplannedWorker.run (World.start .empty)).2.trace[3]? =
      some (.executed unplannedArgs.descriptor p .warmup 1) := by
    rw [unplannedWorker, Worker.run, Worker.request, unplanned_read]
    set_option maxRecDepth 2000 in rfl
  exact ⟨rfl, Array.mem_of_getElem? launched_unplanned, _, p, Array.mem_of_getElem? ran, by decide⟩

/-- In the process of `unplanned`, no iteration is run without time; in its warmup fork, all are. -/
theorem run_timed_of_unplanned :
    (∀ d p kind index, .executed d p kind index ∈ (unplanned.run.run (World.start #[])).2.trace →
      (p.iterations kind).time.isZero = false) ∧
    ∀ d p kind index, .executed d p kind index ∈ (unplannedWorker.run (World.start .empty)).2.trace →
      (p.iterations kind).time.isZero = true := by
  have timed := (run_timed (h := unplanned) (o := unplanned.options) rfl).of_start #[]
  obtain ⟨port, d, warmup, same, worker⟩ := timed _ (Array.mem_of_getElem? launched_unplanned)
  obtain rfl : true = warmup := by
    cases warmup with
    | true => rfl
    | false => cases congrArg WorkerArgs.warmupCount same
  refine ⟨fun d p kind index ran => timed _ ran, fun d p kind index ran => ?_⟩
  have untimed : unplannedWorker.Only _ := worker _ unplanned.registry unplanned.executor _ unplanned_read
  exact (untimed.of_start .empty _ ran).2 ⟨rfl, by decide⟩

end Harness

end Microbench
