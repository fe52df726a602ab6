import Microbench.Proofs.InProcess
import Microbench.Proofs.Link.Handling

/-!
Attempts at forks. Each is announced, and its worker is started and served to its end before anything
else is done; what an attempt comes to is told of its launch alone, except that a warning depends on what
the store holds (`Harness.attempt_goes`).
-/

namespace Microbench

open Link

variable {σ α : Type}

/-- A fork that a plan asks for, with its number among those of its kind, from 1. -/
structure Fork where
  descriptor : Descriptor
  params : Params
  warmup : Bool
  index : Nat

namespace Fork

variable (f : Fork)

def args (port : UInt16) : WorkerArgs := .of Link.host port f.descriptor f.warmup

def line : String :=
  if f.warmup then s!"# Warmup Fork: {f.index} of {f.params.warmupForks}"
  else s!"# Fork: {f.index} of {f.params.forks}"

def entry : Log.Entry where
  level := .info
  text := f.descriptor.text ++
    if f.warmup then s!": warmup fork {f.index} of {f.params.warmupForks}"
    else s!": fork {f.index} of {f.params.forks}"

/-- What is done until the worker is started. -/
def opening (port : UInt16) : List Action :=
  [.logged f.entry, .told (.call (.println f.line)) none, .launched (f.args port)]

def warning : String := "WARNING: Forked run of " ++ f.descriptor.text ++ " reported no results"

def silence : List Action := [.logged ⟨.warn, f.warning, none⟩, .told (.call (.println f.warning)) none]

end Fork

namespace Launch

def isRan : Launch → Bool
  | .ran .. => true
  | .failed _ => false

def failure? (d : Descriptor) : Launch → Option Failure
  | .failed reason => some (.workerSpawn d reason)
  | .ran _ exit _ => if exit = some 0 then none else some (.workerExit d (exit.getD (-1)))

theorem failure?_ran (d : Descriptor) (connection : Option (List Arrival)) (exit : Option Int)
    (messages : List Log.Entry) : (ran connection exit messages).failure? d =
      if exit = some 0 then none else some (.workerExit d (exit.getD (-1))) := rfl

end Launch

/-- A handler serves a connection to its end: calls and reports are those of the frames, in order. -/
theorem Link.Handler.serve_goes (h : Handler σ) (arrivals : List Arrival) (w : World σ) :
    (h.serve arrivals).Goes h.sink w fun outcome actions => (∃ bytes, outcome = .ok bytes) ∧
      actions.filterMap Action.event? =
        (h.served (Stream.frames .async arrivals).1).flatMap Frame.forwarded ∧
      actions.filterMap Action.report? =
        (h.served (Stream.frames .async arrivals).1).flatMap Frame.reports ∧
      ∀ a ∈ actions, a.IsServed := by
  have does := h.handle_does (Stream.frames .async arrivals).1 (Stream.frames .async arrivals).2
  obtain ⟨actions, continued, quiet⟩ := h.handle_only (Stream.frames .async arrivals).1
    (Stream.frames .async arrivals).2 w
  have grown := does.changes w
  refine .of_run (does.run_eq w) continued ⟨⟨_, rfl⟩, ?_, ?_, quiet⟩
  · exact List.append_cancel_left (continued.told.symm.trans grown.told)
  · exact List.append_cancel_left (continued.merged.symm.trans grown.merged)

namespace Harness

variable (h : Harness σ)

/-- The frames of a worker that are acted on. -/
def frames : Launch → List Frame
  | .ran (some arrivals) _ _ =>
    Handler.served ⟨h.sink, h.options, 0⟩ (Stream.frames .async arrivals).1
  | _ => []

def reports (launch : Launch) : List (Descriptor × Run) := (h.frames launch).flatMap Frame.reports

/-- These actions serve a worker to its end: its calls are made and its reports merged, in order. -/
structure Served (launch : Launch) (actions : List Action) : Prop where
  told : actions.filterMap Action.event? = (h.frames launch).flatMap Frame.forwarded
  merged : actions.filterMap Action.report? = h.reports launch
  quiet : ∀ a ∈ actions, a.IsServed

def hear : Option (List Arrival) → Act σ Unit
  | some arrivals => h.serve arrivals
  | none => pure ()

def leave (d : Descriptor) (exit : Option Int) : Act σ Bool := do
  if exit ≠ some 0 then
    let code := exit.getD (-1)
    let warning := s!"WARNING: Forked process returned code: {code}"
    Act.log .warn (warning ++ " for " ++ d.text)
    h.println warning
    let f := Failure.workerExit d code
    if f.isFatal h.options.failOnError then throw f
  return true

theorem fork_eq (port : UInt16) (d : Descriptor) (warmup : Bool) :
    h.fork port d warmup = get >>= fun w : World σ =>
      Act.note (.launched (.of Link.host port d warmup)) >>= fun _ =>
      match h.launcher w.launches (.of Link.host port d warmup) with
      | .failed reason => h.report (.workerSpawn d reason) >>= fun _ => pure false
      | .ran connection exit messages => messages.forM (fun e => Act.note (.overheard e)) >>= fun _ =>
        h.hear connection >>= fun _ => h.leave d exit := by
  unfold fork
  refine bind_congr fun w => bind_congr fun _ => ?_
  cases h.launcher w.launches (.of Link.host port d warmup) with
  | failed reason => rfl
  | ran connection exit messages =>
    refine bind_congr fun _ => ?_
    cases connection <;> rfl

def notices (failure : Option Failure) : List Action := failure.toList.flatMap Failure.notice

theorem isOuter_of_mem_notices {failure : Option Failure} : ∀ a ∈ notices failure, a.IsOuter := by
  intro a ha
  obtain ⟨f, -, mem⟩ := List.mem_flatMap.1 ha
  exact Failure.isOuter_of_mem_notice a mem

theorem Served.reports_append {launch : Launch} {served : List Action} (serves : h.Served launch served)
    (failure : Option Failure) :
    (served ++ notices failure).filterMap Action.report? = h.reports launch := by
  have none : (notices failure).filterMap Action.report? = [] :=
    List.filterMap_eq_nil_iff.2 fun a ha => (isOuter_of_mem_notices a ha).2.2
  rw [List.filterMap_append, serves.merged, none, List.append_nil]

theorem hear_goes (connection : Option (List Arrival)) (exit : Option Int) (messages : List Log.Entry)
    (w : World σ) : (h.hear connection).Goes h.sink w fun outcome actions => outcome = .ok () ∧
      h.Served (.ran connection exit messages) (messages.map .overheard ++ actions) := by
  have overheard : (messages.map Action.overheard).filterMap Action.event? = [] ∧
      (messages.map Action.overheard).filterMap Action.report? = [] ∧
      ∀ a ∈ messages.map Action.overheard, a.IsServed := by
    simp [List.filterMap_map, Function.comp_def, Action.event?, Action.report?, Action.IsServed]
  obtain ⟨told, merged, quiet⟩ := overheard
  cases connection with
  | none =>
    refine .pure ⟨rfl, ?_, ?_, ?_⟩
    · simpa [frames] using told
    · simpa [reports, frames] using merged
    · simpa using quiet
  | some arrivals =>
    refine (Act.Goes.note rfl).after fun {w'} _ => .get_bind ?_
    have serves := Handler.serve_goes ⟨h.sink, h.options, w'.connections⟩ arrivals w'
    refine Act.Goes.bind serves ?_ ?_
    · rintro _ as w' - ⟨-, told', merged', quiet'⟩
      refine .pure ⟨rfl, ?_, ?_, fun a ha => ?_⟩
      · rw [List.filterMap_append, told, List.append_nil]
        exact told'
      · rw [List.filterMap_append, merged, List.append_nil]
        exact merged'
      · simp only [List.mem_append, List.mem_singleton, List.append_nil] at ha
        rcases ha with message | rfl | own
        · exact quiet a message
        · trivial
        · exact quiet' a own
    · rintro e as ⟨⟨_, failed⟩, -⟩
      contradiction

theorem leave_goes (d : Descriptor) (connection : Option (List Arrival)) (exit : Option Int)
    (messages : List Log.Entry) (w : World σ) :
    (h.leave d exit).Goes h.sink w fun outcome actions =>
      outcome = (h.verdict ((Launch.ran connection exit messages).failure? d)).map (fun _ => true) ∧
        actions = notices ((Launch.ran connection exit messages).failure? d) := by
  rw [Launch.failure?_ran]
  unfold leave
  by_cases fine : exit = some 0
  · rw [if_neg (not_not_intro fine), if_pos fine]
    exact .pure ⟨rfl, rfl⟩
  · rw [if_pos fine, if_neg fine]
    refine .after (.log _ _) fun _ => .after (.tell ⟨rfl, rfl⟩) fun _ => ?_
    simp only
    split
    · rename_i fatal
      refine .throw_bind ⟨?_, rfl⟩
      simp [verdict, Failure.isReported, Failure.root, fatal, Except.map]
    · rename_i harmless
      refine .pure ⟨?_, rfl⟩
      simp [verdict, Failure.isReported, Failure.root, harmless, Except.map]

def launch (port : UInt16) (f : Fork) (n : Nat) : Launch := h.launcher n (f.args port)

/-- The worker of a fork is started and served to its end, and then its exit is looked at. -/
theorem fork_goes (port : UInt16) (f : Fork) (w : World σ) :
    (h.fork port f.descriptor f.warmup).Goes h.sink w fun outcome actions => ∃ served,
      h.Served (h.launch port f w.launches) served ∧
      actions = .launched (f.args port) ::
        (served ++ notices ((h.launch port f w.launches).failure? f.descriptor)) ∧
      outcome = (h.verdict ((h.launch port f w.launches).failure? f.descriptor)).map
        fun _ => (h.launch port f w.launches).isRan := by
  rw [fork_eq]
  refine .get_bind ((Act.Goes.note rfl).after fun {w'} _ => ?_)
  change Act.Goes h.sink (match h.launch port f w.launches with
    | .failed reason => h.report (.workerSpawn f.descriptor reason) >>= fun _ => pure false
    | .ran connection exit messages => messages.forM (fun e => Act.note (.overheard e)) >>= fun _ =>
      h.hear connection >>= fun _ => h.leave f.descriptor exit) _ _
  cases h.launch port f w.launches with
  | failed reason =>
    have nothing : h.Served (.failed reason) [] := ⟨rfl, rfl, by simp⟩
    have strict : h.verdict ((Launch.failed reason).failure? f.descriptor) =
        if (Failure.workerSpawn f.descriptor reason).isFatal h.options.failOnError then
          .error (.workerSpawn f.descriptor reason) else .ok () := by
      cases fatal : (Failure.workerSpawn f.descriptor reason).isFatal h.options.failOnError <;>
        simp [Launch.failure?, verdict, Failure.isReported, Failure.root, fatal]
    rw [strict]
    refine (h.report_goes (.workerSpawn f.descriptor reason) w').bind ?_ ?_
    · rintro _ as w'' - ⟨outcome, rfl⟩
      exact .pure ⟨[], nothing, rfl, by rw [← outcome]; rfl⟩
    · rintro e as ⟨outcome, rfl⟩
      exact ⟨[], nothing, rfl, by rw [← outcome]; rfl⟩
  | ran connection exit messages =>
    refine (Act.Goes.notes (fun _ => rfl) messages).after fun _ => ?_
    refine (h.hear_goes connection exit messages _).bind ?_ ?_
    · rintro _ as w'' - ⟨-, served⟩
      refine (h.leave_goes f.descriptor connection exit messages w'').mono ?_
      rintro outcome bs ⟨rfl, rfl⟩
      exact ⟨_, served, by simp [Fork.args], rfl⟩
    · rintro e as ⟨failed, -⟩
      contradiction

/-- Whether a measuring worker has run and changed nothing in a store. -/
def isSilent (f : Fork) (launch : Launch) (before : Store) : Bool :=
  !f.warmup && (launch.isRan && (before.mergeReports (h.reports launch)).contributions f.descriptor =
    before.contributions f.descriptor && f.params.measurement.count > 0)

/-- What is done in the attempt number `n` behind what was done before, and what comes of it. -/
inductive Attempted (port : UInt16) (f : Fork) (n : Nat) (past : List Action) :
    Except Failure Unit → List Action → Prop where
  | done {served : List Action} (serves : h.Served (h.launch port f n) served)
    (settled : h.verdict ((h.launch port f n).failure? f.descriptor) = .ok ()) :
    Attempted port f n past (.ok ())
      (f.opening port ++ (served ++ (notices ((h.launch port f n).failure? f.descriptor) ++
        if h.isSilent f (h.launch port f n) (Store.empty.mergeReports (past.filterMap Action.report?))
        then f.silence else [])))
  | stopped {served : List Action} {failure : Failure} (serves : h.Served (h.launch port f n) served)
    (failed : (h.launch port f n).failure? f.descriptor = some failure)
    (fatal : h.verdict (some failure) = .error failure) :
    Attempted port f n past (.error failure) (f.opening port ++ (served ++ failure.notice))

def attempt (port : UInt16) (f : Fork) : Act σ Unit :=
  if f.warmup then h.warmupFork port f.descriptor f.params f.index
  else h.measuredFork port f.descriptor f.params f.index

theorem verdict_cases (failure : Option Failure) : h.verdict failure = .ok () ∨
    ∃ f, failure = some f ∧ h.verdict failure = .error f := by
  unfold verdict
  split
  · exact .inl rfl
  · split
    · exact .inl rfl
    · exact .inr ⟨_, rfl, rfl⟩

theorem Attempted.of_failed {port : UInt16} {f : Fork} {n : Nat} {past served : List Action} {e : Failure}
    (serves : h.Served (h.launch port f n) served)
    (outcome : .error e = (h.verdict ((h.launch port f n).failure? f.descriptor)).map
      fun _ => (h.launch port f n).isRan) :
    h.Attempted port f n past (.error e) (f.opening port ++
      (served ++ notices ((h.launch port f n).failure? f.descriptor))) := by
  rcases h.verdict_cases ((h.launch port f n).failure? f.descriptor) with settled | ⟨f', failed, fatal⟩
  · rw [settled] at outcome
    contradiction
  · rw [fatal] at outcome
    obtain rfl := Except.error.inj outcome
    rw [failed] at fatal
    rw [failed, notices, Option.toList_some, List.flatMap_singleton]
    exact .stopped serves failed fatal

theorem settled_of_ok {launch : Launch} {d : Descriptor} {ran : Bool}
    (outcome : .ok ran = (h.verdict (launch.failure? d)).map fun _ => launch.isRan) :
    h.verdict (launch.failure? d) = .ok () ∧ ran = launch.isRan := by
  rcases h.verdict_cases (launch.failure? d) with settled | ⟨f, -, fatal⟩
  · rw [settled] at outcome
    exact ⟨settled, Except.ok.inj outcome⟩
  · rw [fatal] at outcome
    contradiction

/-- What a fork is watched for: of one that measures, whether the store changes. -/
def watch (port : UInt16) (f : Fork) : Act σ Unit := do
  if f.warmup then
    let _ ← h.fork port f.descriptor true
  else
    let before := (← get).store.contributions f.descriptor
    let ran ← h.fork port f.descriptor false
    let after := (← get).store.contributions f.descriptor
    if ran && after = before && f.params.measurement.count > 0 then
      Act.log .warn f.warning
      h.println f.warning

theorem attempt_eq (port : UInt16) (f : Fork) : h.attempt port f =
    Act.log .info f.entry.text >>= fun _ => h.println f.line >>= fun _ => h.watch port f := by
  obtain ⟨d, p, warmup, i⟩ := f
  cases warmup <;> rfl

theorem watch_goes (port : UInt16) (f : Fork) {past : List Action} {w : World σ}
    (store : w.store = Store.empty.mergeReports (past.filterMap Action.report?)) :
    (h.watch port f).Goes h.sink w fun outcome actions => ∃ rest,
      actions = .launched (f.args port) :: rest ∧
        h.Attempted port f w.launches past outcome (f.opening port ++ rest) := by
  have forks := h.fork_goes port f w
  unfold watch
  cases measures : f.warmup with
  | true =>
    rw [measures] at forks
    refine Act.Goes.bind forks ?_ ?_
    · rintro _ as w' - ⟨served, serves, rfl, outcome⟩
      have done : h.Attempted port f w.launches past (.ok ()) _ :=
        .done serves (h.settled_of_ok outcome).1
      have spoke : h.isSilent f (h.launch port f w.launches)
          (Store.empty.mergeReports (past.filterMap Action.report?)) = false := by
        rw [isSilent, measures]
        rfl
      rw [spoke] at done
      exact .pure ⟨_, List.append_nil _, by simpa using done⟩
    · rintro e as ⟨served, serves, rfl, outcome⟩
      exact ⟨_, rfl, .of_failed h serves outcome⟩
  | false =>
    rw [measures] at forks
    refine .get_bind (Act.Goes.bind forks ?_ ?_)
    · rintro ran as w' continued ⟨served, serves, rfl, outcome⟩
      obtain ⟨settled, rfl⟩ := h.settled_of_ok outcome
      have done : h.Attempted port f w.launches past (.ok ()) _ := .done serves settled
      have merged : w'.store = (Store.empty.mergeReports (past.filterMap Action.report?)).mergeReports
          (h.reports (h.launch port f w.launches)) := by
        rw [continued.store, store]
        exact congrArg _ (serves.reports_append h _)
      rw [isSilent, measures, Bool.not_false, Bool.true_and] at done
      refine .get_bind ?_
      simp only [store, merged]
      split
      · rename_i silent
        rw [if_pos silent] at done
        refine .after (.log _ _) fun _ => .tell ⟨_, ?_, done⟩
        simp [Fork.silence]
      · rename_i spoke
        rw [if_neg spoke] at done
        refine .pure ⟨_, ?_, done⟩
        simp
    · rintro e as ⟨served, serves, rfl, outcome⟩
      exact ⟨_, rfl, .of_failed h serves outcome⟩

/-- What an attempt does depends on the past only in its number and in what the store holds. -/
theorem attempt_goes (port : UInt16) (f : Fork) {past : List Action} {w : World σ} (has : w.Has past) :
    (h.attempt port f).Goes h.sink w (h.Attempted port f w.launches past) := by
  rw [attempt_eq]
  refine (Act.Goes.log _ _).after fun {w₁} logs => .after (.tell ⟨rfl, rfl⟩) fun {w₂} tells => ?_
  have both := logs.trans tells
  have launches : w₂.launches = w.launches := by simp [World.launches, both.trace]
  have store : w₂.store = Store.empty.mergeReports (past.filterMap Action.report?) := by
    rw [both.store, has.store_eq]
    rfl
  refine (h.watch_goes port f store).mono ?_
  rintro outcome actions ⟨rest, rfl, attempted⟩
  rw [launches] at attempted
  exact attempted

end Harness

end Microbench
