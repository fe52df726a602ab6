import Microbench.Proofs.Live.Course

/-!
A course that is followed with nobody else around: each worker is served to its end as soon as it is started.
Then the course of a run is the run (`Parent.alone_run`).
-/

namespace Microbench

namespace Act

variable {σ α β : Type}

theorem ext {first second : Act σ α} (same : ∀ w, first.run w = second.run w) : first = second :=
  funext same

def Total (act : Act σ α) : Prop := ∀ w, ∃ x, (act.run w).1 = .ok x

theorem attempt_bind {act : Act σ α} (total : act.Total) (f : α → Act σ β) :
    attempt (act >>= f) = act >>= fun x => attempt (f x) := by
  refine ext fun w => ?_
  obtain ⟨x, returns⟩ := total w
  have ran : act.run w = (.ok x, (act.run w).2) := Prod.ext returns rfl
  rw [run_attempt, run_bind_ok ran, run_bind_ok ran, run_attempt]

namespace Total

theorem pure (x : α) : (Pure.pure x : Act σ α).Total := fun _ => ⟨x, rfl⟩

theorem note (a : Action) : (Act.note a : Act σ Unit).Total := fun _ => ⟨(), rfl⟩

theorem merge (d : Descriptor) (run : Run) : (Act.merge d run : Act σ Unit).Total := fun _ => ⟨(), rfl⟩

theorem attempt (act : Act σ α) : (Act.attempt act).Total := fun _ => ⟨_, rfl⟩

theorem of_ends {act : Act σ α} {x : α} {change : World σ → World σ → Prop}
    (ends : act.Ends (.ok x) change) : act.Total := fun w => ⟨x, ends.returns w⟩

theorem get_bind {f : World σ → Act σ α} (total : ∀ w, (f w).Total) : (get >>= f).Total :=
  fun w => total w w

theorem bind {act : Act σ α} {f : α → Act σ β} (first : act.Total) (second : ∀ x, (f x).Total) :
    (act >>= f).Total := by
  intro w
  obtain ⟨x, returns⟩ := first w
  rw [run_bind_ok (Prod.ext returns rfl)]
  exact second x _

theorem forM {f : β → Act σ Unit} (total : ∀ x, (f x).Total) (xs : List β) : (xs.forM f).Total := by
  induction xs with
  | nil => exact .pure ()
  | cons x xs ih => exact .bind (total x) fun _ => ih

end Total

/-- A failure that is caught and then fails the act was not to be caught. -/
theorem attempt_bind_settle (act : Act σ α) (f : α → Act σ β) :
    (attempt act >>= fun
      | .ok x => f x
      | .error e => settle (.error e)) = act >>= f := by
  refine ext fun w => ?_
  rcases ran : act.run w with ⟨outcome, w'⟩
  have attempted : (attempt act).run w = (.ok outcome, w') := by rw [run_attempt, ran]
  rw [run_bind_ok attempted]
  cases outcome with
  | ok x => rw [run_bind_ok ran]
  | error e => rw [run_bind_error ran, run_settle]

end Act

namespace Harness

variable {σ : Type} (h : Harness σ)

theorem serve_total (arrivals : List Arrival) : (h.serve arrivals).Total := by
  refine .bind (.note _) fun _ => .get_bind fun w => .bind ?_ fun _ => .pure ()
  exact .of_ends (Link.Handler.handle_does ⟨h.sink, h.options, w.connections⟩ _ _)

theorem hear_total (connection : Option (List Arrival)) : (h.hear connection).Total := by
  cases connection with
  | none => exact .pure ()
  | some arrivals => exact h.serve_total arrivals

/-- Start a worker and serve it to its end. -/
def attend (args : WorkerArgs) : Act σ (Except String (Option Int)) := do
  let earlier := (← get).launches
  Act.note (.launched args)
  match h.launcher earlier args with
  | .failed reason => return .error reason
  | .ran connection exit messages =>
    messages.forM fun e => Act.note (.overheard e)
    h.hear connection
    return .ok exit

theorem attend_total (args : WorkerArgs) : (h.attend args).Total := by
  refine .get_bind fun w => .bind (.note _) fun _ => ?_
  cases h.launcher w.launches args with
  | failed reason => exact .pure _
  | ran connection exit messages =>
    exact .bind (.forM (fun _ => .note _) messages) fun _ => .bind (h.hear_total connection) fun _ => .pure _

end Harness

namespace Course

variable {σ α β : Type} (h : Harness σ)

/-- Follow a course with nobody else around. -/
def alone : Course α → Act σ α
  | done outcome => Act.settle outcome
  | tell e next => Act.attempt (Act.tell h.sink e) >>= fun answer => (next answer).alone
  | note r next => Act.note r.action >>= fun _ => next.alone
  | merge d run next => Act.merge d run >>= fun _ => next.alone
  | look next => get >>= fun w => (next w.store).alone
  | start args next => h.attend args >>= fun status => (next status).alone
  | close next => next.alone

theorem alone_andThen (p : Course α) (f : Except Failure α → Course β) :
    (p.andThen f).alone h = Act.attempt (p.alone h) >>= fun outcome => (f outcome).alone h := by
  induction p with
  | done outcome => rfl
  | tell e next ih =>
    rw [alone, Act.attempt_bind (.attempt _), bind_assoc]
    exact bind_congr fun answer => ih answer
  | note r next ih =>
    rw [alone, Act.attempt_bind (.note _), bind_assoc]
    exact bind_congr fun _ => ih
  | merge d run next ih =>
    rw [alone, Act.attempt_bind (.merge d run), bind_assoc]
    exact bind_congr fun _ => ih
  | look next ih =>
    rw [alone, Act.attempt_bind fun w => ⟨w, rfl⟩, bind_assoc]
    exact bind_congr fun w => ih w.store
  | start args next ih =>
    rw [alone, Act.attempt_bind (h.attend_total args), bind_assoc]
    exact bind_congr fun status => ih status
  | close next ih => exact ih

@[simp]
theorem alone_bind (p : Course α) (f : α → Course β) :
    (p >>= f).alone h = p.alone h >>= fun x => (f x).alone h := by
  rw [← Act.attempt_bind_settle]
  refine (alone_andThen h p _).trans (bind_congr fun outcome => ?_)
  cases outcome <;> rfl

@[simp]
theorem alone_attempt (p : Course α) : p.attempt.alone h = Act.attempt (p.alone h) :=
  (alone_andThen h p _).trans (bind_pure _)

@[simp]
theorem alone_pure (x : α) : (pure x : Course α).alone h = pure x := rfl

@[simp]
theorem alone_done (outcome : Except Failure α) : (done outcome).alone h = Act.settle outcome := rfl

@[simp]
theorem alone_say (e : Event) : (say e).alone h = Act.tell h.sink e := by
  have caught := Act.attempt_bind_settle (Act.tell h.sink e) pure
  rw [bind_pure] at caught
  refine Eq.trans (bind_congr fun answer => ?_) caught
  cases answer <;> rfl

@[simp]
theorem alone_remark (r : Remark) : (remark r).alone h = Act.note r.action := bind_pure _

@[simp]
theorem alone_log (level : Log.Level) (text : String) : (log level text).alone h = Act.log level text :=
  alone_remark h _

@[simp]
theorem alone_forM (f : β → Course Unit) (xs : List β) :
    (forM xs f).alone h = forM xs fun x => (f x).alone h := by
  induction xs with
  | nil => rfl
  | cons x xs ih => rw [List.forM_cons, List.forM_cons, alone_bind, ih]

end Course

namespace Parent

variable {σ α : Type} (h : Harness σ)

@[simp]
theorem alone_println (line : String) : (println line).alone h = h.println line := Course.alone_say h _

@[simp]
theorem alone_report (f : Failure) : (report h f).alone h = h.report f := by
  simp only [report, Harness.report, Course.alone_bind, Course.alone_log, Course.alone_say]
  refine bind_congr fun _ => bind_congr fun _ => ?_
  split <;> rfl

theorem alone_play (d : Descriptor) (p : Params) (s : Script α) :
    (play d p s).alone h = s.play h.sink d p := by
  simp only [play, Script.play, List.forM_eq_forM, Course.alone_bind, Course.alone_done, Course.alone_forM]
  have deeds : (fun deed => (act d p deed).alone h) = Deed.act h.sink d p := by
    funext deed
    cases deed with
    | tell c => exact Course.alone_say h _
    | execute kind index => exact Course.alone_remark h _
  rw [← deeds, ← Course.alone_forM]

@[simp]
theorem alone_runEmbedded (d : Descriptor) (p : Params) :
    (runEmbedded h d p).alone h = h.runEmbedded d p := by
  have cycle : (play d p (h.cycle d p)).alone h = Cycle.run h.setting d p := by
    rw [alone_play, Cycle.run_eq_play]
    rfl
  simp only [runEmbedded, Harness.runEmbedded, Course.alone_bind, Course.alone_attempt, cycle]
  refine bind_congr fun outcome => ?_
  rcases outcome with f | _ | run
  · dsimp only
    split
    · exact alone_report h f.root
    · rfl
  · rfl
  · exact bind_pure _

theorem alone_leave (d : Descriptor) (exit : Option Int) : (leave h d exit).alone h = h.leave d exit := by
  unfold leave Harness.leave
  split
  · simp only [Course.alone_bind, Course.alone_log, alone_println]
    refine bind_congr fun _ => bind_congr fun _ => ?_
    split <;> rfl
  · rfl

@[simp]
theorem alone_fork (port : UInt16) (d : Descriptor) (warmup : Bool) :
    (fork h port d warmup).alone h = h.fork port d warmup := by
  rw [h.fork_eq, fork, Course.alone, Harness.attend, bind_assoc]
  refine bind_congr fun w => ?_
  rw [bind_assoc]
  refine bind_congr fun _ => ?_
  cases h.launcher w.launches (.of Link.host port d warmup) with
  | failed reason =>
    rw [pure_bind]
    simp
  | ran connection exit messages =>
    simp only [bind_assoc, pure_bind]
    exact bind_congr fun _ => bind_congr fun _ => alone_leave h d exit

theorem alone_watch (port : UInt16) (f : Fork) : (watch h port f).alone h = h.watch port f := by
  unfold watch Harness.watch
  split
  · simp
  · simp only [Course.alone_bind, alone_fork, Course.alone, bind_assoc]
    refine bind_congr fun w => (pure_bind ..).trans (bind_congr fun ran => bind_congr fun w' => ?_)
    rw [Course.alone_pure, pure_bind]
    split
    · simp
    · rfl

@[simp]
theorem alone_attempt (port : UInt16) (f : Fork) : (attempt h port f).alone h = h.attempt port f := by
  rw [attempt, h.attempt_eq]
  simp [alone_watch]

@[simp]
theorem alone_runForked (port : UInt16) (d : Descriptor) (p : Params) :
    (runForked h port d p).alone h = h.runForked port d p := by
  rw [h.runForked_eq]
  simp [runForked]

@[simp]
theorem alone_warmUp (d : Descriptor) : (warmUp h d).alone h = h.warmUp d := by
  simp [warmUp, Harness.warmUp]

@[simp]
theorem alone_bulkWarmup (plan : Plan) : (bulkWarmup h plan).alone h = h.bulkWarmup plan := by
  unfold bulkWarmup Harness.bulkWarmup
  dsimp only
  split
  · simp
  · rfl

@[simp]
theorem alone_openPort (forked : List (Descriptor × Params)) :
    (openPort h forked).alone h = h.openPort forked := by
  unfold openPort Harness.openPort
  split
  · rfl
  · cases h.listen with
    | error reason => rfl
    | ok port => simp

theorem alone_runPhases (plan : Plan) (embedded forked : List (Descriptor × Params)) (port : Option UInt16) :
    (runPhases h plan embedded forked port).alone h = h.bulkWarmup plan >>= fun _ =>
      (embedded.forM fun (d, p) => h.runEmbedded d (h.embeddedParams p)) >>= fun _ =>
        if let some port := port then forked.forM fun (d, p) => h.runForked port d p else pure () := by
  simp only [runPhases, List.forM_eq_forM, Course.alone_bind, alone_bulkWarmup, Course.alone_forM,
    alone_runEmbedded]
  refine bind_congr fun _ => bind_congr fun _ => ?_
  cases port with
  | none => rfl
  | some port => simp

/-- Nobody notices the end of the server. -/
theorem alone_runPlan (plan : Plan) : (runPlan h plan).alone h = h.runPlan plan := by
  simp only [runPlan, Harness.runPlan, Course.alone_bind, Course.alone_done, Course.alone_attempt, alone_openPort]
  refine bind_congr fun parts => ?_
  obtain ⟨embedded, forked⟩ := parts
  refine bind_congr fun port => ?_
  rw [alone_runPhases]
  refine (bind_congr fun outcome => ?_).trans (Act.attempt_bind_settle _ pure |>.trans (bind_pure _))
  cases port <;> cases outcome <;> rfl

@[simp]
theorem alone_list (plan : Plan) : (list plan).alone h = h.list plan := by
  simp [list, Harness.list]

@[simp]
theorem alone_writeResults (path : String) (results : Store) :
    (writeResults h path results).alone h = h.writeResults path results := by
  simp [writeResults, Harness.writeResults, Remark.action]

theorem alone_conclude (planned : Except Failure Unit) : (conclude h planned).alone h = h.conclude planned := by
  simp only [conclude, Harness.conclude, Harness.release, Course.alone_bind, Course.alone_say, Course.alone,
    bind_assoc]
  refine bind_congr fun w => (pure_bind ..).trans (bind_congr fun _ => bind_congr fun _ => bind_congr fun _ => ?_)
  cases h.options.resultFile with
  | none => rfl
  | some path => simp

@[simp]
theorem alone_runStarted (plan : Plan) : (runStarted h plan).alone h = h.runStarted plan := by
  simp only [runStarted, Harness.runStarted, Course.alone_bind, Course.alone_attempt, Course.alone_say, alone_runPlan]
  refine bind_congr fun _ => bind_congr fun outcome => ?_
  cases outcome with
  | ok _ => exact alone_conclude h (.ok ())
  | error f =>
    refine (Course.alone_bind h _ _).trans ?_
    rw [Course.alone_log]
    exact bind_congr fun _ => alone_conclude h (.error f)

end Parent

end Microbench
