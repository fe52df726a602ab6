import Microbench.Harness
import Microbench.Proofs.Trace
import Microbench.Registry.Plain

/-!
The start and the end of a run. Whatever fails in between, a run that the sink let start is ended
once, with everything that was merged.
-/

namespace Microbench

/-- What is done between the start and the end of a run. -/
def Action.IsInner : Action → Prop
  | told (.call _) _ | executed .. | launched _ | accepted | merged .. | logged _ | overheard _ => True
  | told .. | created _ | wrote .. => False

def Action.IsCycle : Action → Prop
  | told (.call _) _ | executed .. | logged _ => True
  | _ => False

def Action.IsServed : Action → Prop
  | told (.call _) _ | accepted | merged .. | logged _ | overheard _ => True
  | _ => False

theorem Action.IsCycle.inner (a : Action) (h : a.IsCycle) : a.IsInner := by
  unfold Action.IsCycle at h
  split at h <;> trivial

theorem Action.IsServed.inner (a : Action) (h : a.IsServed) : a.IsInner := by
  unfold Action.IsServed at h
  split at h <;> trivial

/-- Between the start and the end, only calls are told. -/
theorem Action.IsInner.told_call {a : Action} (inner : a.IsInner) {e : Event} (told : a.event? = some e) :
    ∃ c, e = .call c := by
  cases a with
  | told e' refusal =>
    cases e' with
    | call c => exact ⟨c, (Option.some.inj told).symm⟩
    | runStart | runEnd => exact inner.elim
  | _ => contradiction

variable {σ : Type}

abbrev Act.Inner {α : Type} (act : Act σ α) : Prop := act.Only Action.IsInner

section

variable {allowed : Action → Prop} (served : ∀ a, Action.IsServed a → allowed a)

include served

theorem Act.Only.logged (level : Log.Level) (text : String) : (Act.log level text : Act σ Unit).Only allowed :=
  .log (fun _ => served _ trivial) level text

theorem Act.Only.call (sink : Sink σ) (c : Call) : (Act.tell sink (.call c)).Only allowed :=
  .tell sink fun _ => served _ trivial

end

namespace Cycle

variable {s : Setting σ} {d : Descriptor} {p : Params} {allowed : Action → Prop}
  (called : ∀ c refusal, allowed (.told (.call c) refusal))

include called

theorem iteration_allowed {kind : IterationKind} {index : UInt32} (executed : allowed (.executed d p kind index)) :
    (iteration s d p kind index).Only allowed := by
  have tells (c : Call) : (Act.tell s.sink (.call c)).Only allowed := .tell s.sink (called c)
  refine .bind (tells _) fun _ => .bind ?_ fun sample => .bind (tells _) fun _ => ?_
  · refine .bind (.note executed rfl) fun _ => ?_
    split
    · exact .pure _
    · exact .throw _
    · exact .throw _
  · split
    · exact .bind (tells _) fun _ => .pure sample
    · exact .pure sample

theorem iterations_allowed {kind : IterationKind} {n : Nat}
    (executed : 0 < n → ∀ index, allowed (.executed d p kind index)) (first : Nat) :
    (iterations s d p kind first n).Only allowed := by
  induction n generalizing first with
  | zero => exact .pure []
  | succ n ih =>
    refine .bind (iteration_allowed called (executed n.succ_pos _)) fun _ => ?_
    exact .bind (ih (fun _ => executed n.succ_pos) (first + 1)) fun _ => .pure _

/-- A cycle makes calls and runs iterations, but none of a kind that it plans none of. -/
theorem run_allowed
    (executed : ∀ kind, 0 < (p.iterations kind).count.toNat → ∀ index, allowed (.executed d p kind index)) :
    (run s d p).Only allowed :=
  .bind (.tell s.sink (called _)) fun _ =>
    .bind (iterations_allowed called (executed .warmup) 1) fun _ =>
      .bind (iterations_allowed called (executed .measurement) 1) fun _ =>
        .bind (.tell s.sink (called _)) fun _ => .pure _

omit called

theorem run_only (s : Setting σ) (d : Descriptor) (p : Params) : (run s d p).Only Action.IsCycle :=
  run_allowed (fun _ _ => trivial) fun _ _ _ => trivial

end Cycle

namespace Link.Handler

variable (h : Handler σ)

theorem log_only (level : Log.Level) (text : String) :
    (Act.log level text : Act σ Unit).Only Action.IsServed := .log (fun _ => trivial) level text

theorem pass_only (c : Call) (logged : String) : (h.pass (.call c) logged).Only Action.IsServed := by
  refine .bind (.attempt (.tell h.sink fun _ => trivial)) fun outcome => ?_
  cases outcome with
  | ok _ => exact .pure ()
  | error f => exact log_only _ _

theorem react_only (f : Frame) : (h.react f).Only Action.IsServed := by
  cases f with
  | optionsRequest | finish | optionsResponse => exact .pure _
  | report d run => exact .bind (.merge trivial) fun _ => .pure _
  | outputCall method args =>
    refine .bind ?_ fun _ => .pure _
    unfold forward
    split
    · exact h.pass_only _ _
    · exact log_only _ _
    · exact .bind (log_only _ _) fun _ => h.pass_only _ _

theorem close_only (e : Option LinkError) : (h.close e).Only Action.IsServed := by
  cases e with
  | none => exact .pure ()
  | some e => exact log_only _ _

theorem handle_only (frames : List Frame) (error : Option LinkError) :
    (h.handle frames error).Only Action.IsServed := by
  induction frames with
  | nil => exact .bind (h.close_only error) fun _ => .pure _
  | cons f rest ih =>
    refine .bind (h.react_only f) fun reaction => ?_
    cases reaction with
    | stop e => exact .bind (h.close_only e) fun _ => .pure _
    | answer bytes => exact .bind ih fun _ => .pure _

end Link.Handler

/-- A binding that succeeds took a value from its first part. -/
theorem Except.bind_eq_ok {ε α β : Type} {x : Except ε α} {f : α → Except ε β} {y : β}
    (h : (x >>= f) = .ok y) : ∃ a, x = .ok a ∧ f a = .ok y := by
  cases x with
  | error e => contradiction
  | ok a => exact ⟨a, rfl, h⟩

theorem Except.exists_of_mapM_eq_ok {ε α β : Type} {f : α → Except ε β} {xs : List α} {ys : List β}
    (all : xs.mapM f = .ok ys) : ∀ y ∈ ys, ∃ x ∈ xs, f x = .ok y := by
  induction xs generalizing ys with
  | nil =>
    obtain rfl := Except.ok.inj all
    simp
  | cons x xs ih =>
    rw [List.mapM_cons] at all
    obtain ⟨first, made, all⟩ := Except.bind_eq_ok all
    obtain ⟨rest, others, all⟩ := Except.bind_eq_ok all
    obtain rfl := Except.ok.inj all
    intro y mem
    rcases List.mem_cons.1 mem with rfl | mem
    · exact ⟨x, List.mem_cons_self, made⟩
    · obtain ⟨z, inside, made⟩ := ih others y mem
      exact ⟨z, List.mem_cons_of_mem x inside, made⟩

namespace Harness

variable (h : Harness σ)

/-- The parts of a plan have the parameters that the registry gives. -/
theorem paramsFor_of_split {plan : Plan} {parts : List (Descriptor × Params) × List (Descriptor × Params)}
    (split : h.split plan = .ok parts) (x : Descriptor × Params) (mem : x ∈ parts.1 ∨ x ∈ parts.2) :
    h.registry.paramsFor x.1 h.options = .ok x.2 := by
  obtain ⟨all, found, parted⟩ := Except.bind_eq_ok split
  obtain rfl := Except.ok.inj parted
  have listed : x ∈ all := by
    rw [List.partition_eq_filter_filter] at mem
    exact mem.elim (fun here => (List.mem_filter.1 here).1) fun there => (List.mem_filter.1 there).1
  obtain ⟨d, -, made⟩ := Except.exists_of_mapM_eq_ok found x listed
  obtain ⟨p, params, made⟩ := Except.bind_eq_ok made
  obtain rfl := Except.ok.inj made
  exact params

theorem serve_only (arrivals : List Arrival) : (h.serve arrivals).Only Action.IsServed :=
  .bind (.note trivial rfl) fun _ => .get_bind fun _ =>
    .bind (Link.Handler.handle_only _ _ _) fun _ => .pure ()

section

variable {allowed : Action → Prop} (served : ∀ a, Action.IsServed a → allowed a)

include served

theorem report_allowed (f : Failure) : (h.report f).Only allowed := by
  refine .bind (.logged served _ _) fun _ => .bind (.call served h.sink _) fun _ => ?_
  split
  · exact .throw f
  · exact .pure _

theorem runEmbedded_allowed {d : Descriptor} {p : Params} (cycle : (Cycle.run h.setting d p).Only allowed) :
    (h.runEmbedded d p).Only allowed := by
  refine .bind (.attempt cycle) fun outcome => ?_
  split
  · exact .merge (served _ trivial)
  · exact .pure ()
  · split
    · exact h.report_allowed served _
    · exact .throw _

theorem list_allowed (plan : Plan) : (h.list plan).Only allowed :=
  .bind (.call served h.sink _) fun _ => .bind (.forM (fun _ => .call served h.sink _) _) fun _ =>
    .call served h.sink _

theorem openPort_allowed (forked : List (Descriptor × Params)) : (h.openPort forked).Only allowed := by
  unfold openPort
  split
  · exact .pure none
  · split
    · exact .throw _
    · exact .bind (.logged served _ _) fun _ => .pure _

variable (launched : ∀ port d warmup, allowed (.launched (.of Link.host port d warmup)))

include launched

theorem fork_allowed (port : UInt16) (d : Descriptor) (warmup : Bool) : (h.fork port d warmup).Only allowed := by
  refine .get_bind fun w => .bind (.note (launched port d warmup) rfl) fun _ => ?_
  split
  · exact .bind (h.report_allowed served _) fun _ => .pure _
  · refine .bind (.forM (fun e => .note (served (.overheard e) trivial) rfl) _) fun _ => ?_
    simp only
    split
    case' h_1 => refine .bind ((h.serve_only _).mono served) fun _ => ?_
    all_goals
      split
      · refine .bind (.logged served _ _) fun _ => .bind (.call served h.sink _) fun _ => ?_
        split
        · exact .throw_bind _ _
        · exact .pure true
      · exact .pure true

theorem warmupFork_allowed (port : UInt16) (d : Descriptor) (p : Params) (i : Nat) :
    (h.warmupFork port d p i).Only allowed :=
  .bind (.logged served _ _) fun _ => .bind (.call served h.sink _) fun _ =>
    .bind (h.fork_allowed served launched port d true) fun _ => .pure ()

theorem measuredFork_allowed (port : UInt16) (d : Descriptor) (p : Params) (i : Nat) :
    (h.measuredFork port d p i).Only allowed := by
  refine .bind (.logged served _ _) fun _ => .bind (.call served h.sink _) fun _ => .get_bind fun before => ?_
  refine .bind (h.fork_allowed served launched port d false) fun ran => .get_bind fun after => ?_
  simp only
  split
  · exact .bind (.logged served _ _) fun _ => .call served h.sink _
  · exact .pure ()

theorem runForked_allowed (port : UInt16) (d : Descriptor) (p : Params) : (h.runForked port d p).Only allowed :=
  .bind (.counted (h.warmupFork_allowed served launched port d p) 1 _) fun _ =>
    .counted (h.measuredFork_allowed served launched port d p) 1 _

omit launched

inductive Plans (d : Descriptor) : Params → Prop where
  | bulk {p} (params : h.registry.paramsFor d h.options = .ok p) : Plans d p.warmupOnly
  | embedded {p} (params : h.registry.paramsFor d h.options = .ok p) : Plans d (h.embeddedParams p)

variable (cycles : ∀ d p, h.Plans d p → (Cycle.run h.setting d p).Only allowed)

include cycles

theorem bulkWarmup_allowed (plan : Plan) : (h.bulkWarmup plan).Only allowed := by
  have warm (d : Descriptor) : (h.warmUp d).Only allowed := .settle_bind fun p params =>
    h.runEmbedded_allowed served (cycles d _ (.bulk params))
  unfold bulkWarmup
  simp only
  split
  · exact .bind (.logged served _ _) fun _ => .forM warm _
  · exact .pure ()

include launched

/-- What is done of a plan is allowed where that is of its cycles and of the starts of its workers. -/
theorem runPlan_allowed (plan : Plan) : (h.runPlan plan).Only allowed := by
  refine .settle_bind fun parts split => .bind (h.openPort_allowed served _) fun port => ?_
  refine .bind (h.bulkWarmup_allowed served cycles plan) fun _ => ?_
  refine .bind (.forM_mem fun x mem => h.runEmbedded_allowed served ?_) fun _ => ?_
  · exact cycles x.1 _ (.embedded (h.paramsFor_of_split split x (.inl mem)))
  · split
    · exact .forM (fun _ => h.runForked_allowed served launched _ _ _) _
    · exact .pure ()

end

theorem runPlan_inner (plan : Plan) : Act.Inner (h.runPlan plan) :=
  h.runPlan_allowed Action.IsServed.inner (fun _ _ _ => trivial)
    (fun _ _ _ => (Cycle.run_only _ _ _).mono Action.IsCycle.inner) plan

/-- The actions at the end of a run with these results, after a plan with this outcome, and what the
run returns. -/
inductive Ending (planned : Except Failure Unit) (results : Store) :
    List Action → Except Failure Store → Prop where
  | refused (f : Failure) : Ending planned results [.told (.runEnd results) (some f)] (.error f)
  | unflushed (f : Failure) :
      Ending planned results [.told (.runEnd results) none, .told (.call .flush) (some f)] (.error f)
  | failed (f : Failure) :
      Ending planned results [.told (.runEnd results) none, .told (.call .flush) none] (.error f)
  | finished :
      Ending planned results [.told (.runEnd results) none, .told (.call .flush) none] (.ok results)
  | written (path text : String) (entry : Log.Entry) (done : planned = .ok ()) :
      Ending planned results
        [.told (.runEnd results) none, .told (.call .flush) none, .wrote path text, .logged entry]
        (.ok results)

namespace Ending

variable {planned : Except Failure Unit} {results : Store} {ending : List Action}
  {outcome : Except Failure Store}

theorem told (h : Ending planned results ending outcome) :
    ∃ after, ending.filterMap Action.event? = .runEnd results :: after ∧
      (after = [] ∨ after = [.call .flush]) := by
  cases h with
  | refused => exact ⟨[], rfl, .inl rfl⟩
  | unflushed | failed | finished | written => exact ⟨[.call .flush], rfl, .inr rfl⟩

theorem merged (h : Ending planned results ending outcome) : ending.filterMap Action.report? = [] := by
  cases h <;> rfl

/-- Nothing is merged at the end. -/
theorem store_eq {w w' : World σ} (h : Ending planned results ending outcome)
    (ends : w.Continued ending w') : w'.store = w.store := by
  rw [ends.store, h.merged, Store.mergeReports_nil]

theorem returned (h : Ending planned results ending outcome) {map : Store} (ok : outcome = .ok map) :
    map = results := by
  cases h with
  | refused | unflushed | failed => contradiction
  | finished | written => exact (Except.ok.inj ok).symm

/-- Results are written only when nothing has failed. -/
theorem wrote (h : Ending planned results ending outcome) {path text : String}
    (wrote : .wrote path text ∈ ending) : planned = .ok () ∧ ∃ entry, ending =
      [.told (.runEnd results) none, .told (.call .flush) none, .wrote path text, .logged entry] := by
  cases h with
  | refused | unflushed | failed | finished => simp at wrote
  | written path' text' entry done =>
    obtain ⟨rfl, rfl⟩ : path = path' ∧ text = text' := by simpa using wrote
    exact ⟨done, entry, rfl⟩

end Ending

/-- Writing the results is noted if it was done, and otherwise nothing is. -/
theorem writeResults_run (path : String) (results : Store) (w : World σ) :
    (∃ f, (h.writeResults path results).run w = (.error f, w)) ∨
    ∃ text entry w', (h.writeResults path results).run w = (.ok (), w') ∧
      w.Continued [.wrote path text, .logged entry] w' := by
  unfold writeResults
  cases made : Report.create h.refused path with
  | error f => exact .inl ⟨f, rfl⟩
  | ok _ =>
    have wrote := World.Continued.note w (a := .wrote path (Report.document h.metadata results).toText) rfl
    exact .inr ⟨_, _, _, rfl, wrote.trans (.log _ .info ("Results written to " ++ path))⟩

def release (planned : Except Failure Unit) (results : Store) : Act σ Store := do
  Act.settle planned
  if let some path := h.options.resultFile then h.writeResults path results
  return results

theorem release_run (planned : Except Failure Unit) (results : Store) (w : World σ) :
    ∃ actions, w.Continued actions ((h.release planned results).run w).2 ∧
      Ending planned results (.told (.runEnd results) none :: .told (.call .flush) none :: actions)
        ((h.release planned results).run w).1 := by
  unfold release
  cases planned with
  | error f => exact ⟨[], .refl w, .failed f⟩
  | ok _ =>
    rw [Act.run_bind_ok (Act.run_settle ..)]
    cases h.options.resultFile with
    | none => exact ⟨[], .refl w, .finished⟩
    | some path =>
      simp only
      rcases h.writeResults_run path results w with ⟨f, failed⟩ | ⟨text, entry, w', wrote, continued⟩
      · rw [Act.run_bind_error failed]
        exact ⟨[], .refl w, .failed f⟩
      · rw [Act.run_bind_ok wrote]
        exact ⟨_, continued, .written path text entry rfl⟩

/-- What comes behind the plan: the run is ended with what was merged, whatever came of the plan. -/
def conclude (planned : Except Failure Unit) : Act σ Store := do
  let results := (← get).store
  Act.tell h.sink (.runEnd results)
  Act.tell h.sink (.call .flush)
  h.release planned results

theorem conclude_run (planned : Except Failure Unit) (w : World σ) :
    ∃ actions, w.Continued actions ((h.conclude planned).run w).2 ∧
      Ending planned w.store actions ((h.conclude planned).run w).1 := by
  rw [conclude, Act.run_get_bind]
  rcases ended : (Act.tell h.sink (.runEnd w.store)).run w with ⟨answer, w₁⟩
  have ends := World.Continued.of_tell ended
  cases answer with
  | error f =>
    rw [Act.run_bind_error ended]
    exact ⟨_, ends, .refused f⟩
  | ok _ =>
    rw [Act.run_bind_ok ended]
    rcases flushed : (Act.tell h.sink (.call .flush)).run w₁ with ⟨answer, w₂⟩
    have flushes := ends.trans (.of_tell flushed)
    cases answer with
    | error f =>
      rw [Act.run_bind_error flushed]
      exact ⟨_, flushes, .unflushed f⟩
    | ok _ =>
      rw [Act.run_bind_ok flushed]
      obtain ⟨actions, released, ending⟩ := h.release_run planned w.store w₂
      exact ⟨_, flushes.trans released, ending⟩

def aborted : Except Failure Unit → List Action
  | .ok _ => []
  | .error f => [.logged ⟨.error, "Run aborted: " ++ f.fullText, none⟩]

/-- The course of a started run, from when it is to start until it returns: what came of the plan, what
was done until its end, and the end. -/
inductive Course (plan : Plan) (w : World σ) (outcome : Except Failure Store) (w' : World σ) : Prop where
  | intro {w₁ w₂ w₃ : World σ} {planned : Except Failure Unit} {inner ending : List Action}
    (started : w.Continued [.told .runStart none] w₁) (ran : (h.runPlan plan).run w₁ = (planned, w₂))
    (continued : w₁.Continued inner w₂) (quiet : ∀ a ∈ inner, a.IsInner)
    (logged : w₂.Continued (aborted planned) w₃) (ends : w₃.Continued ending w')
    (ended : Ending planned w₃.store ending outcome)

/-- Behind a start that the sink has taken comes the plan, and then what concludes the run. A failed plan is logged
in between. -/
theorem runStarted_run {plan : Plan} {w w₁ w₂ : World σ} {planned : Except Failure Unit}
    (started : (Act.tell h.sink .runStart).run w = (.ok (), w₁))
    (ran : (h.runPlan plan).run w₁ = (planned, w₂)) :
    ∃ w₃, w₂.Continued (aborted planned) w₃ ∧
      (h.runStarted plan).run w = (h.conclude planned).run w₃ := by
  have attempted : (Act.attempt (h.runPlan plan)).run w₁ = (.ok planned, w₂) := by
    rw [Act.run_attempt, ran]
  rw [runStarted, Act.run_bind_ok started, Act.run_bind_ok attempted]
  cases planned with
  | ok _ => exact ⟨w₂, .refl w₂, rfl⟩
  | error f =>
    have logs : (Act.log .error ("Run aborted: " ++ f.fullText) >>= fun _ => h.conclude (.error f)).run w₂ = _ :=
      rfl
    obtain ⟨w₃, logged, concludes⟩ := Act.log_bind_run logs
    exact ⟨w₃, logged, concludes.symm⟩

/-- A run that the sink lets start takes its course, whatever fails. -/
theorem runStarted_course {plan : Plan} {w w' : World σ} {outcome : Except Failure Store}
    (ran : (h.runStarted plan).run w = (outcome, w')) :
    (∃ f, w.Continued [.told .runStart (some f)] w') ∨ h.Course plan w outcome w' := by
  rcases started : (Act.tell h.sink .runStart).run w with ⟨answer, w₁⟩
  have starts := World.Continued.of_tell started
  cases answer with
  | error f =>
    rw [runStarted, Act.run_bind_error started] at ran
    cases ran
    exact .inl ⟨f, starts⟩
  | ok _ =>
    rcases planned : (h.runPlan plan).run w₁ with ⟨outcome', w₂⟩
    obtain ⟨inner, continued, all⟩ := h.runPlan_inner plan w₁
    rw [planned] at continued
    obtain ⟨w₃, logged, concludes⟩ := h.runStarted_run started planned
    obtain ⟨ending, concluded, ends⟩ := h.conclude_run outcome' w₃
    rw [← concludes, ran] at concluded ends
    exact .inr ⟨starts, planned, continued, all, logged, concluded, ends⟩

/-- A run takes its course from a start that the sink has taken, or neither starts nor ends. -/
theorem run_course [PatternEngine] {s : σ} {outcome : Except Failure Store} {w : World σ}
    (ran : h.run.run (World.start s) = (outcome, w)) :
    (∃ actions, (World.start s).Continued actions w ∧
      ∀ a ∈ actions, a.IsInner ∨ ∃ f, a = .told .runStart (some f)) ∨
    ∃ plan entry w₀, h.registry.resolve h.options = .ok plan ∧
      (World.start s).Continued [.logged entry] w₀ ∧ h.Course plan w₀ outcome w := by
  have quiet {act : Act σ Store} (inner : Act.Inner act) (ran : act.run (World.start s) = (outcome, w)) :
      ∃ actions, (World.start s).Continued actions w ∧
        ∀ a ∈ actions, a.IsInner ∨ ∃ f, a = .told .runStart (some f) := by
    obtain ⟨actions, continued, all⟩ := inner (World.start s)
    rw [ran] at continued
    exact ⟨actions, continued, fun a ha => .inl (all a ha)⟩
  unfold run at ran
  cases resolved : h.registry.resolve h.options with
  | error f =>
    rw [resolved, Act.run_bind_error (Act.run_settle ..)] at ran
    cases ran
    exact .inl ⟨[], .refl _, by simp⟩
  | ok plan =>
    rw [resolved, Act.run_bind_ok (Act.run_settle ..)] at ran
    split at ran
    · exact .inl (quiet (.bind (h.list_allowed Action.IsServed.inner plan) fun _ => .pure _) ran)
    simp only at ran
    split at ran
    · exact .inl (quiet (.bind (.call Action.IsServed.inner h.sink _) fun _ => .throw_bind _ _) ran)
    obtain ⟨w₀, logged, ran⟩ := Act.log_bind_run ran
    rcases h.runStarted_course ran with ⟨f, refused⟩ | course
    · exact .inl ⟨_, logged.trans refused, by simp [Action.IsInner]⟩
    · exact .inr ⟨plan, _, w₀, rfl, logged, course⟩

namespace Course

variable {h : Harness σ} {s : σ} {entry : Log.Entry} {plan : Plan} {w₀ w : World σ}
  {outcome : Except Failure Store}

theorem continued (course : h.Course plan w₀ outcome w) :
    ∃ actions, w₀.Continued (.told .runStart none :: actions) w := by
  obtain ⟨started, -, continued, -, logged, ends, -⟩ := course
  exact ⟨_, ((started.trans continued).trans logged).trans ends⟩

/-- A started run tells its end once, with what the store holds then and from there on. -/
theorem ended (logged : (World.start s).Continued [.logged entry] w₀)
    (course : h.Course plan w₀ outcome w) :
    ∃ before after, w.told = before ++ .runEnd w.store :: after ∧
      (∀ results, .runEnd results ∉ before) ∧ (after = [] ∨ after = [.call .flush]) ∧
      ∀ map, outcome = .ok map → map = w.store := by
  cases course with
  | @intro w₁ w₂ w₃ planned inner ending started _ continued quiet abort ends ended =>
    obtain ⟨-, told, -⟩ := ((((logged.trans started).trans continued).trans abort).trans ends).of_start
    obtain ⟨after, end_told, flushed⟩ := ended.told
    have untold : (aborted planned).filterMap Action.event? = [] := by cases planned <;> rfl
    rw [List.filterMap_append, List.filterMap_append, List.filterMap_append, end_told, untold,
      List.append_nil] at told
    rw [ended.store_eq ends]
    refine ⟨_, after, told, fun map mem => ?_, flushed, fun map => ended.returned⟩
    rcases List.mem_append.1 mem with start | mem
    · simp [Action.event?] at start
    · obtain ⟨a, ha, event⟩ := List.mem_filterMap.1 mem
      obtain ⟨c, call⟩ := (quiet a ha).told_call event
      contradiction

/-- Results are written only if all of the plan was done, and then the sink has taken the end. -/
theorem wrote (logged : (World.start s).Continued [.logged entry] w₀)
    (course : h.Course plan w₀ outcome w) {path text : String} (wrote : .wrote path text ∈ w.trace.toList) :
    ∃ w₁ w₂ last, (World.start s).Continued [.logged entry, .told .runStart none] w₁ ∧
      (h.runPlan plan).run w₁ = (.ok (), w₂) ∧
      w₂.Continued [.told (.runEnd w.store) none, .told (.call .flush) none, .wrote path text,
        .logged last] w := by
  cases course with
  | @intro w₁ w₂ w₃ planned inner ending started ran continued quiet abort ends ended =>
    have starts := logged.trans started
    rw [(((starts.trans continued).trans abort).trans ends).of_start.1] at wrote
    have late : .wrote path text ∈ ending := by
      rcases List.mem_append.1 wrote with before | late
      · rcases List.mem_append.1 before with before | logs
        · rcases List.mem_append.1 before with start | within
          · simp at start
          · exact (quiet _ within).elim
        · cases planned <;> simp [aborted] at logs
      · exact late
    obtain ⟨rfl, last, rfl⟩ := ended.wrote late
    have store := ended.store_eq ends
    exact ⟨_, _, last, starts, ran, store ▸ abort.trans ends⟩

end Course

/-- A run whose start the sink has taken is ended once, whatever fails, with everything that was
merged; behind its end there is at most one flush, and what the run returns is what it was ended
with. A run that was not started is not ended. The results are written to a file only if the whole
plan was done and the sink has taken the end and the flush. -/
theorem run_ended [PatternEngine] (s : σ) {outcome : Except Failure Store} {w : World σ}
    (ran : h.run.run (World.start s) = (outcome, w)) :
    (.told .runStart none ∈ w.trace.toList →
      ∃ before after, w.told = before ++ .runEnd w.store :: after ∧
        (∀ results, .runEnd results ∉ before) ∧ (after = [] ∨ after = [.call .flush]) ∧
        ∀ map, outcome = .ok map → map = w.store) ∧
    (.told .runStart none ∉ w.trace.toList → ∀ results, .runEnd results ∉ w.told) ∧
    w.store = Store.empty.mergeReports w.merged ∧
    (∀ d, w.store.get? d = Run.mergeAll (runsOf d w.merged)) ∧
    ∀ path text, .wrote path text ∈ w.trace.toList →
      ∃ plan w₁ w₂ first last, h.registry.resolve h.options = .ok plan ∧
        (World.start s).Continued [.logged first, .told .runStart none] w₁ ∧
        (h.runPlan plan).run w₁ = (.ok (), w₂) ∧
        w₂.Continued [.told (.runEnd w.store) none, .told (.call .flush) none, .wrote path text,
          .logged last] w := by
  have contents (store : w.store = Store.empty.mergeReports w.merged) (d : Descriptor) :
      w.store.get? d = Run.mergeAll (runsOf d w.merged) := by rw [store, Store.get?_mergeReports_empty]
  rcases h.run_course ran with ⟨actions, continued, quiet⟩ | ⟨plan, entry, w₀, resolved, logged, course⟩
  · obtain ⟨trace, told, merged⟩ := continued.of_start
    rw [trace, told]
    refine ⟨fun started => ?_, fun _ results ended => ?_, merged, contents merged, fun path text wrote => ?_⟩
    · rcases quiet _ started with inner | ⟨f, refused⟩
      · contradiction
      · simp at refused
    · obtain ⟨a, ha, event⟩ := List.mem_filterMap.1 ended
      rcases quiet a ha with inner | ⟨f, rfl⟩
      · obtain ⟨c, call⟩ := inner.told_call event
        contradiction
      · simp [Action.event?] at event
    · rcases quiet _ wrote with inner | ⟨f, refused⟩ <;> contradiction
  · obtain ⟨actions, continued⟩ := course.continued
    obtain ⟨trace, -, merged⟩ := (logged.trans continued).of_start
    refine ⟨fun _ => course.ended logged, fun unstarted => ?_, merged, contents merged, fun path text wrote => ?_⟩
    · simp [trace] at unstarted
    · obtain ⟨w₁, w₂, last, starts, planned, ends⟩ := course.wrote logged wrote
      exact ⟨plan, w₁, w₂, entry, last, resolved, starts, planned, ends⟩

/-- A harness of two benchmarks, the second of which cannot be measured, that stops at failures. -/
def stopping : Harness (Array Event) where
  registry := ⟨(∅ : Std.ExtTreeMap String Definition).insertMany
    [("copy", { name := "copy", workload := fun _ => .done }),
      ("parse", { name := "parse", workload := fun _ => .done })]⟩
  options :=
    { warmup := ⟨0, .ofSeconds 1⟩, measurement := ⟨1, .ofSeconds 1⟩, forks := some 0,
      failOnError := true, resultFile := some "results.json" }
  sink := Sink.recording
  executor d _ kind index :=
    if d.name = "parse" then .failed (.other "boom")
    else .sample
      { index, kind
        elapsed := 7
        primary := ⟨"copy", .seconds, .throughput 3 7⟩
        secondary := ∅
        rawPrimary := [⟨"copy", .seconds, .throughput 3 7⟩]
        rawSecondary := ∅ }
  launcher _ _ := Launch.unresolvable
  listen := .ok 4000
  metadata := ⟨⟨0⟩, ⟨0, 0⟩, ⟨0, 0⟩, ⟨"linux", "x86_64", 1, none, "stable"⟩⟩
  refused _ := none

attribute [local instance] PatternEngine.plain

/-- The second benchmark stops the run, which is ended with the results of the first. -/
theorem run_ended_of_stopping :
    ∃ w, stopping.run.run (World.start #[]) =
        (.error (.benchmarkFailed ⟨"parse", .throughput, 1⟩ "boom"), w) ∧
      .told .runStart none ∈ w.trace.toList ∧ w.merged.length = 1 ∧
      w.store = Store.empty.mergeReports w.merged ∧
      ∃ before after, w.told = before ++ .runEnd w.store :: after ∧
        (∀ results, .runEnd results ∉ before) ∧ (after = [] ∨ after = [.call .flush]) := by
  obtain ⟨w, ran, started, merged⟩ : ∃ w, stopping.run.run (World.start #[]) =
      (.error (.benchmarkFailed ⟨"parse", .throughput, 1⟩ "boom"), w) ∧
      .told .runStart none ∈ w.trace.toList ∧ w.merged.length = 1 :=
    ⟨_, rfl, .tail _ (.head _), rfl⟩
  obtain ⟨ended, -, store, -⟩ := run_ended stopping #[] ran
  obtain ⟨before, after, told, once, flushed, -⟩ := ended started
  exact ⟨w, ran, started, merged, store, before, after, told, once, flushed⟩

end Harness

end Microbench
