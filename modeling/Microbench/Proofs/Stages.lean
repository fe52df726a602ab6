import Microbench.Cycle
import Microbench.Proofs.Conservation
import Microbench.Proofs.Effect

/-!
The stages of a cycle. Which calls and executions a cycle plans does not depend on what fails (`Cycle.stages`); a
cycle goes through them in order, up to the first that the sink refuses or the executor fails in, and that failure
is then its outcome (`Cycle.run_goesThrough`).
-/

namespace Microbench

/-- A call on the sink or an execution, as a cycle plans it. -/
inductive Stage where
  | benchmarkStart
  | iterationStart (kind : IterationKind) (index : UInt32)
  | execution (kind : IterationKind) (index : UInt32)
  | iterationEnd (kind : IterationKind) (index : UInt32)
  | details (index : UInt32)
  | benchmarkEnd
  deriving DecidableEq, Repr

namespace Stage

def iteration (detailed : Bool) (kind : IterationKind) (index : UInt32) : List Stage :=
  [iterationStart kind index, execution kind index, iterationEnd kind index] ++
    if detailed && kind = .measurement then [details index] else []

def iterations (detailed : Bool) (kind : IterationKind) (first n : Nat) : List Stage :=
  (List.range' first n).flatMap fun i => iteration detailed kind (UInt32.ofNat i)

end Stage

def Cycle.stages (detailed : Bool) (p : Params) : List Stage :=
  [.benchmarkStart] ++ (Stage.iterations detailed .warmup 1 p.warmup.count.toNat ++
    (Stage.iterations detailed .measurement 1 p.measurement.count.toNat ++ [.benchmarkEnd]))

def Executor.samples (executor : Executor) (d : Descriptor) (p : Params) (kind : IterationKind) (first n : Nat) :
    List Sample :=
  (List.range' first n).filterMap fun i =>
    match executor d p kind (UInt32.ofNat i) with
    | .sample sample => some sample
    | _ => none

inductive Stage.Tells (executor : Executor) (d : Descriptor) (p : Params) : Stage → Call → Prop where
  | benchmarkStart : Tells executor d p .benchmarkStart (.benchmarkStart d p)
  | iterationStart {kind index} : Tells executor d p (.iterationStart kind index) (.iterationStart d p index kind)
  | iterationEnd {kind index sample} (made : executor d p kind index = .sample sample) :
    Tells executor d p (.iterationEnd kind index) (.iterationEnd d p index kind sample)
  | details {index sample} (made : executor d p .measurement index = .sample sample) :
    Tells executor d p (.details index) (.detailedResults d index sample)
  | benchmarkEnd : Tells executor d p .benchmarkEnd (.benchmarkEnd d
      (Run.ofSamples (executor.samples d p .measurement 1 p.measurement.count.toNat)))

variable {σ α β : Type} (s : Setting σ) (d : Descriptor) (p : Params)

namespace Stage

inductive Succeeds : Stage → σ → Action → σ → Prop where
  | taken {stage c t t'} (tells : stage.Tells s.executor d p c) (taken : s.sink (.call c) t = (.ok (), t')) :
    Succeeds stage t (.told (.call c) none) t'
  | executed {kind index sample t} (made : s.executor d p kind index = .sample sample) :
    Succeeds (.execution kind index) t (.executed d p kind index) t

/-- A stage that fails: the sink refuses the call with an error of its own, or the execution fails. -/
inductive Fails : Stage → σ → Action → Failure → σ → Prop where
  | refused {stage c t f t'} (tells : stage.Tells s.executor d p c) (refused : s.sink (.call c) t = (.error f, t')) :
    Fails stage t (.told (.call c) (some f)) f t'
  | failed {kind index f t} (failed : s.executor d p kind index = .failed f) :
    Fails (.execution kind index) t (.executed d p kind index) (.benchmarkFailed d f.fullText) t
  | panicked {kind index t} (panicked : s.executor d p kind index = .panicked) :
    Fails (.execution kind index) t (.executed d p kind index) .taskPanicked t

inductive AllSucceed : List Stage → σ → List Action → σ → Prop where
  | nil {t} : AllSucceed [] t [] t
  | cons {stage stages t a t' actions t''} (first : stage.Succeeds s d p t a t')
    (rest : AllSucceed stages t' actions t'') : AllSucceed (stage :: stages) t (a :: actions) t''

/-- Stages of which one fails. Those before it go well, and those behind it are not begun. -/
inductive OneFails : List Stage → σ → List Action → Failure → σ → Prop where
  | at {before stage t actions t' a f t''} (behind : List Stage) (well : AllSucceed s d p before t actions t')
    (failed : stage.Fails s d p t' a f t'') : OneFails (before ++ stage :: behind) t (actions ++ [a]) f t''

variable {s d p}

theorem AllSucceed.append {xs ys : List Stage} {t t' t'' : σ} {as bs : List Action}
    (first : AllSucceed s d p xs t as t') (second : AllSucceed s d p ys t' bs t'') :
    AllSucceed s d p (xs ++ ys) t (as ++ bs) t'' := by
  induction first with
  | nil => exact second
  | cons stage _ ih => exact .cons stage (ih second)

/-- The last of several stages is the last action. -/
theorem AllSucceed.getLast?_eq {xs : List Stage} {x : Stage} {t t'' : σ} {as : List Action}
    (well : AllSucceed s d p (xs ++ [x]) t as t'') : ∃ t' a, as.getLast? = some a ∧ x.Succeeds s d p t' a t'' := by
  induction xs generalizing t as with
  | nil =>
    obtain _ | ⟨first, _ | _⟩ := well
    exact ⟨_, _, rfl, first⟩
  | cons y xs ih =>
    obtain _ | ⟨_, rest⟩ := well
    obtain ⟨t', a, last, succeeds⟩ := ih rest
    exact ⟨t', a, by simp [List.getLast?_cons, last], succeeds⟩

theorem OneFails.append {xs : List Stage} {t t' : σ} {as : List Action} {f : Failure}
    (fails : OneFails s d p xs t as f t') (ys : List Stage) : OneFails s d p (xs ++ ys) t as f t' := by
  obtain ⟨behind, well, failed⟩ := fails
  rw [List.append_assoc]
  exact .at (behind ++ ys) well failed

theorem OneFails.after {xs ys : List Stage} {t t' t'' : σ} {as bs : List Action} {f : Failure}
    (first : AllSucceed s d p xs t as t') (fails : OneFails s d p ys t' bs f t'') :
    OneFails s d p (xs ++ ys) t (as ++ bs) f t'' := by
  obtain ⟨behind, well, failed⟩ := fails
  rw [← List.append_assoc, ← List.append_assoc]
  exact .at behind (first.append well) failed

end Stage

/-- From every world, the act goes through the stages: all of them succeed, or the first that fails ends it. -/
def Act.GoesThrough (act : Act σ α) (stages : List Stage) (returns : α → Prop) : Prop :=
  ∀ w, ∃ actions, w.Continued actions (act.run w).2 ∧
    ((∃ x, (act.run w).1 = .ok x ∧ returns x ∧ Stage.AllSucceed s d p stages w.sink actions (act.run w).2.sink) ∨
      ∃ f, (act.run w).1 = .error f ∧ Stage.OneFails s d p stages w.sink actions f (act.run w).2.sink)

namespace Act.GoesThrough

variable {s d p} {stages stages' : List Stage} {returns : α → Prop} {returns' : β → Prop}

theorem pure {x : α} (h : returns x) : GoesThrough s d p (Pure.pure x) [] returns :=
  fun w => ⟨[], .refl w, .inl ⟨x, rfl, h, .nil⟩⟩

theorem bind {act : Act σ α} {f : α → Act σ β} (first : GoesThrough s d p act stages returns)
    (second : ∀ x, returns x → GoesThrough s d p (f x) stages' returns') :
    GoesThrough s d p (act >>= f) (stages ++ stages') returns' := by
  intro w
  obtain ⟨actions, continued, came⟩ := first w
  rcases ran : act.run w with ⟨outcome, w'⟩
  rw [ran] at continued came
  rcases came with ⟨x, rfl, good, well⟩ | ⟨e, rfl, failed⟩
  · rw [run_bind_ok ran]
    obtain ⟨actions', continued', came⟩ := second x good w'
    refine ⟨actions ++ actions', continued.trans continued', ?_⟩
    rcases came with ⟨y, returned, good', well'⟩ | ⟨e, returned, failed⟩
    · exact .inl ⟨y, returned, good', well.append well'⟩
    · exact .inr ⟨e, returned, .after well failed⟩
  · rw [run_bind_error ran]
    exact ⟨actions, continued, .inr ⟨e, rfl, failed.append stages'⟩⟩

theorem tell {stage : Stage} {c : Call} (tells : stage.Tells s.executor d p c) :
    GoesThrough s d p (Act.tell s.sink (.call c)) [stage] fun _ => True := by
  intro w
  rcases told : (Act.tell s.sink (.call c)).run w with ⟨answer, w'⟩
  have asked : s.sink (.call c) w.sink = (answer, w'.sink) := by
    have answered := congrArg (fun ran => (ran.1, ran.2.sink)) told
    exact answered
  refine ⟨[.told (.call c) (refusal? answer)], .of_tell told, ?_⟩
  cases answer with
  | ok x => exact .inl ⟨x, rfl, trivial, .cons (.taken tells asked) .nil⟩
  | error f => exact .inr ⟨f, rfl, .at [] .nil (.refused tells asked)⟩

end Act.GoesThrough

namespace Cycle

open Act Stage

variable {s d p}

theorem execute_goesThrough (kind : IterationKind) (index : UInt32) :
    GoesThrough s d p (execute s.executor d p kind index) [.execution kind index]
      fun sample => s.executor d p kind index = .sample sample := by
  intro w
  obtain ⟨w', noted, same, runs⟩ : ∃ w', w.Continued [.executed d p kind index] w' ∧ w'.sink = w.sink ∧
      ∀ act : Act σ Sample, (Act.note (.executed d p kind index) >>= fun _ => act).run w = act.run w' :=
    ⟨_, .note w rfl, rfl, fun _ => rfl⟩
  unfold execute
  rw [runs]
  cases made : s.executor d p kind index with
  | sample sample => exact ⟨_, noted, .inl ⟨sample, rfl, rfl, same ▸ .cons (.executed made) .nil⟩⟩
  | failed f => exact ⟨_, noted, .inr ⟨_, rfl, same ▸ .at [] .nil (.failed made)⟩⟩
  | panicked => exact ⟨_, noted, .inr ⟨_, rfl, same ▸ .at [] .nil (.panicked made)⟩⟩

theorem iteration_goesThrough (kind : IterationKind) (index : UInt32) :
    GoesThrough s d p (iteration s d p kind index) (Stage.iteration s.detailed kind index)
      fun sample => s.executor d p kind index = .sample sample := by
  change GoesThrough s d p _ ([.iterationStart kind index] ++
    ([.execution kind index] ++ ([.iterationEnd kind index] ++ _))) _
  refine (GoesThrough.tell .iterationStart).bind fun _ _ => ?_
  refine (execute_goesThrough kind index).bind fun sample made => ?_
  refine (GoesThrough.tell (.iterationEnd made)).bind fun _ _ => ?_
  by_cases detailed : s.detailed && kind = .measurement
  · have measured : kind = .measurement := by simpa using (Bool.and_eq_true_iff.1 detailed).2
    subst measured
    rw [if_pos detailed, if_pos detailed]
    change GoesThrough s d p _ ([.details index] ++ []) _
    exact (GoesThrough.tell (.details made)).bind fun _ _ => .pure made
  · rw [if_neg detailed, if_neg detailed]
    exact .pure made

/-- Iterations that succeed return one sample each. -/
theorem iterations_goesThrough (kind : IterationKind) (first n : Nat) :
    GoesThrough s d p (iterations s d p kind first n) (Stage.iterations s.detailed kind first n)
      fun samples => samples = s.executor.samples d p kind first n ∧ samples.length = n := by
  induction n generalizing first with
  | zero => exact .pure ⟨rfl, rfl⟩
  | succ n ih =>
    have planned : Stage.iterations s.detailed kind first (n + 1) =
        Stage.iteration s.detailed kind (UInt32.ofNat first) ++
          (Stage.iterations s.detailed kind (first + 1) n ++ []) := by
      simp [Stage.iterations, List.range'_succ]
    rw [planned]
    refine (iteration_goesThrough kind _).bind fun sample made => ?_
    refine (ih (first + 1)).bind fun more ⟨others, length⟩ => .pure ⟨?_, by rw [List.length_cons, length]⟩
    simp [Executor.samples, List.range'_succ, made, others]

theorem run_goesThrough :
    GoesThrough s d p (run s d p) (stages s.detailed p) fun result =>
      let samples := s.executor.samples d p .measurement 1 p.measurement.count.toNat
      result = Run.ofSamples samples ∧ samples.length = p.measurement.count.toNat := by
  refine (GoesThrough.tell .benchmarkStart).bind fun _ _ => ?_
  refine (iterations_goesThrough .warmup 1 _).bind fun _ _ => ?_
  refine (iterations_goesThrough .measurement 1 _).bind fun samples ⟨made, length⟩ => ?_
  subst made
  change GoesThrough s d p _ ([.benchmarkEnd] ++ []) _
  exact (GoesThrough.tell .benchmarkEnd).bind fun _ _ => .pure ⟨rfl, length⟩

theorem kind_of_mem_samples {executor : Executor}
    (tagged : ∀ kind index sample, executor d p kind index = .sample sample → sample.kind = kind)
    {kind : IterationKind} {first n : Nat} : ∀ sample ∈ executor.samples d p kind first n, sample.kind = kind := by
  intro sample mem
  obtain ⟨i, -, made⟩ := List.mem_filterMap.1 mem
  split at made
  · rename_i made'
    obtain rfl := Option.some.inj made
    exact tagged _ _ _ made'
  · contradiction

/-- Whatever the executor and the sink do, a cycle does what it plans in order: everything, and then it returns the
result that it has told last, or up to the first thing that fails, and then it returns that failure. Where samples
are of the kind that was asked for, the result is missing only if nothing was to be measured. -/
theorem run_stages (w : World σ) : ∃ actions, w.Continued actions ((run s d p).run w).2 ∧
    ((∃ result, ((run s d p).run w).1 = .ok result ∧
        Stage.AllSucceed s d p (stages s.detailed p) w.sink actions ((run s d p).run w).2.sink ∧
        actions.getLast? = some (.told (.call (.benchmarkEnd d result)) none)) ∨
      ∃ f, ((run s d p).run w).1 = .error f ∧
        Stage.OneFails s d p (stages s.detailed p) w.sink actions f ((run s d p).run w).2.sink) ∧
    ((∀ kind index sample, s.executor d p kind index = .sample sample → sample.kind = kind) →
      ∀ result, ((run s d p).run w).1 = .ok result → (result = none ↔ p.measurement.count = 0)) := by
  obtain ⟨actions, continued, came⟩ := run_goesThrough (s := s) (d := d) (p := p) w
  refine ⟨actions, continued, ?_, fun tagged result returned => ?_⟩
  · rcases came with ⟨result, returned, ⟨rfl, -⟩, well⟩ | failed
    · refine .inl ⟨_, returned, well, ?_⟩
      rw [stages, ← List.append_assoc, ← List.append_assoc] at well
      obtain ⟨t, a, last, ended⟩ := well.getLast?_eq
      obtain ⟨⟨⟩, -⟩ := ended
      exact last
    · exact .inr failed
  · rcases came with ⟨x, returned', ⟨rfl, length⟩, -⟩ | ⟨f, failed, -⟩
    · obtain rfl := Except.ok.inj (returned'.symm.trans returned)
      rw [← Option.not_isSome_iff_eq_none, Run.isSome_ofSamples (kind_of_mem_samples tagged), not_not,
        ← List.length_eq_zero_iff, length]
      exact UInt32.toNat_inj (b := 0)
    · rw [failed] at returned
      contradiction

def noop : Descriptor := ⟨"noop", .throughput, 1⟩

def thrice : Params := ⟨⟨1, .ofSeconds 1⟩, ⟨2, .ofSeconds 1⟩, 1, true, .seconds, 0, 0⟩

def counting : Executor := fun d _ kind index =>
  .sample ⟨index, kind, 7, ⟨d.name, .seconds, .throughput 3 7⟩, ∅, [], ∅⟩

def roomFor (n : Nat) : Sink Nat := fun _ taken =>
  if taken < n then (.ok (), taken + 1) else (.error (.other "disk full"), taken)

/-- With room for all ten calls there is a result, and there is none where only the last of them finds no room. -/
theorem run_stages_of_roomFor :
    (∃ result, ((run ⟨roomFor 10, counting, true⟩ noop thrice).run (World.start 0)).1 = .ok result ∧ result ≠ none) ∧
    ∃ actions t, actions.length = 13 ∧ Stage.OneFails ⟨roomFor 9, counting, true⟩ noop thrice (stages true thrice)
      0 actions (.other "disk full") t := by
  constructor
  · obtain ⟨-, -, -, missing⟩ := run_stages (s := ⟨roomFor 10, counting, true⟩) (d := noop) (p := thrice) (.start 0)
    have tagged (kind : IterationKind) (index : UInt32) (sample : Sample)
        (made : counting noop thrice kind index = .sample sample) : sample.kind = kind := by
      obtain rfl := Execution.sample.inj made
      rfl
    exact ⟨_, rfl, fun none => absurd ((missing tagged _ rfl).1 none) (by decide)⟩
  · obtain ⟨actions, continued, came, -⟩ :=
      run_stages (s := ⟨roomFor 9, counting, true⟩) (d := noop) (p := thrice) (.start 0)
    rcases came with ⟨result, returned, -⟩ | ⟨f, failed, one⟩
    · contradiction
    · have refused : f = .other "disk full" := (Except.error.inj failed).symm
      have size : (((run ⟨roomFor 9, counting, true⟩ noop thrice).run (.start 0)).2.trace).toList.length = 13 := rfl
      rw [continued.trace] at size
      exact ⟨actions, _, size, refused ▸ one⟩

end Cycle

end Microbench
