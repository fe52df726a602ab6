import Microbench.Cycle
import Microbench.Proofs.Effect

/-!
What a cycle does, apart from the sink that is told of it. The script of a cycle lists what is done
up to the first failure of the executor; running the cycle plays its script (`Cycle.run_eq_play`),
so every sink that takes what it is told is told the same.
-/

namespace Microbench

inductive Deed where
  | tell (call : Call)
  | execute (kind : IterationKind) (index : UInt32)
  deriving DecidableEq

/-- Deeds in order, and what comes of them. -/
structure Script (α : Type) where
  deeds : List Deed
  outcome : Except Failure α

def Deed.call? : Deed → Option Call
  | tell c => some c
  | execute .. => none

def Deed.act {σ : Type} (sink : Sink σ) (d : Descriptor) (p : Params) : Deed → Act σ Unit
  | tell c => Act.tell sink (.call c)
  | execute kind index => Act.note (.executed d p kind index)

namespace Script

variable {σ α β : Type}

/-- One script behind another; nothing is done behind a failure. -/
def andThen (s : Script α) (f : α → Script β) : Script β :=
  match s.outcome with
  | .ok x => ⟨s.deeds ++ (f x).deeds, (f x).outcome⟩
  | .error e => ⟨s.deeds, .error e⟩

def tell (c : Call) : Script Unit := ⟨[.tell c], .ok ()⟩

def done (x : α) : Script α := ⟨[], .ok x⟩

def calls (s : Script α) : List Call := s.deeds.filterMap Deed.call?

def exceptions (s : Script α) : List Call :=
  match s.outcome with
  | .error (.benchmarkFailed d reason) => [.exception (Failure.benchmarkFailed d reason).message]
  | _ => []

def reports (s : Script (Option Run)) (d : Descriptor) : List (Descriptor × Run) :=
  match s.outcome with
  | .ok (some run) => [(d, run)]
  | _ => []

def play (sink : Sink σ) (d : Descriptor) (p : Params) (s : Script α) : Act σ α := do
  s.deeds.forM (Deed.act sink d p)
  Act.settle s.outcome

theorem settle_bind (outcome : Except Failure α) (f : α → Act σ β) :
    Act.settle outcome >>= f = match outcome with
      | .ok x => f x
      | .error e => Act.settle (.error e) := by
  cases outcome <;> rfl

theorem play_andThen (sink : Sink σ) (d : Descriptor) (p : Params) (s : Script α) (f : α → Script β) :
    (s.andThen f).play sink d p = s.play sink d p >>= fun x => (f x).play sink d p := by
  unfold andThen play
  rw [bind_assoc]
  cases s.outcome with
  | ok x => simp only [List.forM_eq_forM, List.forM_append, bind_assoc, settle_bind]
  | error e => simp only [settle_bind]

theorem play_tell (sink : Sink σ) (d : Descriptor) (p : Params) (c : Call) :
    (tell c).play sink d p = Act.tell sink (.call c) := by
  have ends : Act.settle (.ok ()) = (pure () : Act σ Unit) := rfl
  simp [play, tell, Deed.act, ends]

theorem play_done (sink : Sink σ) (d : Descriptor) (p : Params) (x : α) :
    (done x).play sink d p = pure x := by
  rw [play]
  rfl

theorem fails_of_andThen {s : Script α} {f : α → Script β} {e : Failure}
    (h : (s.andThen f).outcome = .error e) :
    s.outcome = .error e ∨ ∃ x, (f x).outcome = .error e := by
  unfold andThen at h
  cases outcome : s.outcome with
  | ok x => exact .inr ⟨x, by simpa [outcome] using h⟩
  | error e' => exact .inl (by simpa [outcome] using h)

theorem ok_of_andThen {s : Script α} {f : α → Script β} {y : β} (h : (s.andThen f).outcome = .ok y) :
    ∃ x, s.outcome = .ok x ∧ (f x).outcome = .ok y ∧ (f x).calls <:+ (s.andThen f).calls := by
  unfold andThen at h ⊢
  cases outcome : s.outcome with
  | ok x => exact ⟨x, rfl, by simpa [outcome] using h, s.calls, List.filterMap_append.symm⟩
  | error e => simp [outcome] at h

/-- A sink that takes all calls of a script is told them, and nothing else is done to it. -/
theorem play_does {sink : Sink σ} {s : Script α} (takes : ∀ c ∈ s.calls, sink.Takes (.call c))
    (d : Descriptor) (p : Params) :
    Act.Does sink (s.play sink d p) s.outcome (s.calls.map .call) [] := by
  obtain ⟨deeds, outcome⟩ := s
  induction deeds with
  | nil => exact .settle outcome
  | cons deed deeds ih =>
    have step : (Script.mk (deed :: deeds) outcome).play sink d p =
        deed.act sink d p >>= fun _ => (Script.mk deeds outcome).play sink d p := by
      simp [play]
    rw [step]
    cases deed with
    | tell c =>
      have takes_rest : ∀ c ∈ (Script.mk deeds outcome).calls, sink.Takes (.call c) :=
        fun c hc => takes c (List.mem_cons_of_mem _ hc)
      exact (Act.Does.tell (takes c List.mem_cons_self)).bind (ih takes_rest)
    | execute kind index => exact (Act.Does.note rfl rfl).bind (ih takes)

end Script

namespace Cycle

variable {σ : Type} (executor : Executor) (detailed : Bool) (d : Descriptor) (p : Params)

def executeScript (kind : IterationKind) (index : UInt32) : Script Sample where
  deeds := [.execute kind index]
  outcome := match executor d p kind index with
    | .sample s => .ok s
    | .failed f => .error (.benchmarkFailed d f.fullText)
    | .panicked => .error .taskPanicked

def iterationScript (kind : IterationKind) (index : UInt32) : Script Sample :=
  (Script.tell (.iterationStart d p index kind)).andThen fun _ =>
  (executeScript executor d p kind index).andThen fun sample =>
  (Script.tell (.iterationEnd d p index kind sample)).andThen fun _ =>
  (if detailed && kind = .measurement then Script.tell (.detailedResults d index sample)
    else .done ()).andThen fun _ =>
  .done sample

def iterationsScript (kind : IterationKind) (first : Nat) : Nat → Script (List Sample)
  | 0 => .done []
  | n + 1 =>
    (iterationScript executor detailed d p kind (UInt32.ofNat first)).andThen fun sample =>
    (iterationsScript kind (first + 1) n).andThen fun more =>
    .done (sample :: more)

/-- All that a cycle does, whatever its sink. -/
def script : Script (Option Run) :=
  (Script.tell (.benchmarkStart d p)).andThen fun _ =>
  (iterationsScript executor detailed d p .warmup 1 p.warmup.count.toNat).andThen fun _ =>
  (iterationsScript executor detailed d p .measurement 1 p.measurement.count.toNat).andThen
    fun samples =>
  (Script.tell (.benchmarkEnd d (Run.ofSamples samples))).andThen fun _ =>
  .done (Run.ofSamples samples)

/-- A script depends on what the executor does with its own descriptor and parameters. -/
theorem script_congr {executor' : Executor} (same : executor' d p = executor d p) :
    script executor' detailed d p = script executor detailed d p := by
  have iterations (kind : IterationKind) (first n : Nat) :
      iterationsScript executor' detailed d p kind first n =
        iterationsScript executor detailed d p kind first n := by
    induction n generalizing first with
    | zero => rfl
    | succ n ih => simp only [iterationsScript, iterationScript, executeScript, same, ih]
  simp only [script, iterations]

variable (s : Setting σ)

theorem execute_eq_play (kind : IterationKind) (index : UInt32) :
    execute executor d p kind index = (executeScript executor d p kind index).play s.sink d p := by
  unfold execute executeScript Script.play
  cases executor d p kind index <;> rfl

theorem iteration_eq_play (kind : IterationKind) (index : UInt32) :
    iteration s d p kind index =
      (iterationScript s.executor s.detailed d p kind index).play s.sink d p := by
  unfold iteration iterationScript
  simp only [Script.play_andThen, Script.play_tell, Script.play_done, ← execute_eq_play]
  by_cases told : (s.detailed && kind = .measurement) = true
  · simp [told, Script.play_tell]
  · simp [told, Script.play_done]

theorem iterations_eq_play (kind : IterationKind) (first n : Nat) :
    iterations s d p kind first n =
      (iterationsScript s.executor s.detailed d p kind first n).play s.sink d p := by
  induction n generalizing first with
  | zero => rfl
  | succ n ih =>
    rw [iterations, iterationsScript]
    simp only [Script.play_andThen, Script.play_done, iteration_eq_play, ih]

theorem run_eq_play : run s d p = (script s.executor s.detailed d p).play s.sink d p := by
  unfold run script
  simp only [Script.play_andThen, Script.play_tell, Script.play_done, iterations_eq_play]

/-- Every sink that takes them is told the calls of the script. -/
theorem run_does {sink : Sink σ} {script : Script (Option Run)}
    (is_script : script = Cycle.script executor detailed d p)
    (takes : ∀ c ∈ script.calls, sink.Takes (.call c)) :
    Act.Does sink (run ⟨sink, executor, detailed⟩ d p) script.outcome (script.calls.map .call) [] := by
  rw [run_eq_play, ← is_script]
  exact Script.play_does takes d p

def Fails (d : Descriptor) (e : Failure) : Prop :=
  (∃ reason, e = .benchmarkFailed d reason) ∨ e = .taskPanicked

variable {executor detailed d p}

theorem execute_fails {kind : IterationKind} {index : UInt32} {e : Failure}
    (h : (executeScript executor d p kind index).outcome = .error e) : Fails d e := by
  unfold executeScript at h
  cases execution : executor d p kind index with
  | sample s => simp [execution] at h
  | failed f =>
    simp only [execution, Except.error.injEq] at h
    exact .inl ⟨_, h.symm⟩
  | panicked =>
    simp only [execution, Except.error.injEq] at h
    exact .inr h.symm

theorem iteration_fails {kind : IterationKind} {index : UInt32} {e : Failure}
    (h : (iterationScript executor detailed d p kind index).outcome = .error e) : Fails d e := by
  rcases Script.fails_of_andThen h with told | ⟨_, h⟩
  · contradiction
  rcases Script.fails_of_andThen h with executed | ⟨_, h⟩
  · exact execute_fails executed
  rcases Script.fails_of_andThen h with told | ⟨_, h⟩
  · contradiction
  rcases Script.fails_of_andThen h with told | ⟨_, h⟩
  · split at told <;> contradiction
  · contradiction

theorem iterations_fails {kind : IterationKind} {first n : Nat} {e : Failure}
    (h : (iterationsScript executor detailed d p kind first n).outcome = .error e) : Fails d e := by
  induction n generalizing first with
  | zero => contradiction
  | succ n ih =>
    rcases Script.fails_of_andThen h with failed | ⟨_, h⟩
    · exact iteration_fails failed
    rcases Script.fails_of_andThen h with failed | ⟨_, h⟩
    · exact ih failed
    · contradiction

/-- A cycle whose sink takes everything is failed by the executor alone. -/
theorem script_fails {e : Failure} (h : (script executor detailed d p).outcome = .error e) :
    Fails d e := by
  rcases Script.fails_of_andThen h with told | ⟨_, h⟩
  · contradiction
  rcases Script.fails_of_andThen h with failed | ⟨_, h⟩
  · exact iterations_fails failed
  rcases Script.fails_of_andThen h with failed | ⟨_, h⟩
  · exact iterations_fails failed
  rcases Script.fails_of_andThen h with told | ⟨_, h⟩
  · contradiction
  · contradiction

theorem execute_ok {kind : IterationKind} {index : UInt32} {sample : Sample}
    (h : (executeScript executor d p kind index).outcome = .ok sample) :
    executor d p kind index = .sample sample := by
  unfold executeScript at h
  cases execution : executor d p kind index with
  | sample s => simpa [execution] using h
  | failed f => simp [execution] at h
  | panicked => simp [execution] at h

theorem iteration_ok {kind : IterationKind} {index : UInt32} {sample : Sample}
    (h : (iterationScript executor detailed d p kind index).outcome = .ok sample) :
    executor d p kind index = .sample sample := by
  obtain ⟨-, -, h, -⟩ := Script.ok_of_andThen h
  obtain ⟨executed, execution, h, -⟩ := Script.ok_of_andThen h
  obtain ⟨-, -, h, -⟩ := Script.ok_of_andThen h
  obtain ⟨-, -, h, -⟩ := Script.ok_of_andThen h
  obtain rfl := Except.ok.inj h
  exact execute_ok execution

/-- Iterations that succeed have one sample each, which the executor gave. -/
theorem iterations_ok {kind : IterationKind} {first n : Nat} {samples : List Sample}
    (h : (iterationsScript executor detailed d p kind first n).outcome = .ok samples) :
    samples.length = n ∧ ∀ s ∈ samples, ∃ index, executor d p kind index = .sample s := by
  induction n generalizing first samples with
  | zero =>
    obtain rfl := Except.ok.inj h
    exact ⟨rfl, by simp⟩
  | succ n ih =>
    obtain ⟨sample, iterated, h, -⟩ := Script.ok_of_andThen h
    obtain ⟨more, others, h, -⟩ := Script.ok_of_andThen h
    obtain rfl := Except.ok.inj h
    obtain ⟨length, given⟩ := ih others
    refine ⟨by rw [List.length_cons, length], fun s mem => ?_⟩
    rcases List.mem_cons.1 mem with rfl | mem
    · exact ⟨_, iteration_ok iterated⟩
    · exact given s mem

/-- A cycle that succeeds has the result of its measured iterations, and tells it last. -/
theorem script_ok {result : Option Run} (h : (script executor detailed d p).outcome = .ok result) :
    [.benchmarkEnd d result] <:+ (script executor detailed d p).calls ∧ ∃ samples,
      (iterationsScript executor detailed d p .measurement 1 p.measurement.count.toNat).outcome =
        .ok samples ∧ result = Run.ofSamples samples := by
  obtain ⟨-, -, h, started⟩ := Script.ok_of_andThen h
  obtain ⟨-, -, h, warmed⟩ := Script.ok_of_andThen h
  obtain ⟨samples, measured, h, ended⟩ := Script.ok_of_andThen h
  obtain rfl := Except.ok.inj h
  exact ⟨ended.trans (warmed.trans started), samples, measured, rfl⟩

/-- A cycle that plans no measured iteration has no result. -/
theorem eq_none_of_unmeasured {result : Option Run} (unmeasured : p.measurement.count = 0)
    (h : (script executor detailed d p).outcome = .ok result) : result = none := by
  obtain ⟨-, samples, measured, rfl⟩ := script_ok h
  rw [unmeasured] at measured
  obtain rfl : [] = samples := Except.ok.inj measured
  rfl

/-- How a cycle can end, and what is told and merged then. -/
theorem script_ends (s : Script (Option Run)) (is_script : s = Cycle.script executor detailed d p) :
    (s.outcome = .ok none ∧ s.exceptions = [] ∧ s.reports d = []) ∨
    (∃ run, s.outcome = .ok (some run) ∧ s.exceptions = [] ∧ s.reports d = [(d, run)]) ∨
    (∃ reason, s.outcome = .error (.benchmarkFailed d reason) ∧
      s.exceptions = [.exception (Failure.benchmarkFailed d reason).message] ∧ s.reports d = []) ∨
    (s.outcome = .error .taskPanicked ∧ s.exceptions = [] ∧ s.reports d = []) := by
  cases outcome : s.outcome with
  | ok result =>
    cases result with
    | none => simp [Script.exceptions, Script.reports, outcome]
    | some run => simp [Script.exceptions, Script.reports, outcome]
  | error e =>
    rcases script_fails (is_script ▸ outcome) with ⟨reason, rfl⟩ | rfl
    · simp [Script.exceptions, Script.reports, outcome]
    · simp [Script.exceptions, Script.reports, outcome]

end Cycle

end Microbench
