import Microbench.TimedLoop

/-!
The calls that a workload receives. The loops of a thread are gone through with a workload that does more than answer
(`runThreadM`): whatever it does, a thread does it once for each of its calls, in their order, and comes to the same end
(`runThreadM_doing`). A workload that writes down how it is called shows which calls these are (`Share.received`).
-/

namespace Microbench.TimedLoop

namespace Share

/-- What becomes of a loop that counts its calls. -/
def counted (s : Share) (measurement : UInt64 → UInt64 → Measurement) (start : Nat) : Nat × LoopEnd Unit → ThreadRun
  | (calls, .done () (stop :: rest)) =>
    ⟨calls, measured s (measurement (UInt64.ofNat calls) (elapsed start stop)) rest⟩
  | (calls, .done () []) | (calls, .unfinished) => ⟨calls, .unfinished⟩
  | (calls, .failed f) => ⟨calls, .failed f⟩

def timed (s : Share) : Nat × LoopEnd (List UInt64) → ThreadRun
  | (calls, .done samples rest) => ⟨calls, measured s (.sampleTime (.ofSamples samples)) rest⟩
  | (calls, .unfinished) => ⟨calls, .unfinished⟩
  | (calls, .failed f) => ⟨calls, .failed f⟩

def shot (s : Share) (before : Nat) (clock : List Nat) : Except Failure Unit → ThreadRun
  | .error f => ⟨1, .failed f⟩
  | .ok () =>
    match clock with
    | after :: rest => ⟨1, measured s (.singleShot 1 (elapsed before after)) rest⟩
    | [] => ⟨1, .unfinished⟩

end Share

/-- A thread by its mode. -/
theorem runThread_eq (w : Workload) (s : Share) (clock : List Nat) : runThread w s clock =
    match s.descriptor.mode, clock with
    | .throughput, start :: clock =>
      s.counted .throughput start (countLoop (s.call w) start s.budget 0 clock)
    | .averageTime, start :: clock =>
      s.counted .averageTime start (countLoop (s.call w) start s.budget 0 clock)
    | .sampleTime, start :: clock => s.timed (sampleLoop (s.call w) start s.budget [] 0 clock)
    | .singleShot, before :: clock => s.shot before clock (s.call w 0)
    | .all, _ => ⟨0, .failed (.other (s.descriptor.name ++ " must be expanded to concrete modes before running"))⟩
    | _, [] => ⟨0, .unfinished⟩ := by
  unfold runThread
  cases s.descriptor.mode <;> rcases clock with _ | ⟨start, clock⟩ <;> try rfl
  case singleShot.cons => cases s.call w 0 <;> cases clock <;> rfl

section

variable {m : Type → Type} [Monad m]

def Share.callM (s : Share) (w : Invocation → m WorkResult) (number : Nat) : m (Except Failure Unit) := do
  let answer ← w (s.invocation number)
  return s.call (fun _ => answer) number

def countLoopM (call : Nat → m (Except Failure Unit)) (start budget : Nat) : Nat → List Nat → m (Nat × LoopEnd Unit)
  | made, clock => do
    match ← call made with
    | .error f => return (made + 1, .failed f)
    | .ok () =>
      match clock with
      | [] => return (made + 1, .unfinished)
      | now :: rest =>
        if budget ≤ now - start then return (made + 1, .done () rest)
        else countLoopM call start budget (made + 1) rest

def sampleLoopM (call : Nat → m (Except Failure Unit)) (start budget : Nat) (samples : List UInt64) :
    Nat → List Nat → m (Nat × LoopEnd (List UInt64))
  | made, before :: clock => do
    match ← call made with
    | .error f => return (made + 1, .failed f)
    | .ok () =>
      match clock with
      | after :: now :: rest =>
        let samples := elapsed before after :: samples
        if budget ≤ now - start then return (made + 1, .done samples.reverse rest)
        else sampleLoopM call start budget samples (made + 1) rest
      | _ => return (made + 1, .unfinished)
  | made, [] => return (made, .unfinished)

/-- `runThread` with what the workload does. -/
def runThreadM (w : Invocation → m WorkResult) (s : Share) (clock : List Nat) : m ThreadRun :=
  match s.descriptor.mode, clock with
  | .throughput, start :: clock => s.counted .throughput start <$> countLoopM (s.callM w) start s.budget 0 clock
  | .averageTime, start :: clock => s.counted .averageTime start <$> countLoopM (s.callM w) start s.budget 0 clock
  | .sampleTime, start :: clock => s.timed <$> sampleLoopM (s.callM w) start s.budget [] 0 clock
  | .singleShot, before :: clock => s.shot before clock <$> s.callM w 0
  | .all, _ => return ⟨0, .failed (.other (s.descriptor.name ++ " must be expanded to concrete modes before running"))⟩
  | _, [] => return ⟨0, .unfinished⟩

end

variable {m : Type → Type} [Monad m] [LawfulMonad m]

theorem lt_countLoop (call : Nat → Except Failure Unit) (start budget made : Nat) (clock : List Nat) :
    made < (countLoop call start budget made clock).1 := by
  fun_induction countLoop call start budget made clock <;> omega

theorem le_sampleLoop (call : Nat → Except Failure Unit) (start budget : Nat) (samples : List UInt64) (made : Nat)
    (clock : List Nat) : made ≤ (sampleLoop call start budget samples made clock).1 := by
  fun_induction sampleLoop call start budget samples made clock <;> omega

theorem range'_sub_of_lt {first last : Nat} (lt : first < last) :
    List.range' first (last - first) = first :: List.range' (first + 1) (last - (first + 1)) := by
  rw [← Nat.succ_pred_eq_of_pos (Nat.sub_pos_of_lt lt), List.range'_succ]
  rfl

section

variable {effect : Nat → m Unit} {callM : Nat → m (Except Failure Unit)} {call : Nat → Except Failure Unit}
  (does : ∀ n, callM n = do effect n; return call n)

include does

theorem countLoopM_eq (start budget made : Nat) (clock : List Nat) :
    countLoopM callM start budget made clock = do
      (List.range' made ((countLoop call start budget made clock).1 - made)).forM effect
      return countLoop call start budget made clock := by
  fun_induction countLoop call start budget made clock with
  | case1 made clock f failed =>
    unfold countLoopM
    simp [does, failed]
  | case2 made called =>
    unfold countLoopM
    simp [does, called]
  | case3 made called now rest late =>
    unfold countLoopM
    simp [does, called, late]
  | case4 made called now rest more ih =>
    unfold countLoopM
    -- The loop goes on, so this call is the first of those that it still makes.
    rw [range'_sub_of_lt (Nat.lt_of_succ_lt (lt_countLoop call start budget (made + 1) rest))]
    simp [does, called, more, ih]

theorem sampleLoopM_eq (start budget : Nat) (samples : List UInt64) (made : Nat) (clock : List Nat) :
    sampleLoopM callM start budget samples made clock = do
      (List.range' made ((sampleLoop call start budget samples made clock).1 - made)).forM effect
      return sampleLoop call start budget samples made clock := by
  fun_induction sampleLoop call start budget samples made clock with
  | case1 samples made before clock f failed =>
    unfold sampleLoopM
    simp [does, failed]
  | case2 samples made before called after now rest taken late =>
    unfold sampleLoopM
    simp [does, called, late, taken]
  | case3 samples made before called after now rest taken more ih =>
    unfold sampleLoopM
    rw [range'_sub_of_lt (Nat.lt_of_succ_le (le_sampleLoop call start budget taken (made + 1) rest))]
    subst taken
    simp [does, called, more, ih]
  | case4 samples made before clock called short =>
    unfold sampleLoopM
    simp [does, called]
  | case5 samples made =>
    unfold sampleLoopM
    simp

end

theorem Share.calls_counted (s : Share) (measurement : UInt64 → UInt64 → Measurement) (start : Nat)
    (ended : Nat × LoopEnd Unit) : (s.counted measurement start ended).calls = ended.1 := by
  rcases ended with ⟨calls, ⟨_, _ | _⟩ | _ | _⟩ <;> rfl

theorem Share.calls_timed (s : Share) (ended : Nat × LoopEnd (List UInt64)) : (s.timed ended).calls = ended.1 := by
  rcases ended with ⟨calls, _ | _ | _⟩ <;> rfl

theorem Share.calls_shot (s : Share) (before : Nat) (clock : List Nat) (answer : Except Failure Unit) :
    (s.shot before clock answer).calls = 1 := by
  rcases answer with _ | _ <;> cases clock <;> rfl

def doing (effect : Invocation → m Unit) (w : Workload) (i : Invocation) : m WorkResult := do
  effect i
  return w i

section

variable (effect : Invocation → m Unit) (w : Workload) (s : Share)

theorem Share.callM_doing (number : Nat) : s.callM (doing effect w) number = do
    effect (s.invocation number)
    return s.call w number := by
  simp [callM, call, doing]

/-- A thread does what the workload does for each of its calls, in their order, and nothing else beside what it does
without that. -/
theorem runThreadM_doing (clock : List Nat) : runThreadM (doing effect w) s clock = do
    ((runThread w s clock).invocations s).forM effect
    return runThread w s clock := by
  have called := s.callM_doing effect w
  have counted := countLoopM_eq called
  have timed := sampleLoopM_eq called
  rw [runThread_eq]
  unfold runThreadM
  cases s.descriptor.mode <;> rcases clock with _ | ⟨start, clock⟩
  all_goals simp [ThreadRun.invocations, called, counted, timed, List.range_eq_range', Share.calls_counted,
    Share.calls_timed, Share.calls_shot]

end

def note (i : Invocation) : StateM (List Invocation) Unit := modify (· ++ [i])

theorem run_forM_note (calls noted : List Invocation) : (calls.forM note).run noted = ((), noted ++ calls) := by
  induction calls generalizing noted with
  | nil =>
    rw [List.append_nil]
    rfl
  | cons i calls ih =>
    have rest := ih (noted ++ [i])
    rw [List.append_assoc] at rest
    exact rest

/-- The calls that a workload receives from a thread, told by one that gives the same answers and writes its calls
down. -/
def Share.received (s : Share) (w : Workload) (clock : List Nat) : List Invocation :=
  ((runThreadM (doing note w) s clock).run []).2

theorem Share.received_eq (s : Share) (w : Workload) (clock : List Nat) :
    s.received w clock = (runThread w s clock).invocations s := by
  rw [received, runThreadM_doing, StateT.run_bind, run_forM_note]
  rfl

def received (w : Workload) (clocks : Clocks) (d : Descriptor) (p : Params) (kind : IterationKind) (index : UInt32) :
    List (List Invocation) :=
  (List.range d.threads.toNat).map fun thread => (share d p kind index thread).received w (clocks.thread thread)

theorem invocations_eq {r : Registry} {d : Descriptor} {definition : Definition}
    (registered : r.get d.name = .ok definition) (clocks : Clocks) (p : Params) (kind : IterationKind)
    (index : UInt32) :
    invocations r clocks d p kind index = (received definition.workload clocks d p kind index).flatten := by
  have numbered (n : Nat) : (List.range n).zipIdx = (List.range n).map fun thread => (thread, thread) :=
    List.ext_getElem (by simp) (by simp)
  simp [invocations, registered, runThreads, received, numbered, List.zipIdx_map, Share.received_eq, List.flatMap_def,
    Function.comp_def]

end Microbench.TimedLoop
