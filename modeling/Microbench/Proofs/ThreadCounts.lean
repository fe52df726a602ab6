import Microbench.Proofs.Buckets
import Microbench.Proofs.Invocations
import Microbench.Proofs.MeanTime
import Microbench.Proofs.Shuffle

/-!
What an iteration counts. A thread that has come to its end has called its workload until the time was over or a call
failed, and reports as many calls as it has made (`TimedLoop.runThread_ended`). The iteration has the values of all
threads, or else the failure of the first one that has failed (`TimedLoop.runIteration_counts`).
-/

namespace Microbench

/-- The measurement of a mode over so many calls. Calls are counted in 64 bits. -/
def Measurement.Counts (calls : Nat) : Mode → Measurement → Prop
  | .throughput, throughput n _ | .averageTime, averageTime n _ => n = UInt64.ofNat calls
  | .sampleTime, sampleTime samples => samples.count.toNat = capped calls
  | .singleShot, singleShot n _ => n = 1 ∧ calls = 1
  | _, _ => False

theorem Measurement.Counts.count {calls : Nat} {mode : Mode} {m : Measurement} (counts : m.Counts calls mode)
    (few : calls < 2 ^ 64) : m.count.toNat = calls := by
  cases mode <;> cases m <;> simp only [Counts] at counts
  case throughput.throughput | averageTime.averageTime =>
    rw [counts, Measurement.count, UInt64.toNat_ofNat', Nat.mod_eq_of_lt few]
  case sampleTime.sampleTime => exact counts.trans (capped_of_le (Nat.le_pred_of_lt few))
  case singleShot.singleShot =>
    obtain ⟨rfl, rfl⟩ := counts
    rfl

theorem Measurement.Counts.once {calls : Nat} {m : Measurement} (counts : m.Counts calls .singleShot) : calls = 1 := by
  cases m with
  | singleShot => exact counts.2
  | _ => contradiction

namespace TimedLoop

section

variable {α : Type} {call : Nat → Except Failure Unit} {made : Nat}

inductive LoopEnded (call : Nat → Except Failure Unit) (made : Nat) : Nat × LoopEnd α → Prop where
  | done {calls value rest} (more : made < calls) (well : ∀ n, made ≤ n → n < calls → call n = .ok ()) :
    LoopEnded call made (calls, .done value rest)
  | failed {calls f} (more : made ≤ calls) (well : ∀ n, made ≤ n → n < calls → call n = .ok ())
    (failed : call calls = .error f) : LoopEnded call made (calls + 1, .failed f)
  | unfinished {calls} : LoopEnded call made (calls, .unfinished)

/-- One more call before it. -/
theorem LoopEnded.behind {ended : Nat × LoopEnd α} (later : LoopEnded call (made + 1) ended)
    (called : call made = .ok ()) : LoopEnded call made ended := by
  have well {calls : Nat} (others : ∀ n, made + 1 ≤ n → n < calls → call n = .ok ()) :
      ∀ n, made ≤ n → n < calls → call n = .ok () := by
    intro n from_made below
    rcases Nat.eq_or_lt_of_le from_made with rfl | later
    · exact called
    · exact others n later below
  cases later with
  | done more others => exact .done (Nat.lt_of_succ_lt more) (well others)
  | failed more others failed => exact .failed (Nat.le_of_succ_le more) (well others) failed
  | unfinished => exact .unfinished

theorem LoopEnded.last {value : α} {rest : List Nat} (called : call made = .ok ()) :
    LoopEnded call made (made + 1, .done value rest) :=
  .done (Nat.lt_succ_self made) fun _ from_made below => Nat.le_antisymm from_made (Nat.le_of_lt_succ below) ▸ called

theorem LoopEnded.first {f : Failure} (failed : call made = .error f) :
    LoopEnded call made (made + 1, (.failed f : LoopEnd α)) :=
  .failed (Nat.le_refl made) (fun _ from_made below => absurd below (Nat.not_lt.2 from_made)) failed

theorem countLoop_ended (start budget : Nat) (clock : List Nat) :
    LoopEnded call made (countLoop call start budget made clock) := by
  fun_induction countLoop call start budget made clock with
  | case1 made clock f failed => exact .first failed
  | case2 made called => exact .unfinished
  | case3 made called now rest late => exact .last called
  | case4 made called now rest more ih => exact ih.behind called

theorem sampleLoop_ended (start budget : Nat) (samples : List UInt64) (clock : List Nat) :
    LoopEnded call made (sampleLoop call start budget samples made clock) := by
  fun_induction sampleLoop call start budget samples made clock with
  | case1 samples made before clock f failed => exact .first failed
  | case2 samples made before called after now rest taken late => exact .last called
  | case3 samples made before called after now rest taken more ih => exact ih.behind called
  | case4 | case5 => exact .unfinished

/-- Each call is timed once. -/
theorem length_of_sampleLoop {start budget calls : Nat} {samples taken : List UInt64} {clock rest : List Nat}
    (ended : sampleLoop call start budget samples made clock = (calls, .done taken rest)) :
    taken.length + made = samples.length + calls := by
  fun_induction sampleLoop call start budget samples made clock with
  | case1 | case4 | case5 => cases ended
  | case2 samples made before called after now rest taken late =>
    cases ended
    simp [taken]
    omega
  | case3 samples made before called after now rest taken more ih =>
    have later := ih ended
    simp [taken] at later
    omega

end

theorem Share.call_eq_ok_iff (s : Share) (w : Workload) (n : Nat) :
    s.call w n = .ok () ↔ w (s.invocation n) = .done := by
  unfold call
  split <;> simp_all

inductive Fails (w : Workload) (d : Descriptor) (call : Invocation) : Failure → Prop where
  | failed {cause} (answer : w call = .failed cause) : Fails w d call
    (.context (d.name ++ s!" failed on thread {call.thread} in iteration {call.iteration}") cause)
  | panicked (answer : w call = .panicked) : Fails w d call (.other "Benchmark thread panicked")

theorem Fails.ne_done {w : Workload} {d : Descriptor} {call : Invocation} {f : Failure} (fails : Fails w d call f) :
    w call ≠ .done := by
  cases fails with
  | failed answer | panicked answer => simp [answer]

/-- How a thread comes to its end: all its calls are done, and it reports their number, or the last one has failed. -/
inductive Ended (w : Workload) (s : Share) : ThreadRun → Prop where
  | done {calls m rest} (some_call : 0 < calls) (well : ∀ n < calls, s.call w n = .ok ())
    (counts : m.Counts calls s.descriptor.mode) : Ended w s ⟨calls, measured s m rest⟩
  | failed {calls f} (once : s.descriptor.mode = .singleShot → calls = 0) (well : ∀ n < calls, s.call w n = .ok ())
    (failed : s.call w calls = .error f) : Ended w s ⟨calls + 1, .failed f⟩

section

variable {w : Workload} {s : Share}

theorem Share.counted_ended {measurement : UInt64 → UInt64 → Measurement} {start : Nat} {ended : Nat × LoopEnd Unit}
    (looped : LoopEnded (s.call w) 0 ended) (repeated : s.descriptor.mode ≠ .singleShot)
    (counts : ∀ calls t, (measurement (UInt64.ofNat calls) t).Counts calls s.descriptor.mode)
    (finished : (s.counted measurement start ended).outcome ≠ .unfinished) :
    Ended w s (s.counted measurement start ended) := by
  cases looped with
  | @done calls _ rest some_call well =>
    rcases rest with _ | ⟨stop, rest⟩
    · exact absurd rfl finished
    · exact .done some_call (fun n => well n n.zero_le) (counts calls _)
  | failed _ well failed => exact .failed (fun once => absurd once repeated) (fun n => well n n.zero_le) failed
  | unfinished => exact absurd rfl finished

theorem Share.timed_ended {ended : Nat × LoopEnd (List UInt64)} (mode : s.descriptor.mode = .sampleTime)
    (looped : LoopEnded (s.call w) 0 ended)
    (length : ∀ calls samples rest, ended = (calls, .done samples rest) → samples.length = calls)
    (finished : (s.timed ended).outcome ≠ .unfinished) : Ended w s (s.timed ended) := by
  cases looped with
  | @done calls samples rest some_call well =>
    refine .done some_call (fun n => well n n.zero_le) ?_
    rw [mode, ← length calls samples rest rfl]
    exact Histogram.toNat_total_ofSamples samples
  | failed _ well failed =>
    refine .failed (fun once => ?_) (fun n => well n n.zero_le) failed
    rw [mode] at once
    contradiction
  | unfinished => exact absurd rfl finished

theorem Share.shot_ended {before : Nat} {clock : List Nat} (mode : s.descriptor.mode = .singleShot)
    (finished : (s.shot before clock (s.call w 0)).outcome ≠ .unfinished) :
    Ended w s (s.shot before clock (s.call w 0)) := by
  cases called : s.call w 0 with
  | error f => exact .failed (fun _ => rfl) (fun _ below => absurd below (Nat.not_lt_zero _)) called
  | ok _ =>
    rcases clock with _ | ⟨after, rest⟩
    · rw [called] at finished
      exact absurd rfl finished
    · refine .done Nat.one_pos (fun n below => ?_) ?_
      · obtain rfl := Nat.lt_one_iff.1 below
        exact called
      · rw [mode]
        exact ⟨rfl, rfl⟩

/-- A thread that is not running any more has come to its end. -/
theorem runThread_ended {clock : List Nat} (concrete : s.descriptor.mode ≠ .all)
    (finished : (runThread w s clock).outcome ≠ .unfinished) : Ended w s (runThread w s clock) := by
  rw [runThread_eq] at finished ⊢
  cases mode : s.descriptor.mode <;> rcases clock with _ | ⟨start, clock⟩ <;> simp only [mode] at finished concrete ⊢
  case all.nil | all.cons => exact absurd rfl concrete
  case throughput.cons | averageTime.cons =>
    exact s.counted_ended (countLoop_ended start s.budget clock) (by simp [mode]) (fun _ _ => mode ▸ rfl) finished
  case sampleTime.cons =>
    refine s.timed_ended mode (sampleLoop_ended start s.budget [] clock) (fun calls samples rest ended => ?_) finished
    simpa using length_of_sampleLoop ended
  case singleShot.cons => exact s.shot_ended mode finished
  all_goals exact absurd rfl finished

/-- A thread that is through has made no call that was not done, and reports their number. -/
theorem Ended.of_done {run : ThreadRun} (ended : Ended w s run) {result : ThreadResult} {rest : List Nat}
    (outcome : run.outcome = .done result rest) : (∀ call ∈ run.invocations s, w call = .done) ∧
      ∃ m, result = { primary := ⟨s.descriptor.name, s.unit, m⟩ } ∧ m.Counts run.calls s.descriptor.mode := by
  cases ended with
  | @done calls m _ _ well counts =>
    obtain ⟨rfl, -⟩ := LoopEnd.done.inj outcome
    refine ⟨fun call mem => ?_, m, rfl, counts⟩
    obtain ⟨n, below, rfl⟩ := List.mem_map.1 mem
    exact (s.call_eq_ok_iff w n).1 (well n (List.mem_range.1 below))
  | failed => contradiction

/-- The failure of a thread is that of its last call. -/
theorem Ended.of_failed {run : ThreadRun} (ended : Ended w s run) {f : Failure} (outcome : run.outcome = .failed f) :
    ∃ last, (run.invocations s).getLast? = some last ∧ Fails w s.descriptor last f := by
  cases ended with
  | done => contradiction
  | @failed calls _ _ _ failed =>
    obtain rfl := LoopEnd.failed.inj outcome
    refine ⟨s.invocation calls, by simp [ThreadRun.invocations, List.range_succ], ?_⟩
    unfold Share.call at failed
    split at failed
    · contradiction
    · rename_i cause answer
      obtain rfl := Except.error.inj failed
      exact .failed answer
    · rename_i answer
      obtain rfl := Except.error.inj failed
      exact .panicked answer

end

/-- The calls of one thread of an iteration: at least one, and exactly one for a single shot, numbered from 0 on; behind
one that is not done there is none. -/
structure ThreadCalls (w : Workload) (mode : Mode) (kind : IterationKind) (index : UInt32) (thread : Nat)
    (calls : List Invocation) : Prop where
  numbered : calls = (List.range calls.length).map fun n => ⟨kind, index, n, UInt32.ofNat thread⟩
  some_call : 1 ≤ calls.length
  once : mode = .singleShot → calls.length = 1
  done : ∀ call ∈ calls.dropLast, w call = .done

theorem length_invocations (run : ThreadRun) (s : Share) : (run.invocations s).length = run.calls := by
  simp [ThreadRun.invocations]

theorem Ended.threadCalls {w : Workload} {d : Descriptor} {p : Params} {kind : IterationKind} {index : UInt32}
    {thread : Nat} {run : ThreadRun} (ended : Ended w (share d p kind index thread) run) :
    ThreadCalls w d.mode kind index thread (run.invocations (share d p kind index thread)) where
  numbered := by
    rw [length_invocations]
    rfl
  some_call := by
    rw [length_invocations]
    cases ended with
    | done some_call => exact some_call
    | failed => exact Nat.succ_pos _
  once := by
    intro single
    rw [length_invocations]
    cases ended with
    | done _ _ counts =>
      change Measurement.Counts _ d.mode _ at counts
      rw [single] at counts
      exact counts.once
    | failed once => rw [once single]
  done := by
    intro call mem
    obtain ⟨calls, made, well⟩ : ∃ calls, run.calls = calls + 1 ∧
        ∀ n < calls, (share d p kind index thread).call w n = .ok () := by
      cases ended with
      | @done calls _ _ some_call well =>
        exact ⟨calls - 1, (Nat.sub_add_cancel some_call).symm, fun n below => well n (by omega)⟩
      | failed _ well => exact ⟨_, rfl, well⟩
    rw [ThreadRun.invocations, made, List.range_succ, List.map_append, List.map_singleton, List.dropLast_concat] at mem
    obtain ⟨n, below, rfl⟩ := List.mem_map.1 mem
    exact (Share.call_eq_ok_iff _ w n).1 (well n (List.mem_range.1 below))

/-- What is collected of threads that have all come to their end: their results, or the first failure. -/
theorem collect_cases {runs : List ThreadRun} (finished : ∀ run ∈ runs, run.outcome ≠ .unfinished) :
    (∃ results, collect runs = some (.ok results) ∧ results.length = runs.length ∧
      ∀ (i : Nat) (run : ThreadRun), runs[i]? = some run →
        ∃ result rest, results[i]? = some result ∧ run.outcome = .done result rest) ∨
    ∃ (i : Nat) (run : ThreadRun) (f : Failure), collect runs = some (.error f) ∧
      runs[i]? = some run ∧ run.outcome = .failed f ∧
      ∀ j < i, ∀ earlier, runs[j]? = some earlier → ∃ result rest, earlier.outcome = .done result rest := by
  induction runs with
  | nil => exact .inl ⟨[], rfl, rfl, nofun⟩
  | cons run runs ih =>
    have others := ih fun other mem => finished other (List.mem_cons_of_mem run mem)
    cases outcome : run.outcome with
    | unfinished => exact absurd outcome (finished run List.mem_cons_self)
    | failed f =>
      refine .inr ⟨0, run, f, ?_, rfl, outcome, fun j below => absurd below j.not_lt_zero⟩
      rcases others with ⟨_, collected, -, -⟩ | ⟨_, _, _, collected, -, -, -⟩ <;> simp [collect, outcome, collected]
    | done result rest =>
      rcases others with ⟨results, collected, length, each⟩ | ⟨i, other, f, collected, held, failed, earlier⟩
      · refine .inl ⟨result :: results, by simp [collect, outcome, collected], congrArg (· + 1) length, ?_⟩
        rintro (_ | i) other held
        · obtain rfl := Option.some.inj held
          exact ⟨result, rest, rfl, outcome⟩
        · exact each i other held
      · refine .inr ⟨i + 1, other, f, by simp [collect, outcome, collected], held, failed, ?_⟩
        rintro (_ | j) below before held
        · obtain rfl := Option.some.inj held
          exact ⟨result, rest, outcome⟩
        · exact earlier j (Nat.lt_of_succ_lt_succ below) before held

section

variable {w : Workload} {clocks : Clocks} {d : Descriptor} {p : Params} {kind : IterationKind} {index : UInt32}
  {calls : List Invocation}

def ofThread (thread : Nat) (calls : List Invocation) : List Invocation :=
  calls.filter (·.thread = UInt32.ofNat thread)

theorem getElem?_received {thread : Nat} {own : List Invocation} :
    (received w clocks d p kind index)[thread]? = some own ↔ thread < d.threads.toNat ∧
      own = (runThread w (share d p kind index thread) (clocks.thread thread)).invocations
        (share d p kind index thread) := by
  by_cases inside : thread < d.threads.toNat
  · simp [received, Share.received_eq, inside, eq_comm]
  · simp [received, inside]

/-- In whatever order the threads take turns, the calls of each are found again by its number. -/
theorem ofThread_eq (shuffled : Shuffle (received w clocks d p kind index) calls) {thread : Nat}
    (inside : thread < d.threads.toNat) : ofThread thread calls =
      (runThread w (share d p kind index thread) (clocks.thread thread)).invocations
        (share d p kind index thread) := by
  refine shuffled.filter_eq (getElem?_received.2 ⟨inside, rfl⟩) fun i other held call mem => ?_
  obtain ⟨inside', rfl⟩ := getElem?_received.1 held
  obtain ⟨n, -, rfl⟩ := List.mem_map.1 mem
  have same : UInt32.ofNat i = UInt32.ofNat thread ↔ i = thread := by
    rw [← UInt32.toNat_inj, UInt32.toNat_ofNat_of_lt' (inside'.trans d.threads.toNat_lt),
      UInt32.toNat_ofNat_of_lt' (inside.trans d.threads.toNat_lt)]
  exact decide_eq_decide.2 same

theorem exists_ofThread (shuffled : Shuffle (received w clocks d p kind index) calls) {call : Invocation}
    (mem : call ∈ calls) : ∃ thread < d.threads.toNat, call ∈ ofThread thread calls := by
  obtain ⟨own, part, mem⟩ := List.mem_flatten.1 (shuffled.perm.mem_iff.1 mem)
  obtain ⟨thread, held⟩ := List.getElem?_of_mem part
  obtain ⟨inside, rfl⟩ := getElem?_received.1 held
  exact ⟨thread, inside, ofThread_eq shuffled inside ▸ mem⟩

theorem getElem?_runThreads {thread : Nat} {run : ThreadRun} :
    (runThreads w clocks d p kind index)[thread]? = some run ↔ thread < d.threads.toNat ∧
      run = runThread w (share d p kind index thread) (clocks.thread thread) := by
  by_cases inside : thread < d.threads.toNat
  · simp [runThreads, inside, eq_comm]
  · simp [runThreads, inside]

/-- An iteration that ends by its clocks has a sample with a value of each thread, or fails with the first thread that
has failed. -/
theorem runIteration_cases {r : Registry} {definition : Definition} (registered : r.get d.name = .ok definition)
    (threads : 1 ≤ d.threads)
    (finished : ∀ run ∈ runThreads definition.workload clocks d p kind index, run.outcome ≠ .unfinished) :
    let run (thread : Nat) := runThread definition.workload (share d p kind index thread) (clocks.thread thread)
    (∃ sample, runIteration r clocks d p kind index = some (.sample sample) ∧ sample.kind = kind ∧
      sample.index = index ∧ sample.rawPrimary.length = d.threads.toNat ∧ ∀ thread < d.threads.toNat,
        ∃ result rest, sample.rawPrimary[thread]? = some result.primary ∧ (run thread).outcome = .done result rest) ∨
    ∃ thread < d.threads.toNat, ∃ f, runIteration r clocks d p kind index = some (.failed f) ∧
      (run thread).outcome = .failed f ∧
      ∀ earlier < thread, ∃ result rest, (run earlier).outcome = .done result rest := by
  intro run
  have held {thread : Nat} (inside : thread < d.threads.toNat) :
      (runThreads definition.workload clocks d p kind index)[thread]? = some (run thread) :=
    getElem?_runThreads.2 ⟨inside, rfl⟩
  rcases collect_cases finished with
    ⟨results, collected, length, each⟩ | ⟨i, failing, f, collected, at_i, failed, before⟩
  · left
    have length : results.length = d.threads.toNat := by simp [length, runThreads]
    obtain ⟨first, rest, rfl⟩ := List.exists_cons_of_length_pos (length ▸ UInt32.le_iff_toNat_le.1 threads)
    obtain ⟨primary, made⟩ := Value.exists_ofThreads first.primary (rest.map (·.primary))
    obtain ⟨sample, sampled⟩ : ∃ sample, Sample.ofThreads index kind clocks.elapsed (first :: rest) = some sample :=
      ⟨_, Option.map_eq_some_iff.2 ⟨primary, made, rfl⟩⟩
    refine ⟨sample, by simp [runIteration, registered, collected, sampled], ?_⟩
    obtain ⟨_, -, rfl⟩ := Option.map_eq_some_iff.1 sampled
    refine ⟨rfl, rfl, by simpa using length, fun thread inside => ?_⟩
    obtain ⟨result, left, given, done⟩ := each thread _ (held inside)
    exact ⟨result, left, by rw [List.getElem?_map, given, Option.map_some], done⟩
  · right
    obtain ⟨inside, rfl⟩ := getElem?_runThreads.1 at_i
    refine ⟨i, inside, f, by simp [runIteration, registered, collected], failed, fun earlier below => ?_⟩
    exact before earlier below _ (held (below.trans inside))

/-- An iteration whose threads all come to an end by their clocks. However the calls of the threads take turns, those of
one thread are of this iteration and numbered from 0 on, exactly one as a single shot, and none follows one that is not
done. If all calls are done, the sample has one value of each thread, in order, which counts its calls (in 64 bits);
otherwise there is no sample, and the iteration fails with the last call of the first thread that has failed. Thread
after thread, the calls are the `invocations` of the iteration. -/
theorem runIteration_counts {r : Registry} {definition : Definition} (registered : r.get d.name = .ok definition)
    (concrete : d.mode ≠ .all) (threads : 1 ≤ d.threads)
    (finished : ∀ run ∈ runThreads definition.workload clocks d p kind index, run.outcome ≠ .unfinished)
    (shuffled : Shuffle (received definition.workload clocks d p kind index) calls) :
    (∀ thread < d.threads.toNat,
      ThreadCalls definition.workload d.mode kind index thread (ofThread thread calls)) ∧
    ((∀ call ∈ calls, definition.workload call = .done) →
      ∃ sample, runIteration r clocks d p kind index = some (.sample sample) ∧
        sample.kind = kind ∧ sample.index = index ∧ sample.rawPrimary.length = d.threads.toNat ∧
        ∀ thread v, sample.rawPrimary[thread]? = some v →
          v.measurement.Counts (ofThread thread calls).length d.mode ∧
          ((ofThread thread calls).length < 2 ^ 64 → v.count = (ofThread thread calls).length)) ∧
    ((∃ call ∈ calls, definition.workload call ≠ .done) →
      ∃ thread < d.threads.toNat, ∃ f, runIteration r clocks d p kind index = some (.failed f) ∧
        (∀ earlier < thread, ∀ call ∈ ofThread earlier calls, definition.workload call = .done) ∧
        ∃ last, (ofThread thread calls).getLast? = some last ∧ Fails definition.workload d last f) ∧
    invocations r clocks d p kind index = (received definition.workload clocks d p kind index).flatten := by
  have own (thread : Nat) (inside : thread < d.threads.toNat) := ofThread_eq shuffled inside
  have ended (thread : Nat) (inside : thread < d.threads.toNat) :
      Ended definition.workload (share d p kind index thread) _ :=
    runThread_ended concrete (finished _ (List.mem_of_getElem? (getElem?_runThreads.2 ⟨inside, rfl⟩)))
  refine ⟨fun thread inside => own thread inside ▸ (ended thread inside).threadCalls, ?_⟩
  rw [← and_assoc]
  refine ⟨?_, invocations_eq registered clocks p kind index⟩
  rcases runIteration_cases registered threads finished with
    ⟨sample, ran, ofKind, numbered, length, each⟩ | ⟨thread, inside, f, ran, failed, before⟩
  -- Every thread is through, so no call has failed.
  · refine ⟨fun _ => ⟨sample, ran, ofKind, numbered, length, fun thread v given => ?_⟩, fun ⟨call, mem, bad⟩ => ?_⟩
    · have inside : thread < d.threads.toNat := length ▸ (List.getElem?_eq_some_iff.1 given).1
      obtain ⟨result, rest, given', done⟩ := each thread inside
      obtain ⟨-, m, rfl, counts⟩ := (ended thread inside).of_done done
      obtain rfl := Option.some.inj (given'.symm.trans given)
      rw [own thread inside, length_invocations]
      exact ⟨counts, counts.count⟩
    · obtain ⟨thread, inside, mem⟩ := exists_ofThread shuffled mem
      obtain ⟨result, rest, -, done⟩ := each thread inside
      rw [own thread inside] at mem
      exact absurd (((ended thread inside).of_done done).1 call mem) bad
  -- A thread has failed, and the ones before it are through. The calls of later threads do not matter.
  · obtain ⟨last, ended_by, fails⟩ := (ended thread inside).of_failed failed
    rw [← own thread inside] at ended_by
    refine ⟨fun well => ?_, fun _ => ⟨thread, inside, f, ran, fun earlier below call mem => ?_, last, ended_by, fails⟩⟩
    · exact absurd (well last (List.mem_filter.1 (List.mem_of_getLast? ended_by)).1) fails.ne_done
    · obtain ⟨result, rest, done⟩ := before earlier below
      rw [own earlier (below.trans inside)] at mem
      exact ((ended earlier (below.trans inside)).of_done done).1 call mem

/-- Fails in the second measured call on thread 1, and panics when it is measured on thread 2. -/
def faulty : Definition where
  name := "faulty"
  workload i :=
    match i.kind, i.thread, i.number with
    | .measurement, 1, 1 => .failed (.other "boom")
    | .measurement, 2, _ => .panicked
    | _, _, _ => .done

def faultyRegistry : Registry := ⟨(∅ : Std.ExtTreeMap String Definition).insert "faulty" faulty⟩

def onThree : Descriptor := ⟨"faulty", .averageTime, 3⟩

def tenNanos : Params := ⟨⟨1, ⟨0, 10, by decide⟩⟩, ⟨1, ⟨0, 10, by decide⟩⟩, 3, true, .nanoseconds, 0, 0⟩

def threeClocks : Clocks where
  elapsed := 30
  thread
    | 0 => [0, 4, 10, 12]
    | 1 => [0, 3, 11, 12]
    | _ => [1, 20, 21]

def callOf (kind : IterationKind) (thread : UInt32) (number : Nat) : Invocation := ⟨kind, 1, number, thread⟩

def warmupCalls : List Invocation :=
  [callOf .warmup 2 0, callOf .warmup 0 0, callOf .warmup 1 0, callOf .warmup 1 1, callOf .warmup 0 1]

def measuredCalls : List Invocation :=
  [callOf .measurement 1 0, callOf .measurement 0 0, callOf .measurement 2 0, callOf .measurement 1 1,
    callOf .measurement 0 1]

theorem shuffled_warmup :
    Shuffle (received faulty.workload threeClocks onThree tenNanos .warmup 1) warmupCalls := by
  have parts : received faulty.workload threeClocks onThree tenNanos .warmup 1 =
      [[callOf .warmup 0 0, callOf .warmup 0 1], [callOf .warmup 1 0, callOf .warmup 1 1], [callOf .warmup 2 0]] := by
    decide +kernel
  have start : Shuffle [[], [], []] ([] : List Invocation) := .nil (by simp)
  rw [parts]
  exact start
    |>.snoc (i := 2) rfl (callOf .warmup 2 0)
    |>.snoc (i := 0) rfl (callOf .warmup 0 0)
    |>.snoc (i := 1) rfl (callOf .warmup 1 0)
    |>.snoc (i := 1) rfl (callOf .warmup 1 1)
    |>.snoc (i := 0) rfl (callOf .warmup 0 1)

theorem shuffled_measured :
    Shuffle (received faulty.workload threeClocks onThree tenNanos .measurement 1) measuredCalls := by
  have parts : received faulty.workload threeClocks onThree tenNanos .measurement 1 =
      [[callOf .measurement 0 0, callOf .measurement 0 1], [callOf .measurement 1 0, callOf .measurement 1 1],
        [callOf .measurement 2 0]] := by
    decide +kernel
  have start : Shuffle [[], [], []] ([] : List Invocation) := .nil (by simp)
  rw [parts]
  exact start
    |>.snoc (i := 1) rfl (callOf .measurement 1 0)
    |>.snoc (i := 0) rfl (callOf .measurement 0 0)
    |>.snoc (i := 2) rfl (callOf .measurement 2 0)
    |>.snoc (i := 1) rfl (callOf .measurement 1 1)
    |>.snoc (i := 0) rfl (callOf .measurement 0 1)

theorem finished_faulty (kind : IterationKind) :
    ∀ run ∈ runThreads faulty.workload threeClocks onThree tenNanos kind 1, run.outcome ≠ .unfinished := by
  intro run mem
  obtain ⟨thread, inside, rfl⟩ := List.mem_map.1 mem
  have inside : thread < 3 := List.mem_range.1 inside
  rcases thread with _ | _ | _ | thread
  · cases kind <;> exact fun unfinished => by contradiction
  · cases kind <;> exact fun unfinished => by contradiction
  · cases kind <;> exact fun unfinished => by contradiction
  · omega

/-- Warmed up, three threads count two calls, two calls and one; measured, the second thread is the first that fails,
though the third one has failed before it. -/
theorem runIteration_counts_of_faulty :
    faultyRegistry.get onThree.name = .ok faulty ∧ onThree.mode ≠ .all ∧ 1 ≤ onThree.threads ∧
    Shuffle (received faulty.workload threeClocks onThree tenNanos .warmup 1) warmupCalls ∧
    (∃ sample, runIteration faultyRegistry threeClocks onThree tenNanos .warmup 1 = some (.sample sample) ∧
      sample.rawPrimary.length = 3 ∧ ∀ v, sample.rawPrimary[1]? = some v → v.count = 2) ∧
    Shuffle (received faulty.workload threeClocks onThree tenNanos .measurement 1) measuredCalls ∧
    runIteration faultyRegistry threeClocks onThree tenNanos .measurement 1 =
      some (.failed (.context "faulty failed on thread 1 in iteration 1" (.other "boom"))) := by
  have registered : faultyRegistry.get onThree.name = .ok faulty := rfl
  have concrete : onThree.mode ≠ .all := by decide
  have threads : 1 ≤ onThree.threads := by decide
  refine ⟨registered, concrete, threads, shuffled_warmup, ?_, shuffled_measured, ?_⟩
  · obtain ⟨-, counts, -⟩ := runIteration_counts registered concrete threads (finished_faulty .warmup) shuffled_warmup
    obtain ⟨sample, ran, -, -, length, each⟩ := counts (by decide)
    exact ⟨sample, ran, length, fun v given => (each 1 v given).2 (by decide)⟩
  · obtain ⟨-, -, fails, -⟩ :=
      runIteration_counts registered concrete threads (finished_faulty .measurement) shuffled_measured
    obtain ⟨thread, inside, f, ran, before, last, at_end, failed⟩ := fails (by decide)
    rw [ran]
    have inside : thread < 3 := inside
    rcases thread with _ | _ | _ | thread
    · obtain rfl : callOf .measurement 0 1 = last := by simpa [ofThread, measuredCalls, callOf] using at_end
      exact absurd rfl failed.ne_done
    · obtain rfl : callOf .measurement 1 1 = last := by simpa [ofThread, measuredCalls, callOf] using at_end
      cases failed with
      | failed answer =>
        obtain rfl := WorkResult.failed.inj answer
        exact congrArg (fun text => some (Execution.failed (.context text (.other "boom")))) (by decide +kernel)
      | panicked answer => contradiction
    · have other := before 1 (by decide) (callOf .measurement 1 1) (by decide)
      contradiction
    · omega

end

end TimedLoop

end Microbench
