import Mathlib.Algebra.Order.BigOperators.Group.List
import Mathlib.Data.Set.List
import Microbench.Proofs.Buckets
import Microbench.Proofs.Splitting
import Microbench.Proofs.Stages
import Microbench.Proofs.WorkerProtocol

/-!
Times of single calls on the link. A distribution has at most one bucket for each slot, so however many calls were
timed, the sample of an iteration and the result of a cycle take a bounded number of bytes
(`Sample.Timed.size_encode_le`, `Run.size_encode_le`), and a worker can send all that it tells of such a benchmark
(`Worker.run_sends_timed`).
-/

namespace Microbench

open Wire Wire.Codec

namespace Value

def sampledBound (label : String) : Nat := label.utf8ByteSize + 540712

theorem size_encode_sampled_le (label : String) (unit : TimeUnit) (samples : List UInt64) :
    (codec.encode (sampled label unit samples)).size ≤ sampledBound label := by
  have buckets := Distribution.length_buckets_ofSamples_le samples
  have size : (codec.encode (sampled label unit samples)).size =
      40 + label.utf8ByteSize + 16 * (Distribution.ofSamples samples).buckets.length := by
    simp [codec, imap, size_encode_pair, size_encode_text, TimeUnit.codec, variant, sampled, Measurement.codec,
      Distribution.size_encode]
    omega
  rw [size, sampledBound]
  simp only [Slot.count] at buckets
  omega

end Value

namespace Named

theorem size_encode_empty {α : Type} (c : Codec α) : ((Named.codec c).encode ∅).size = 8 := by
  have nothing : (∅ : Named α).toList = [] := rfl
  simp [Named.codec, imap, size_encode_list, nothing]

end Named

namespace Sample

def Timed (d : Descriptor) (unit : TimeUnit) (kind : IterationKind) (index : UInt32) (s : Sample) : Prop :=
  ∃ (elapsed : UInt64) (threads : List (List UInt64)), threads.length = d.threads.toNat ∧
    Sample.ofThreads index kind elapsed
      (threads.map fun samples => { primary := .sampled d.name unit samples }) = some s

variable {d : Descriptor} {unit : TimeUnit} {kind : IterationKind} {index : UInt32} {s : Sample}

theorem Timed.kind_eq (timed : s.Timed d unit kind index) : s.kind = kind := by
  obtain ⟨elapsed, threads, -, made⟩ := timed
  exact kind_ofThreads made

/-- Such a sample has the value of one recorder and those of its threads, and nothing else. -/
theorem Timed.fields (timed : s.Timed d unit kind index) :
    (∃ samples, s.primary = .sampled d.name unit samples) ∧ s.secondary = ∅ ∧ s.rawSecondary = ∅ ∧
      ∃ threads : List (List UInt64), threads.length = d.threads.toNat ∧
        s.rawPrimary = threads.map (.sampled d.name unit) := by
  obtain ⟨elapsed, threads, length, made⟩ := timed
  have primary := primary_ofThreads made
  rw [List.map_map] at primary
  have some_thread : threads ≠ [] := by
    rintro rfl
    contradiction
  have values : Value.ofThreads (threads.map (Value.sampled d.name unit)) = some s.primary := primary
  rw [Value.ofThreads_sampled _ _ some_thread] at values
  have nothing : (threads.map fun samples => ({ primary := .sampled d.name unit samples } : ThreadResult)).flatMap
      (·.secondary.toList) = [] := by
    simp [List.flatMap_map]
  obtain ⟨v, -, rfl⟩ := Option.map_eq_some_iff.1 made
  refine ⟨⟨threads.flatten, (Option.some.inj values).symm⟩, ?_, ?_, threads, length, ?_⟩
  · simp only [nothing]
    rfl
  · simp only [nothing]
    rfl
  · simp [Function.comp_def]

theorem Timed.size_encode_le (timed : s.Timed d unit kind index) :
    (codec.encode s).size ≤ 40 + (d.threads.toNat + 1) * Value.sampledBound d.name := by
  obtain ⟨⟨samples, primary⟩, secondary, raw_secondary, threads, length, raw⟩ := timed.fields
  have size : (codec.encode s).size =
      40 + (Value.codec.encode s.primary).size + (s.rawPrimary.map fun v => (Value.codec.encode v).size).sum := by
    simp [codec, imap, size_encode_pair, size_encode_list, secondary, raw_secondary, Named.size_encode_empty, u32,
      u64, IterationKind.codec, variant]
    omega
  have whole := Value.size_encode_sampled_le d.name unit samples
  have parts : (s.rawPrimary.map fun v => (Value.codec.encode v).size).sum ≤
      d.threads.toNat * Value.sampledBound d.name := by
    have each : ∀ n ∈ s.rawPrimary.map fun v => (Value.codec.encode v).size, n ≤ Value.sampledBound d.name := by
      simpa [raw] using fun samples _ => Value.size_encode_sampled_le d.name unit samples
    simpa [raw, length] using List.sum_le_card_nsmul _ _ each
  rw [size, primary, Nat.add_mul]
  omega

end Sample

namespace Run

variable {d : Descriptor} {unit : TimeUnit} {samples : List Sample} {r : Run}

/-- The run of such samples has the value of one recorder, no other values, and at most one score for each sample. -/
theorem fields_of_timed (timed : ∀ s ∈ samples, ∃ index, s.Timed d unit .measurement index)
    (made : Run.ofSamples samples = some r) :
    (∃ all, r.primary = .sampled d.name unit all) ∧ r.secondary = ∅ ∧ r.scores.length ≤ samples.length := by
  have measured : ∀ s ∈ samples, s.kind = .measurement := by
    intro s mem
    obtain ⟨index, timed⟩ := timed s mem
    exact timed.kind_eq
  have primary := primary_ofSamples measured made
  have each : ∀ v ∈ samples.map (·.primary), v ∈ Set.range (Value.sampled d.name unit) := by
    intro v mem
    obtain ⟨s, inside, rfl⟩ := List.mem_map.1 mem
    obtain ⟨index, timed⟩ := timed s inside
    obtain ⟨⟨own, same⟩, -⟩ := timed.fields
    exact ⟨own, same.symm⟩
  obtain ⟨parts, values⟩ : samples.map (·.primary) ∈ Set.range (List.map (Value.sampled d.name unit)) := by
    rw [Set.range_list_map]
    exact each
  have some_part : parts ≠ [] := by
    rintro rfl
    rw [← values] at primary
    contradiction
  rw [← values, Value.ofRuns_sampled _ _ some_part] at primary
  have nothing : samples.flatMap (·.secondary.toList) = [] := by
    refine List.flatMap_eq_nil_iff.2 fun s mem => ?_
    obtain ⟨index, timed⟩ := timed s mem
    rw [timed.fields.2.1]
    rfl
  rw [Run.ofSamples, filter_measured measured] at made
  obtain ⟨v, -, rfl⟩ := Option.map_eq_some_iff.1 made
  refine ⟨⟨parts.flatten, (Option.some.inj primary).symm⟩, ?_, ?_⟩
  · simp only [nothing]
    rfl
  · exact (Binary64.sort_perm _).length_eq.trans_le (List.length_filterMap_le _ _)

theorem size_encode_le_of_timed (timed : ∀ s ∈ samples, ∃ index, s.Timed d unit .measurement index)
    (made : Run.ofSamples samples = some r) :
    (codec.encode r).size ≤ 20 + Value.sampledBound d.name + 8 * samples.length := by
  obtain ⟨⟨all, primary⟩, secondary, scores⟩ := fields_of_timed timed made
  have score (x : Binary64) : (double.encode x).size = 8 := by simp [double, imap, u64]
  have size : (codec.encode r).size = 20 + (Value.codec.encode r.primary).size + 8 * r.scores.length := by
    simp [codec, imap, size_encode_pair, size_encode_list, secondary, Named.size_encode_empty, score, u32]
    omega
  have whole := Value.size_encode_sampled_le d.name unit all
  rw [size, primary]
  omega

end Run

/-- Under the mode that times single calls, the executor makes the samples that the timed loop makes. -/
def Executor.Times (executor : Executor) : Prop :=
  ∀ d p kind index s, d.mode = .sampleTime → executor d p kind index = .sample s → s.Timed d p.unit kind index

namespace TimedLoop

theorem result_of_runThread {w : Workload} {s : Share} (mode : s.descriptor.mode = .sampleTime) {clock rest : List Nat}
    {result : ThreadResult} (done : (runThread w s clock).outcome = .done result rest) :
    ∃ samples, result = { primary := .sampled s.descriptor.name s.unit samples } := by
  unfold runThread at done
  simp only [mode] at done
  split at done
  · contradiction
  · split at done
    · rename_i samples _ _
      simp only [measured, LoopEnd.done.injEq] at done
      exact ⟨samples, done.1.symm⟩
    · contradiction
    · contradiction

/-- Results are collected of all threads, and each is that of a thread. -/
theorem collect_ok {runs : List ThreadRun} {results : List ThreadResult}
    (collected : collect runs = some (.ok results)) :
    results.length = runs.length ∧
      ∀ result ∈ results, ∃ run ∈ runs, ∃ rest, run.outcome = .done result rest := by
  induction runs generalizing results with
  | nil =>
    obtain rfl : [] = results := by simpa [collect] using collected
    simp
  | cons run runs ih =>
    cases outcome : run.outcome with
    | unfinished => simp [collect, outcome] at collected
    | failed f => cases more : collect runs <;> simp [collect, outcome, more] at collected
    | done result rest =>
      rcases more : collect runs with _ | f | others
      · simp [collect, outcome, more] at collected
      · simp [collect, outcome, more] at collected
      · obtain rfl : result :: others = results := by simpa [collect, outcome, more] using collected
        obtain ⟨length, each⟩ := ih more
        refine ⟨by rw [List.length_cons, List.length_cons, length], fun other mem => ?_⟩
        rcases List.mem_cons.1 mem with rfl | mem
        · exact ⟨run, List.mem_cons_self, rest, outcome⟩
        · obtain ⟨run', inside, done⟩ := each other mem
          exact ⟨run', List.mem_cons_of_mem run inside, done⟩

/-- An iteration that gives a sample gives that of its threads. -/
theorem sample_of_runIteration {r : Registry} {clocks : Clocks} {d : Descriptor} {p : Params} {kind : IterationKind}
    {index : UInt32} {s : Sample} (ran : runIteration r clocks d p kind index = some (.sample s)) :
    ∃ w results, collect (runThreads w clocks d p kind index) = some (.ok results) ∧
      Sample.ofThreads index kind clocks.elapsed results = some s := by
  unfold runIteration at ran
  split at ran
  · cases ran
  · rename_i definition _
    obtain ⟨collected, all, ended⟩ := Option.map_eq_some_iff.1 ran
    split at ended
    · contradiction
    · rename_i results
      split at ended
      · rename_i sample made
        obtain rfl := Execution.sample.inj ended
        exact ⟨definition.workload, results, all, made⟩
      · contradiction

theorem executor_times (r : Registry) (clocks : Duration → Clocks) : (executor r clocks).Times := by
  intro d p kind index s mode executed
  unfold executor at executed
  split at executed
  · rename_i execution ran
    obtain rfl := executed
    obtain ⟨w, results, collected, made⟩ := sample_of_runIteration ran
    obtain ⟨length, given⟩ := collect_ok collected
    have each : ∀ result ∈ results,
        result ∈ Set.range fun samples => ({ primary := .sampled d.name p.unit samples } : ThreadResult) := by
      intro result mem
      obtain ⟨run, inside, rest, done⟩ := given result mem
      obtain ⟨thread, -, rfl⟩ := List.mem_map.1 inside
      obtain ⟨samples, rfl⟩ := result_of_runThread mode done
      exact ⟨samples, rfl⟩
    obtain ⟨threads, rfl⟩ : results ∈ Set.range (List.map fun samples =>
        ({ primary := .sampled d.name p.unit samples } : ThreadResult)) := by
      rw [Set.range_list_map]
      exact each
    refine ⟨_, threads, ?_, made⟩
    simpa [runThreads] using length
  · contradiction

end TimedLoop

theorem Script.mem_calls_andThen {α β : Type} {s : Script α} {f : α → Script β} {c : Call}
    (mem : c ∈ (s.andThen f).calls) : c ∈ s.calls ∨ ∃ x, s.outcome = .ok x ∧ c ∈ (f x).calls := by
  unfold andThen at mem
  cases outcome : s.outcome with
  | error e =>
    rw [outcome] at mem
    exact .inl mem
  | ok x =>
    simp only [outcome, calls, List.filterMap_append, List.mem_append] at mem
    exact mem.imp id fun later => ⟨x, rfl, later⟩

namespace Cycle

variable {executor : Executor} {detailed : Bool} {d : Descriptor} {p : Params} {kind : IterationKind} {c : Call}

theorem samples_of_iterations {first n : Nat} {samples : List Sample}
    (h : (iterationsScript executor detailed d p kind first n).outcome = .ok samples) :
    samples = executor.samples d p kind first n := by
  induction n generalizing first samples with
  | zero => exact (Except.ok.inj h).symm
  | succ n ih =>
    obtain ⟨sample, iterated, h, -⟩ := Script.ok_of_andThen h
    obtain ⟨more, others, h, -⟩ := Script.ok_of_andThen h
    obtain rfl := Except.ok.inj h
    rw [Executor.samples, List.range'_succ, List.filterMap_cons, iteration_ok iterated, ih others]
    rfl

theorem tells_of_mem_iteration {index : UInt32}
    (mem : c ∈ (iterationScript executor detailed d p kind index).calls) :
    ∃ stage : Stage, stage.Tells executor d p c := by
  rcases Script.mem_calls_andThen mem with start | ⟨_, _, mem⟩
  · obtain rfl := List.mem_singleton.1 start
    exact ⟨_, .iterationStart⟩
  rcases Script.mem_calls_andThen mem with executed | ⟨sample, execution, mem⟩
  · contradiction
  have made := execute_ok execution
  rcases Script.mem_calls_andThen mem with ended | ⟨_, _, mem⟩
  · obtain rfl := List.mem_singleton.1 ended
    exact ⟨_, .iterationEnd made⟩
  rcases Script.mem_calls_andThen mem with told | ⟨_, _, mem⟩
  · split at told
    · rename_i detailed
      obtain ⟨-, measured⟩ : _ ∧ kind = .measurement := by simpa using detailed
      subst measured
      obtain rfl := List.mem_singleton.1 told
      exact ⟨_, .details made⟩
    · contradiction
  · contradiction

theorem tells_of_mem_iterations {first n : Nat}
    (mem : c ∈ (iterationsScript executor detailed d p kind first n).calls) :
    ∃ stage : Stage, stage.Tells executor d p c := by
  induction n generalizing first with
  | zero => contradiction
  | succ n ih =>
    rcases Script.mem_calls_andThen mem with one | ⟨_, _, mem⟩
    · exact tells_of_mem_iteration one
    rcases Script.mem_calls_andThen mem with more | ⟨_, _, mem⟩
    · exact ih more
    · contradiction

/-- What a cycle tells belongs to the stages that it plans. -/
theorem tells_of_mem_script (mem : c ∈ (script executor detailed d p).calls) :
    ∃ stage : Stage, stage.Tells executor d p c := by
  rcases Script.mem_calls_andThen mem with start | ⟨_, _, mem⟩
  · obtain rfl := List.mem_singleton.1 start
    exact ⟨_, .benchmarkStart⟩
  rcases Script.mem_calls_andThen mem with warmup | ⟨_, _, mem⟩
  · exact tells_of_mem_iterations warmup
  rcases Script.mem_calls_andThen mem with measurement | ⟨samples, measured, mem⟩
  · exact tells_of_mem_iterations measurement
  obtain rfl := samples_of_iterations measured
  rcases Script.mem_calls_andThen mem with ended | ⟨_, _, mem⟩
  · obtain rfl := List.mem_singleton.1 ended
    exact ⟨_, .benchmarkEnd⟩
  · contradiction

end Cycle

section

variable {executor : Executor} {d : Descriptor} {p : Params} (times : executor.Times) (mode : d.mode = .sampleTime)

include times mode

theorem Executor.size_encode_run_le {r : Run}
    (made : Run.ofSamples (executor.samples d p .measurement 1 p.measurement.count.toNat) = some r) :
    (Run.codec.encode r).size ≤ 20 + Value.sampledBound d.name + 8 * p.measurement.count.toNat := by
  have timed : ∀ s ∈ executor.samples d p .measurement 1 p.measurement.count.toNat,
      ∃ index, s.Timed d p.unit .measurement index := by
    intro s mem
    obtain ⟨i, -, given⟩ := List.mem_filterMap.1 mem
    split at given
    · rename_i made
      obtain rfl := Option.some.inj given
      exact ⟨_, times _ _ _ _ _ mode made⟩
    · contradiction
  have size := Run.size_encode_le_of_timed timed made
  have few : (executor.samples d p .measurement 1 p.measurement.count.toNat).length ≤ p.measurement.count.toNat := by
    refine (List.length_filterMap_le _ _).trans_eq ?_
    rw [List.length_range']
  omega

/-- The arguments of a call of the cycle are bounded by the length of the name and by the number of the threads and of
the measured iterations. -/
theorem Stage.Tells.size_args_le {stage : Stage} {c : Call} (tells : stage.Tells executor d p c) :
    c.args.size ≤ 73 + d.name.utf8ByteSize + max (40 + (d.threads.toNat + 1) * Value.sampledBound d.name)
      (20 + Value.sampledBound d.name + 8 * p.measurement.count.toNat) := by
  have index (i : UInt32) : (u32.encode i).size = 4 := by simp [u32]
  have kind (k : IterationKind) : (IterationKind.codec.encode k).size = 4 := by simp [IterationKind.codec, variant]
  have bytes : d.name.toByteArray.size = d.name.utf8ByteSize := rfl
  cases tells with
  | benchmarkStart =>
    simp only [Call.args, Call.benchmarkStartCodec, size_encode_pair, Descriptor.size_encode, Params.size_encode]
    omega
  | iterationStart =>
    simp only [Call.args, Call.startCodec, size_encode_pair, Descriptor.size_encode, Params.size_encode, index, kind]
    omega
  | iterationEnd made =>
    have sample := (times _ _ _ _ _ mode made).size_encode_le
    simp only [Call.args, Call.endCodec, size_encode_pair, Descriptor.size_encode, Params.size_encode, index, kind]
    omega
  | details made =>
    have sample := (times _ _ _ _ _ mode made).size_encode_le
    simp only [Call.args, Call.detailedCodec, size_encode_pair, Descriptor.size_encode, index]
    omega
  | benchmarkEnd =>
    simp only [Call.args, Call.benchmarkEndCodec, size_encode_pair, Descriptor.size_encode]
    cases made : Run.ofSamples (executor.samples d p .measurement 1 p.measurement.count.toNat) with
    | none =>
      simp only [option, size_little]
      omega
    | some r =>
      have run := executor.size_encode_run_le times mode made
      simp only [option, ByteArray.size_append, size_little]
      omega

variable (threads : d.threads.toNat ≤ 29) (name : d.name.utf8ByteSize ≤ 16384)
  (count : p.measurement.count.toNat ≤ 1000000)

include name count

theorem Cycle.reports_fit (detailed : Bool) :
    ∀ report ∈ (script executor detailed d p).reports d, (Frame.report report.1 report.2).Fits := by
  intro report mem
  unfold Script.reports at mem
  split at mem
  · rename_i r outcome
    obtain rfl := List.mem_singleton.1 mem
    obtain ⟨-, samples, measured, made⟩ := script_ok outcome
    rw [samples_of_iterations measured] at made
    have run := executor.size_encode_run_le times mode made.symm
    have size : (Frame.report d r).payload.size =
        4 + ((Descriptor.codec.encode d).size + (Run.codec.encode r).size) := by
      rw [Frame.payload, Frame.codec, ByteArray.size_append, size_encode_pair, size_little]
    rw [Frame.Fits, size, Descriptor.size_encode, Link.maxFrame]
    have bytes : d.name.toByteArray.size = d.name.utf8ByteSize := rfl
    rw [Value.sampledBound] at run
    omega
  · contradiction

include threads

theorem Cycle.calls_fit (detailed : Bool) : ∀ c ∈ (script executor detailed d p).calls, (Frame.ofCall c).Fits := by
  intro c mem
  obtain ⟨stage, tells⟩ := tells_of_mem_script mem
  have args := tells.size_args_le times mode
  have method : c.method.name.utf8ByteSize ≤ 16 := by cases c.method <;> decide
  have samples : (d.threads.toNat + 1) * Value.sampledBound d.name ≤ 30 * 557096 :=
    Nat.mul_le_mul (by omega) (by rw [Value.sampledBound]; omega)
  rw [Frame.Fits, Frame.ofCall, Frame.size_payload_outputCall, Link.maxFrame]
  rw [Value.sampledBound] at args samples
  omega

end

namespace Worker

/-- Where the benchmark of a worker times single calls, every frame fits that tells of its cycle or reports its result,
as long as there are at most 29 threads, 16384 bytes of name and a million measured iterations; how many calls are
timed does not matter. So unless an iteration fails for a reason that is too long to be told, the worker sends all of
its frames. -/
theorem run_sends_timed {network : Link.Network} {registry : Registry} {executor : Executor} {args : WorkerArgs}
    {reply : List Arrival} {o : Options} {p : Params} (connected : network args.host args.port = .ok ())
    (read : Link.readOptions reply = .ok o)
    (params : registry.paramsFor args.descriptor (o.withCounts args.warmupCount args.measurementCount) = .ok p)
    (times : executor.Times) (mode : args.descriptor.mode = .sampleTime)
    (threads : args.descriptor.threads.toNat ≤ 29) (name : args.descriptor.name.utf8ByteSize ≤ 16384)
    (count : p.measurement.count.toNat ≤ 1000000) :
    let d := args.descriptor
    let s := Cycle.script executor o.detailed d p
    (∀ c ∈ s.calls, (Frame.ofCall c).Fits) ∧
    (∀ report ∈ s.reports d, (Frame.report report.1 report.2).Fits) ∧
    ((∀ c ∈ s.exceptions, (Frame.ofCall c).Fits) →
      Sends (run network registry executor args reply) (exit o s.outcome)
        (frames d s (exit o s.outcome) ++ farewell (exit o s.outcome))) := by
  intro d s
  have calls_fit := Cycle.calls_fit times mode threads name count o.detailed
  have reports_fit := Cycle.reports_fit times mode name count o.detailed
  refine ⟨calls_fit, reports_fit, fun exceptions_fit => ?_⟩
  refine run_sends_of_read connected read params rfl (cycleFrames_fit (fun c mem => ?_) reports_fit)
  exact (List.mem_append.1 mem).elim (calls_fit c) (exceptions_fit c)

/-- Clocks by which each thread makes two calls, the second one longer than the longest time that is told apart. -/
def slow : TimedLoop.Clocks := ⟨9, fun _ => [0, 1, 8, 9, 9, 9000000000000, 9000000000001]⟩

def timing : WorkerArgs := .of Link.host 4000 ⟨"noop", .sampleTime, 2⟩ false

/-- A worker of the timed loop measures with two threads and sends its result. -/
theorem run_sends_timed_of_slow :
    let network : Link.Network := fun _ _ => .ok ()
    let executor := TimedLoop.executor Harness.refusing.registry fun _ => slow
    let p : Params := ⟨⟨1, .ofSeconds 1⟩, ⟨1, .ofSeconds 1⟩, 2, true, .microseconds, 1, 0⟩
    let s := Cycle.script executor strict.detailed timing.descriptor p
    s.calls.length = 6 ∧ (∃ r, s.reports timing.descriptor = [(timing.descriptor, r)]) ∧
    Sends (run network Harness.refusing.registry executor timing
      [.bytes (Frame.optionsResponse strict).bytes]) (.ok 0) (frames timing.descriptor s (.ok 0) ++ [.finish]) := by
  intro network executor p s
  have connected : network timing.host timing.port = .ok () := rfl
  have replied : Stream.content [.bytes (Frame.optionsResponse strict).bytes] =
      (Frame.optionsResponse strict).bytes ++ .empty := rfl
  have read := Link.readOptions_eq_ok (by decide) (by simp [Arrival.Sound]) replied
  have params : Harness.refusing.registry.paramsFor timing.descriptor
      (strict.withCounts timing.warmupCount timing.measurementCount) = .ok p := rfl
  have times : executor.Times := TimedLoop.executor_times _ _
  obtain ⟨-, -, sends⟩ :=
    run_sends_timed connected read params times rfl (by decide) (by decide) (by decide)
  obtain ⟨r, measured⟩ : ∃ r, s.outcome = .ok (some r) := by
    have succeeds : s.result?.isSome := by decide +kernel
    rcases outcome : s.outcome with _ | _ | r
    · simp [Script.result?, outcome] at succeeds
    · simp [Script.result?, outcome] at succeeds
    · exact ⟨r, rfl⟩
  have exits : exit strict s.outcome = .ok 0 := by rw [measured]; rfl
  have calm : ∀ c ∈ s.exceptions, (Frame.ofCall c).Fits := by simp [Script.exceptions, measured]
  refine ⟨by decide +kernel, ⟨r, by simp [Script.reports, measured]⟩, ?_⟩
  have sent := sends calm
  rw [exits] at sent
  exact sent

end Worker

end Microbench
