import Microbench.Proofs.Settings
import Microbench.Registry

/-!
What a worker reads out of the words it was started with. A launch comes back exactly if neither its host nor the
name of its benchmark begins with a dash.
-/

namespace Microbench

namespace WorkerArgs

open CommandLine

def settings (a : WorkerArgs) : List (Key × String) :=
  [(.linkHost, a.host), (.linkPort, toString a.port), (.benchmark, a.benchmark), (.benchmarkMode, a.mode.label),
    (.benchmarkThreads, toString a.threads)]
    ++ (a.warmupCount.map fun n => (Key.warmupIterations, toString n)).toList
    ++ (a.measurementCount.map fun n => (Key.iterations, toString n)).toList

def asked (a : WorkerArgs) : Arguments where
  isWorker := true
  linkHost := some a.host
  linkPort := some a.port
  benchmark := some a.benchmark
  benchmarkMode := some a.mode
  benchmarkThreads := some a.threads
  warmupCount := a.warmupCount
  measurementCount := a.measurementCount

theorem toArguments_eq (a : WorkerArgs) : a.toArguments = flag :: wordsOf a.settings := by
  rcases a with ⟨_, _, _, _, _, _ | _, _ | _⟩ <;> rfl

theorem workerArgs_asked (a : WorkerArgs) : a.asked.workerArgs = .ok a := rfl

theorem settings_single (a : WorkerArgs) : ∀ s ∈ a.settings, s.1.isSwitch = false ∧ s.1 ≠ .mode := by
  rcases a with ⟨_, _, _, _, _, _ | _, _ | _⟩ <;> simp [settings, Key.isSwitch]

theorem settings_nodup (a : WorkerArgs) : (a.settings.map (·.1)).Nodup := by
  rcases a with ⟨_, _, _, _, _, _ | _, _ | _⟩ <;> simp [settings]

theorem foldlM_set_settings (a : WorkerArgs) :
    a.settings.foldlM (fun b s => s.1.set b s.2) { isWorker := true } = .ok a.asked := by
  rcases a with ⟨_, _, _, _, _, _ | _, _ | _⟩ <;>
    (simp [settings, Key.set, readPort_toString, readMode_label, readCount_toString]; rfl)

theorem isDashed_toString (n : Nat) : isDashed (toString n) = false := by
  have digits : ∀ c ∈ (toString n).toList, c.isDigit := by
    rw [Nat.toString_eq_repr, Nat.toList_repr]
    exact fun c => Nat.isDigit_of_mem_toDigits (by decide) (by decide)
  unfold isDashed
  split
  · next letters => exact absurd (digits '-' (letters ▸ List.mem_cons_self)) (by decide)
  · rfl

theorem isDashed_label (m : Mode) : isDashed m.label = false := by cases m <;> rfl

/-- Of the values in a launch, only the host and the name of the benchmark can begin with a dash. -/
theorem settings_dashed (a : WorkerArgs) :
    (∃ s ∈ a.settings, isDashed s.2 = true) ↔ isDashed a.host = true ∨ isDashed a.benchmark = true := by
  have port : isDashed (toString a.port) = false := isDashed_toString a.port.toNat
  have count (n : UInt32) : isDashed (toString n) = false := isDashed_toString n.toNat
  rcases a with ⟨_, _, _, _, _, _ | _, _ | _⟩ <;> simp [settings, port, count, isDashed_label]

def flagged : Progress where
  arguments := { isWorker := true }
  given := [.internalWorker]

theorem parse_toArguments (a : WorkerArgs) : parse a.toArguments =
    ((wordsOf a.settings).foldlM Progress.word flagged >>= Progress.settle).map (·.arguments) := by
  have first : Progress.word {} flag = .ok flagged := Progress.word_long (k := .internalWorker) rfl
  rw [toArguments_eq, parse, List.foldlM_cons, first]
  change ((wordsOf a.settings).foldlM Progress.word flagged >>= _) = _
  cases (wordsOf a.settings).foldlM Progress.word flagged with
  | error e => rfl
  | ok q =>
    change (q.settle >>= fun q => pure q.arguments) = q.settle.map (·.arguments)
    cases q.settle <;> rfl

theorem parse_toArguments_of_plain {a : WorkerArgs} (host : isDashed a.host = false)
    (benchmark : isDashed a.benchmark = false) : parse a.toArguments = .ok a.asked := by
  have plain : ∀ s ∈ a.settings, isDashed s.2 = false := fun s hs => Bool.eq_false_iff.mpr fun dashed => by
    have := (settings_dashed a).mp ⟨s, hs, dashed⟩
    simp [host, benchmark] at this
  have fresh : ∀ s ∈ a.settings, s.1 ∉ flagged.given := fun s hs mem => by
    have ordinary := (settings_single a s hs).1
    rw [List.mem_singleton.mp mem] at ordinary
    contradiction
  obtain ⟨q, given, arguments⟩ :=
    Progress.foldlM_give (settings_single a) (settings_nodup a) fresh (foldlM_set_settings a)
  rw [parse_toArguments, Progress.foldlM_wordsOf (fun s hs => ⟨(settings_single a s hs).1, plain s hs⟩) rfl]
  change (a.settings.foldlM (fun q s => Progress.give q s.1 (some s.2)) flagged).map _ = _
  rw [given]
  exact congrArg Except.ok arguments

theorem parse_toArguments_of_dashed {a : WorkerArgs}
    (dashed : isDashed a.host = true ∨ isDashed a.benchmark = true) : ∃ e, parse a.toArguments = .error e := by
  obtain ⟨e, fault⟩ := Progress.foldlM_wordsOf_of_dashed (p := flagged) (fun s hs => (settings_single a s hs).1)
    ((settings_dashed a).mpr dashed) rfl
  exact ⟨e, by rw [parse_toArguments, fault]; rfl⟩

/-- Whether the words that launch a descriptor tell the worker where its parent is, and to run that descriptor: once
over for a warmup fork, as often as the options say for another. -/
def ComesBack (host : String) (port : UInt16) (d : Descriptor) (warmup : Bool) : Prop :=
  ∃ a w, parse (WorkerArgs.of host port d warmup).toArguments = .ok a ∧ a.isWorker = true ∧
    a.workerArgs = .ok w ∧ w.host = host ∧ w.port = port ∧ w.descriptor = d ∧
    (w.warmupCount, w.measurementCount) = if warmup then (some 1, some 0) else (none, none)

theorem descriptor_of (host : String) (port : UInt16) (name : String) (mode : Mode) (threads : UInt32)
    (warmup : Bool) :
    (WorkerArgs.of host port (.new name mode threads) warmup).descriptor = .new name mode threads := by
  simp only [descriptor, WorkerArgs.of, Descriptor.new]
  split <;> simp_all

/-- A launch comes back exactly if neither the host nor the name of the benchmark begins with a dash: the words in
which a setting is given and its value are apart, and a word that begins with a dash is no value. -/
theorem comesBack_iff (host : String) (port : UInt16) (name : String) (mode : Mode) (threads : UInt32)
    (warmup : Bool) :
    ComesBack host port (.new name mode threads) warmup ↔ isDashed host = false ∧ isDashed name = false := by
  constructor
  · rintro ⟨a, w, read, -⟩
    have plain : ¬ (isDashed host = true ∨ isDashed name = true) := fun dashed => by
      obtain ⟨e, fault⟩ := parse_toArguments_of_dashed (a := .of host port (.new name mode threads) warmup) dashed
      rw [read] at fault
      cases fault
    simpa using plain
  · rintro ⟨plainHost, plainName⟩
    have read := parse_toArguments_of_plain (a := .of host port (.new name mode threads) warmup) plainHost plainName
    exact ⟨_, _, read, rfl, workerArgs_asked _, rfl, rfl, descriptor_of .., by cases warmup <;> rfl⟩

/-- A benchmark whose name begins with a dash can be registered, but no worker can be launched for it: its name is
taken for a setting. -/
theorem not_comesBack_dashed :
    (∃ r, Registry.empty.register { name := "-x", workload := fun _ => .done } = .ok r) ∧
      parse (WorkerArgs.of "127.0.0.1" 4000 (.new "-x" .throughput 1) false).toArguments =
        .error (.unknownArgument "-x") ∧
      ¬ ComesBack "127.0.0.1" 4000 (.new "-x" .throughput 1) false := by
  have fault : parse (WorkerArgs.of "127.0.0.1" 4000 (.new "-x" .throughput 1) false).toArguments =
      .error (.unknownArgument "-x") := by rfl
  refine ⟨⟨_, rfl⟩, fault, ?_⟩
  rintro ⟨a, w, read, -⟩
  rw [fault] at read
  cases read

end WorkerArgs

end Microbench
