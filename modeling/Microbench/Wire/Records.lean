import Microbench.Entries
import Microbench.Options
import Microbench.Store
import Microbench.Wire.Codec

/-!
How the values of a run are laid out on the wire: the fields of a record in order, the entries of
a map in the order of their keys. Reading a map keeps the last of several entries with one key.
-/

namespace Microbench

open Wire Wire.Codec

def TimeUnit.codec : Codec TimeUnit :=
  variant TimeUnit.all (by intro x; cases x <;> decide) (by decide)

def Mode.codec : Codec Mode :=
  variant (Mode.concrete ++ [.all]) (by intro x; cases x <;> decide) (by decide)

def WarmupMode.codec : Codec WarmupMode :=
  variant WarmupMode.all (by intro x; cases x <;> decide) (by decide)

def OutputFormat.codec : Codec OutputFormat :=
  variant OutputFormat.all (by intro x; cases x <;> decide) (by decide)

def IterationKind.codec : Codec IterationKind :=
  variant [.warmup, .measurement] (by intro x; cases x <;> decide) (by decide)

/-- What whole seconds and further nanoseconds amount to, if the seconds do not overflow. -/
def Duration.carried (parts : UInt64 × UInt32) : Reader Duration :=
  (ofNanos? (nanosOf parts.1 parts.2)).elim (.fail .durationOverflow) .pure

def Duration.codec : Codec Duration where
  encode d := (u64.pair u32).encode (d.seconds, d.nanos)
  read := (u64.pair u32).read.andThen carried
  reads d h := by
    have whole : carried (d.seconds, d.nanos) = .pure d := by
      rw [carried, ← totalNanos, ofNanos?_totalNanos]; rfl
    exact ((u64.pair u32).reads (d.seconds, d.nanos) h).then_pure whole
  size_pos _ := (u64.pair u32).size_pos _

def Named.codec {α : Type} (c : Codec α) : Codec (Named α) :=
  (list (text.pair c)).imap (fun entries => Std.ExtTreeMap.ofList entries) (·.toList)
    ofList_toList

def Distribution.codec : Codec Distribution :=
  (u64.pair (u64.pair (list (u64.pair u64)))).imap
    (fun (count, total, buckets) => ⟨count, total, buckets⟩)
    (fun d => (d.count, d.total, d.buckets)) fun _ => rfl

def measurementCase : Nat → Reader Measurement
  | 0 => (u64.pair u64).read.map fun (n, t) => .throughput n t
  | 1 => (u64.pair u64).read.map fun (n, t) => .averageTime n t
  | 2 => Distribution.codec.read.map .sampleTime
  | 3 => (u64.pair u64).read.map fun (n, t) => .singleShot n t
  | n => .fail (.invalidVariant (UInt32.ofNat n) 4)

def Measurement.codec : Codec Measurement where
  encode
    | .throughput n t => little 4 0 ++ (u64.pair u64).encode (n, t)
    | .averageTime n t => little 4 1 ++ (u64.pair u64).encode (n, t)
    | .sampleTime s => little 4 2 ++ Distribution.codec.encode s
    | .singleShot n t => little 4 3 ++ (u64.pair u64).encode (n, t)
  read := (Reader.number 4).andThen measurementCase
  reads m h := by
    cases m <;> simp only [ByteArray.size_append] at h
    case throughput n t =>
      exact (Reader.At.number 4 0 (by decide)).andThen (((u64.pair u64).reads (n, t) (by omega)).map _)
    case averageTime n t =>
      exact (Reader.At.number 4 1 (by decide)).andThen (((u64.pair u64).reads (n, t) (by omega)).map _)
    case sampleTime s =>
      exact (Reader.At.number 4 2 (by decide)).andThen ((Distribution.codec.reads s (by omega)).map _)
    case singleShot n t =>
      exact (Reader.At.number 4 3 (by decide)).andThen (((u64.pair u64).reads (n, t) (by omega)).map _)
  size_pos m := by cases m <;> simp only [ByteArray.size_append, size_little] <;> omega

def Value.codec : Codec Value :=
  (Codec.text.pair (TimeUnit.codec.pair Measurement.codec)).imap
    (fun (label, unit, measurement) => ⟨label, unit, measurement⟩)
    (fun v => (v.label, v.unit, v.measurement)) fun _ => rfl

def Sample.codec : Codec Sample :=
  (u32.pair <| IterationKind.codec.pair <| u64.pair <| Value.codec.pair <|
      (Named.codec Value.codec).pair <| (list Value.codec).pair (Named.codec (list Value.codec))).imap
    (fun (index, kind, elapsed, primary, secondary, rawPrimary, rawSecondary) =>
      ⟨index, kind, elapsed, primary, secondary, rawPrimary, rawSecondary⟩)
    (fun s => (s.index, s.kind, s.elapsed, s.primary, s.secondary, s.rawPrimary, s.rawSecondary))
    fun _ => rfl

def Run.codec : Codec Run :=
  (Value.codec.pair <| (Named.codec Value.codec).pair <| (list double).pair u32).imap
    (fun (primary, secondary, scores, contributions) => ⟨primary, secondary, scores, contributions⟩)
    (fun r => (r.primary, r.secondary, r.scores, r.contributions)) fun _ => rfl

def Descriptor.codec : Codec Descriptor :=
  (Codec.text.pair (Mode.codec.pair u32)).imap (fun (name, mode, threads) => ⟨name, mode, threads⟩)
    (fun d => (d.name, d.mode, d.threads)) fun _ => rfl

def Iterations.codec : Codec Iterations :=
  (u32.pair Duration.codec).imap (fun (count, time) => ⟨count, time⟩)
    (fun i => (i.count, i.time)) fun _ => rfl

def Params.codec : Codec Params :=
  (Iterations.codec.pair <| Iterations.codec.pair <| u32.pair <| bool.pair <| TimeUnit.codec.pair <|
      u32.pair u32).imap
    (fun (warmup, measurement, threads, synchronized, unit, forks, warmupForks) =>
      ⟨warmup, measurement, threads, synchronized, unit, forks, warmupForks⟩)
    (fun p => (p.warmup, p.measurement, p.threads, p.synchronized, p.unit, p.forks, p.warmupForks))
    fun _ => rfl

def Options.codec : Codec Options :=
  ((list text).pair <| (list text).pair <| (list text).pair <| (list Mode.codec).pair <|
      Iterations.codec.pair <| Iterations.codec.pair <| (option u32).pair <| (option u32).pair <|
      WarmupMode.codec.pair <| (option u32).pair <| bool.pair <| bool.pair <| bool.pair <|
      bool.pair <| (option TimeUnit.codec).pair <| OutputFormat.codec.pair <|
      (option text).pair <| (option text).pair bool).imap
    (fun (includes, excludes, warmupIncludes, modes, warmup, measurement, forks, warmupForks,
        warmupMode, threads, synchronized, failOnError, verbose, detailed, unit, format, output,
        resultFile, listOnly) =>
      { includes, excludes, warmupIncludes, modes, warmup, measurement, forks, warmupForks,
        warmupMode, threads, synchronized, failOnError, verbose, detailed, unit, format, output,
        resultFile, listOnly })
    (fun o => (o.includes, o.excludes, o.warmupIncludes, o.modes, o.warmup, o.measurement, o.forks,
      o.warmupForks, o.warmupMode, o.threads, o.synchronized, o.failOnError, o.verbose, o.detailed,
      o.unit, o.format, o.output, o.resultFile, o.listOnly)) fun _ => rfl

end Microbench
