import Mathlib.Algebra.Ring.Nat
import Microbench.Link.Dispatch

/-!
How many bytes values take on the wire. Some values always take the same number (`Params.size_encode`); for the
others there is a number that every reader of them takes at least (`Wire.Reader.Takes`), so bytes that are fewer
cannot be read.
-/

namespace Microbench

open Wire Wire.Codec

namespace Wire.Reader

variable {α β : Type} {r : Reader α} {f : α → Reader β} {m n i : Nat} {bytes : ByteArray}

def Needs (r : Reader α) (n : Nat) (bytes : ByteArray) (i : Nat) : Prop :=
  ∀ x j, r bytes i = .ok (x, j) → i + n ≤ j ∧ j ≤ bytes.size

/-- What is read takes at least `n` bytes, wherever it stands. -/
def Takes (r : Reader α) (n : Nat) : Prop := ∀ bytes i, i ≤ bytes.size → r.Needs n bytes i

namespace Needs

theorem mono (needs : r.Needs n bytes i) (le : m ≤ n) : r.Needs m bytes i := by
  intro x j read
  have := needs x j read
  omega

theorem andThen (first : r.Needs m bytes i)
    (second : ∀ x j, r bytes i = .ok (x, j) → j ≤ bytes.size → (f x).Needs n bytes j) :
    (r.andThen f).Needs (m + n) bytes i := by
  intro y k read
  unfold Reader.andThen at read
  split at read
  · contradiction
  · rename_i x j taken
    have front := first x j taken
    have behind := second x j taken front.2 y k read
    omega

theorem pure (x : α) (within : i ≤ bytes.size) : (Reader.pure x).Needs 0 bytes i := by
  rintro _ _ ⟨⟩
  exact ⟨Nat.le_refl i, within⟩

theorem map {f : α → β} (needs : r.Needs n bytes i) : (r.map f).Needs n bytes i :=
  Needs.andThen (n := 0) needs fun _ _ _ within => .pure _ within

/-- Fewer bytes than are needed are refused. -/
theorem refuses (needs : r.Needs n bytes i) (few : bytes.size < i + n) : ∃ e, r bytes i = .error e := by
  cases read : r bytes i with
  | error e => exact ⟨e, rfl⟩
  | ok taken =>
    have := needs taken.1 taken.2 read
    omega

end Needs

namespace Takes

theorem mono (takes : r.Takes n) (le : m ≤ n) : r.Takes m := fun bytes i within => (takes bytes i within).mono le

theorem pure (x : α) : (Reader.pure x).Takes 0 := fun _ _ within => .pure x within

theorem fail (e : WireError) (n : Nat) : (Reader.fail e : Reader α).Takes n := by
  rintro bytes i within _ _ ⟨⟩

theorem andThen (first : r.Takes m) (second : ∀ x, (f x).Takes n) : (r.andThen f).Takes (m + n) :=
  fun bytes i within => (first bytes i within).andThen fun x j _ => second x bytes j

theorem then_any (first : r.Takes m) (second : ∀ x, (f x).Takes 0) : (r.andThen f).Takes m := first.andThen second

theorem map {f : α → β} (takes : r.Takes n) : (r.map f).Takes n := fun bytes i within => (takes bytes i within).map

theorem number (width : Nat) : (Reader.number width).Takes width := by
  intro bytes i _ x j read
  unfold Reader.number at read
  split at read
  · cases read
    exact ⟨Nat.le_refl _, ‹_›⟩
  · contradiction

theorem take (n : Nat) (missing : WireError) : (Reader.take n missing).Takes n := by
  intro bytes i _ x j read
  unfold Reader.take at read
  split at read
  · cases read
    exact ⟨Nat.le_refl _, ‹_›⟩
  · contradiction

theorem times (each : r.Takes 0) (n : Nat) : (Reader.times n r).Takes 0 := by
  have gathered (n : Nat) (out : Array α) : (Reader.repeatInto r n out).Takes 0 := by
    induction n generalizing out with
    | zero => exact .pure out
    | succ n ih => exact each.then_any fun x => ih (out.push x)
  exact (gathered n #[]).map

end Takes

end Wire.Reader

namespace Wire.Codec

open Reader

variable {α β : Type} {c : Codec α} {d : Codec β} {m n i : Nat} {bytes : ByteArray}

theorem takes_u8 : u8.read.Takes 1 := (Takes.number 1).map

theorem takes_u32 : u32.read.Takes 4 := (Takes.number 4).map

theorem takes_u64 : u64.read.Takes 8 := (Takes.number 8).map

theorem takes_bool : Codec.bool.read.Takes 1 := (Takes.number 1).then_any fun n => by
  match n with
  | 0 => exact .pure false
  | 1 => exact .pure true
  | n + 2 => exact .fail _ 0

theorem takes_sized (missing : WireError) : (sized missing).read.Takes 8 :=
  (Takes.number 8).then_any fun n => (Takes.take n missing).mono (Nat.zero_le n)

theorem takes_textOf (b : ByteArray) : (textOf b).Takes 0 := by
  unfold textOf
  split
  · exact .pure _
  · exact .fail _ 0

theorem takes_text : Codec.text.read.Takes 8 := (takes_sized _).then_any takes_textOf

theorem takes_list (each : c.read.Takes 0) : (list c).read.Takes 8 := (Takes.number 8).then_any (Takes.times each)

theorem takes_option (each : c.read.Takes 0) : (option c).read.Takes 1 := (Takes.number 1).then_any fun n => by
  match n with
  | 0 => exact .pure none
  | 1 => exact each.map
  | n + 2 => exact .fail _ 0

theorem takes_variant [DecidableEq α] {all : List α} {complete : ∀ x, x ∈ all} {few : all.length < 1 <<< 32} :
    (variant all complete few).read.Takes 4 := (Takes.number 4).then_any fun n => by
  unfold variantCase
  split
  · exact .pure _
  · exact .fail _ 0

theorem takes_pair (first : c.read.Takes m) (second : d.read.Takes n) : (c.pair d).read.Takes (m + n) :=
  first.andThen fun _ => second.map

theorem needs_pair (first : c.read.Needs m bytes i) (second : d.read.Takes n) :
    (c.pair d).read.Needs (m + n) bytes i :=
  first.andThen fun _ j _ within => second.map bytes j within

theorem size_encode_pair (x : α × β) : ((c.pair d).encode x).size = (c.encode x.1).size + (d.encode x.2).size :=
  ByteArray.size_append

theorem size_encode_text (s : String) : (Codec.text.encode s).size = 8 + s.toByteArray.size := by
  simp [Codec.text, sized]

theorem size_encode_list (c : Codec α) (xs : List α) :
    ((list c).encode xs).size = 8 + (xs.map fun x => (c.encode x).size).sum := by
  have each (out : ByteArray) : (xs.foldl (fun out x => out ++ c.encode x) out).size =
      out.size + (xs.map fun x => (c.encode x).size).sum := by
    induction xs generalizing out with
    | nil => simp
    | cons x xs ih => rw [List.foldl_cons, ih, ByteArray.size_append, List.map_cons, List.sum_cons, Nat.add_assoc]
  rw [list, each, size_little]

/-- Where a text begins, all of its bytes are needed. -/
theorem needs_text {b rest : ByteArray} {missing : WireError} (short : b.size < 1 <<< 64) :
    Codec.text.read.Needs (8 + b.size) ((sized missing).encode b ++ rest) 0 := by
  have counted := At.number 8 b.size (by omega) .empty (b ++ rest)
  rw [ByteArray.empty_append, ← ByteArray.append_assoc] at counted
  have taken : (sized .endOfText).read.Needs (8 + b.size) (little 8 b.size ++ b ++ rest) 0 := by
    refine (Takes.number 8 _ 0 (Nat.zero_le _)).andThen fun x j read within => ?_
    obtain ⟨rfl, rfl⟩ := Prod.mk.inj (Except.ok.inj (counted.symm.trans read))
    exact Takes.take b.size _ _ _ within
  exact taken.andThen (n := 0) fun text j _ within => takes_textOf text _ j within

end Wire.Codec

open Wire.Reader

theorem Duration.takes : Duration.codec.read.Takes 12 := (takes_pair takes_u64 takes_u32).then_any fun parts => by
  unfold carried
  cases ofNanos? (nanosOf parts.1 parts.2) with
  | none => exact .fail _ 0
  | some d => exact .pure d

theorem Iterations.takes : Iterations.codec.read.Takes 16 := (takes_pair takes_u32 Duration.takes).map

theorem Descriptor.size_encode (d : Descriptor) : (Descriptor.codec.encode d).size = 16 + d.name.toByteArray.size := by
  simp [Descriptor.codec, imap, size_encode_pair, size_encode_text, Mode.codec, variant, u32]
  omega

theorem Params.takes : Params.codec.read.Takes 49 :=
  (takes_pair Iterations.takes <| takes_pair Iterations.takes <| takes_pair takes_u32 <| takes_pair takes_bool <|
    takes_pair takes_variant <| takes_pair takes_u32 takes_u32).map

theorem Params.size_encode (p : Params) : (Params.codec.encode p).size = 49 := by
  have iterations (i : Iterations) : (Iterations.codec.encode i).size = 16 := by
    simp [Iterations.codec, Duration.codec, imap, size_encode_pair, u32, u64]
  simp [Params.codec, imap, size_encode_pair, iterations, u32, Codec.bool, TimeUnit.codec, variant]

theorem Distribution.takes : Distribution.codec.read.Takes 24 :=
  (takes_pair takes_u64 <| takes_pair takes_u64 <| takes_list <| (takes_pair takes_u64 takes_u64).mono (by decide)).map

theorem Distribution.size_encode (d : Distribution) :
    (Distribution.codec.encode d).size = 24 + 16 * d.buckets.length := by
  have bucket (b : UInt64 × UInt64) : ((u64.pair u64).encode b).size = 16 := by simp [size_encode_pair, u64]
  simp only [Distribution.codec, imap, size_encode_pair, size_encode_list, bucket, List.map_const',
    List.sum_replicate_nat]
  simp [u64]
  omega

theorem Measurement.takes : Measurement.codec.read.Takes 20 := by
  refine Takes.andThen (n := 16) (Takes.number 4) fun kind => ?_
  match kind with
  | 0 | 1 | 3 => exact (takes_pair takes_u64 takes_u64).map
  | 2 => exact Distribution.takes.map.mono (by decide)
  | _ + 4 => exact .fail _ 16

theorem Value.takes : Value.codec.read.Takes 32 :=
  (takes_pair takes_text <| takes_pair takes_variant Measurement.takes).map

theorem Named.takes {α : Type} {c : Codec α} (each : c.read.Takes 0) : (Named.codec c).read.Takes 8 :=
  (takes_list ((takes_pair takes_text each).mono (Nat.zero_le _))).map

theorem Sample.takes : Sample.codec.read.Takes 72 :=
  have value := Value.takes.mono (Nat.zero_le _)
  (takes_pair takes_u32 <| takes_pair takes_variant <| takes_pair takes_u64 <| takes_pair Value.takes <|
    takes_pair (Named.takes value) <| takes_pair (takes_list value)
      (Named.takes ((takes_list value).mono (Nat.zero_le _)))).map

theorem Run.takes : Run.codec.read.Takes 52 :=
  (takes_pair Value.takes <| takes_pair (Named.takes (Value.takes.mono (Nat.zero_le _))) <|
    takes_pair (takes_list (takes_u64.map.mono (Nat.zero_le _))) takes_u32).map

end Microbench
