import Microbench.Proofs.Sizes

/-!
Arguments that come under the name of another method. They are written without their number, so a call is refused
where its bytes do not spell arguments of that method, not where their number differs: the front of the bytes may
spell them, and a result or a sample may spell those that are missing (`Call.refused_iff`).
-/

namespace Microbench

open Wire Wire.Reader Wire.Codec

namespace Method

def least : Method → Nat
  | iterationStart => 73
  | iterationEnd => 145
  | benchmarkStart => 65
  | benchmarkEnd => 17
  | detailedResults => 92
  | exception | println | verbosePrintln | writeBytes => 8
  | writeByte => 1
  | flush | close => 0

/-- Where a name of `n` bytes stands in front, so many more bytes are needed. -/
theorem needs {m : Method} (several : 2 ≤ m.arity) {bytes : ByteArray} {n : Nat}
    (name : Codec.text.read.Needs (8 + n) bytes 0) : m.reader.Needs (n + m.least) bytes 0 := by
  have descriptor : Descriptor.codec.read.Needs (16 + n) bytes 0 :=
    (needs_pair name (takes_pair takes_variant takes_u32)).map.mono (by omega)
  cases m with
  | iterationStart =>
    exact (needs_pair descriptor <| takes_pair Params.takes <| takes_pair takes_u32 takes_variant).map.mono
      (by rw [least]; omega)
  | iterationEnd =>
    exact (needs_pair descriptor <| takes_pair Params.takes <| takes_pair takes_u32 <|
      takes_pair takes_variant Sample.takes).map.mono (by rw [least]; omega)
  | benchmarkStart => exact (needs_pair descriptor Params.takes).map.mono (by rw [least]; omega)
  | benchmarkEnd =>
    exact (needs_pair descriptor (takes_option (Run.takes.mono (Nat.zero_le _)))).map.mono (by rw [least]; omega)
  | detailedResults =>
    exact (needs_pair descriptor (takes_pair takes_u32 Sample.takes)).map.mono (by rw [least]; omega)
  | _ => simp [arity] at several

theorem takes_of_single {m : Method} (single : m.arity = 1) : m.reader.Takes m.least := by
  cases m with
  | exception | println | verbosePrintln => exact takes_text.map
  | writeBytes => exact (takes_sized _).map
  | writeByte => exact takes_u8.map
  | _ => simp [arity] at single

/-- Whatever the arguments of `n` are, they do not spell arguments of `m`. -/
def FallsShort (n m : Method) : Prop :=
  n.arity < m.arity ∧ n ≠ benchmarkEnd ∧ n ≠ detailedResults ∨ n = iterationStart ∧ m = detailedResults

/-- Whatever the arguments of `n` are, the front of their bytes spells arguments of `m`. -/
def Passes (n m : Method) : Prop :=
  m.arity = 0 ∨ m.arity = 1 ∧ 2 ≤ n.arity ∨ 4 ≤ n.arity ∧ (m = benchmarkStart ∨ m = iterationStart)

instance (n m : Method) : Decidable (n.FallsShort m) := inferInstanceAs (Decidable (_ ∨ _))

instance (n m : Method) : Decidable (n.Passes m) := inferInstanceAs (Decidable (_ ∨ _))

theorem least_lt {n m : Method} (falls : n.FallsShort m) : n.least < m.least := by
  revert falls
  unfold FallsShort
  cases n <;> cases m <;> decide

end Method

namespace Call

def lead : Call → Nat
  | iterationStart d .. | iterationEnd d .. | benchmarkStart d _ | benchmarkEnd d _ | detailedResults d .. =>
    d.name.toByteArray.size
  | exception text | println text | verbosePrintln text => text.toByteArray.size
  | writeBytes bytes => bytes.size
  | writeByte _ | flush | close => 0

theorem needs_lead {c : Call} (short : c.args.size < 1 <<< 64) : Codec.text.read.Needs (8 + c.lead) c.args 0 := by
  have leads (missing : WireError) {b rest : ByteArray} (args : c.args = (sized missing).encode b ++ rest) :
      Codec.text.read.Needs (8 + b.size) c.args 0 := by
    rw [args] at short ⊢
    refine needs_text ?_
    simp only [sized, ByteArray.size_append] at short
    omega
  cases c with
  | iterationStart | iterationEnd | benchmarkStart | benchmarkEnd | detailedResults =>
    exact leads .endOfText ByteArray.append_assoc
  | exception | println | verbosePrintln => exact leads .endOfText ByteArray.append_empty.symm
  | writeBytes => exact leads .endOfInput ByteArray.append_empty.symm
  | writeByte | flush | close => exact takes_text _ 0 (Nat.zero_le _)

theorem decode_name (m : Method) (args : ByteArray) :
    decode m.name args = match m.reader args 0 with
      | .ok (c, _) => .ok c
      | .error e => .error (.badArguments m.name e) := by
  have shared : m.name ∉ Event.parentOnly := by cases m <;> decide
  cases read : m.reader args 0 with
  | ok taken => simp [decode, Method.ofName?_name, shared, read]
  | error e => simp [decode, Method.ofName?_name, shared, read]

theorem refused_of_needs {m : Method} {args : ByteArray} {n : Nat} (needs : m.reader.Needs n args 0)
    (few : args.size < n) : ∃ e, decode m.name args = .error (.badArguments m.name e) := by
  obtain ⟨e, refused⟩ := needs.refuses (by omega)
  exact ⟨e, by rw [decode_name, refused]⟩

/-- Without a result and without a sample, arguments take as few bytes as they can behind their text. -/
theorem size_args {c : Call}
    (plain : c.method ≠ .iterationEnd ∧ c.method ≠ .benchmarkEnd ∧ c.method ≠ .detailedResults) :
    c.args.size = c.lead + c.method.least := by
  cases c with
  | iterationEnd | benchmarkEnd | detailedResults => simp [method] at plain
  | iterationStart d p i k =>
    simp [args, startCodec, size_encode_pair, Descriptor.size_encode, Params.size_encode, u32, IterationKind.codec,
      variant, lead, method, Method.least]
    omega
  | benchmarkStart d p =>
    simp [args, benchmarkStartCodec, size_encode_pair, Descriptor.size_encode, Params.size_encode, lead, method,
      Method.least]
    omega
  | exception s | println s | verbosePrintln s => simp [args, size_encode_text, lead, method, Method.least]; omega
  | writeByte => rfl
  | writeBytes bytes => simp [args, Codec.bytes, sized, lead, method, Method.least]; omega
  | flush | close => rfl

theorem refused_of_fallsShort {c : Call} {m : Method} (falls : c.method.FallsShort m) (short : c.args.size < 1 <<< 64) :
    ∃ e, decode m.name c.args = .error (.badArguments m.name e) := by
  have plain : c.method ≠ .iterationEnd ∧ c.method ≠ .benchmarkEnd ∧ c.method ≠ .detailedResults := by
    revert falls
    unfold Method.FallsShort
    cases c.method <;> cases m <;> decide
  have size := size_args plain
  have lt := Method.least_lt falls
  by_cases several : 2 ≤ m.arity
  · exact refused_of_needs (Method.needs several (needs_lead short)) (by omega)
  · -- Only a call without arguments has fewer than one.
    have bare : c.args.size = 0 ∧ m.arity = 1 := by
      revert falls several
      cases c <;> cases m <;> simp [Method.FallsShort, method, Method.arity, args]
    exact refused_of_needs (Method.takes_of_single bare.2 _ 0 (Nat.zero_le _)) (by omega)

/-- What stands behind the arguments of a call is not looked at. -/
theorem decode_append (c : Call) (rest : ByteArray) (short : c.args.size < 1 <<< 64) :
    decode c.method.name (c.args ++ rest) = .ok c := by
  have read := reader_at c short .empty rest
  simp only [ByteArray.empty_append, ByteArray.size_empty] at read
  rw [decode_name, read]

/-- A call with several arguments has the name of a benchmark in front of them. -/
theorem exists_name {c : Call} (several : 2 ≤ c.method.arity) :
    ∃ (name : String) (rest : ByteArray), c.args = Codec.text.encode name ++ rest := by
  cases c with
  | iterationStart d | iterationEnd d | benchmarkStart d | benchmarkEnd d | detailedResults d =>
    exact ⟨d.name, _, ByteArray.append_assoc⟩
  | _ => simp [method, Method.arity] at several

theorem exists_front {c : Call} {m : Method} (passes : c.method.Passes m) :
    ∃ (front : Call) (rest : ByteArray), front.method = m ∧ c.args = front.args ++ rest := by
  rcases passes with none | ⟨one, several⟩ | ⟨many, rfl | rfl⟩
  · cases m with
    | flush => exact ⟨.flush, c.args, rfl, ByteArray.empty_append.symm⟩
    | close => exact ⟨.close, c.args, rfl, ByteArray.empty_append.symm⟩
    | _ => simp [Method.arity] at none
  · obtain ⟨name, rest, args⟩ := exists_name several
    cases m with
    | exception => exact ⟨.exception name, rest, rfl, args⟩
    | println => exact ⟨.println name, rest, rfl, args⟩
    | verbosePrintln => exact ⟨.verbosePrintln name, rest, rfl, args⟩
    | writeBytes => exact ⟨.writeBytes name.toByteArray, rest, rfl, args⟩
    | writeByte =>
      -- The first byte of the length of the name.
      have first (n : Nat) : little 8 n = u8.encode (UInt8.ofNat n) ++ little 7 (n / 256) := by
        apply ByteArray.ext
        simp [u8, little, littleBytes]
      refine ⟨.writeByte (.ofNat name.toByteArray.size),
        little 7 (name.toByteArray.size / 256) ++ name.toByteArray ++ rest, rfl, ?_⟩
      have spelled : Codec.text.encode name = little 8 name.toByteArray.size ++ name.toByteArray := rfl
      rw [args, spelled, first]
      simp only [Call.args, ByteArray.append_assoc]
    | _ => simp [Method.arity] at one
  · cases c with
    | iterationStart d p => exact ⟨.benchmarkStart d p, _, rfl, ByteArray.append_assoc.symm⟩
    | iterationEnd d p => exact ⟨.benchmarkStart d p, _, rfl, ByteArray.append_assoc.symm⟩
    | _ => simp [method, Method.arity] at many
  · cases c with
    | iterationStart d p i k => exact ⟨.iterationStart d p i k, .empty, rfl, ByteArray.append_empty.symm⟩
    | iterationEnd d p i k s =>
      refine ⟨.iterationStart d p i k, Sample.codec.encode s, rfl, ?_⟩
      simp [args, endCodec, startCodec, pair, ByteArray.append_assoc]
    | _ => simp [method, Method.arity] at many

theorem accepted_of_passes {c : Call} {m : Method} (passes : c.method.Passes m) (short : c.args.size < 1 <<< 64) :
    ∃ c', decode m.name c.args = .ok c' := by
  obtain ⟨front, rest, rfl, args⟩ := exists_front passes
  have within : front.args.size ≤ c.args.size := by simp [args, ByteArray.size_append]
  exact ⟨front, args ▸ decode_append front rest (by omega)⟩

def unnamed : Descriptor := ⟨"", .throughput, 1⟩

def idle : Params := ⟨⟨0, .zero⟩, ⟨0, .zero⟩, 1, false, .nanoseconds, 0, 0⟩

def zeros (n : Nat) : Value := ⟨.ofList (.replicate n (.ofNat 0)), .nanoseconds, .throughput 0 0⟩

/-- Arguments of the method whose bytes are zero almost everywhere, and so spell those of other methods. -/
def blank : Method → Call
  | .iterationStart => iterationStart unnamed idle 0 .warmup
  | .iterationEnd => iterationEnd unnamed idle 0 .warmup ⟨0, .warmup, 0, zeros 0, ∅, [], ∅⟩
  | .benchmarkStart => benchmarkStart unnamed idle
  | .benchmarkEnd => benchmarkEnd unnamed (some ⟨zeros 130, ∅, [], 0⟩)
  | .detailedResults => detailedResults unnamed 0 ⟨0, .warmup, 0, zeros 130, ∅, [], ∅⟩
  | .exception => exception ""
  | .println => println ""
  | .verbosePrintln => verbosePrintln ""
  | .writeByte => writeByte 0
  | .writeBytes => writeBytes .empty
  | .flush => flush
  | .close => close

def timed : Params := ⟨⟨5, .ofSeconds 1⟩, ⟨5, .ofSeconds 1⟩, 1, true, .seconds, 1, 0⟩

/-- Arguments of the method that spell those of no other, apart from their front. -/
def ordinary : Method → Call
  | .iterationStart => iterationStart unnamed timed 0 .warmup
  | .iterationEnd => iterationEnd unnamed timed 0 .warmup ⟨0, .warmup, 0, zeros 0, ∅, [], ∅⟩
  | .benchmarkEnd => benchmarkEnd unnamed none
  | .detailedResults =>
    detailedResults unnamed 2 ⟨2, .measurement, 0, ⟨"operations", .seconds, .throughput 0 0⟩, ∅, [], ∅⟩
  | m => blank m

theorem blank_accepted : ∀ n ∈ Method.all, ∀ m ∈ Method.all,
    n.arity ≠ m.arity → ¬ n.FallsShort m → ¬ n.Passes m → (decode m.name (blank n).args).isOk := by
  decide +kernel

theorem ordinary_refused : ∀ n ∈ Method.all, ∀ m ∈ Method.all,
    n.arity ≠ m.arity → ¬ n.FallsShort m → ¬ n.Passes m → ¬ (decode m.name (ordinary n).args).isOk := by
  decide +kernel

theorem method_blank (m : Method) : (blank m).method = m := by cases m <;> rfl

theorem method_ordinary (m : Method) : (ordinary m).method = m := by cases m <;> rfl

theorem short_blank : ∀ m ∈ Method.all, (blank m).args.size < 1 <<< 64 := by decide +kernel

theorem short_ordinary : ∀ m ∈ Method.all, (ordinary m).args.size < 1 <<< 64 := by decide +kernel

/-- Under the name of a method with another number of arguments, calls of a method are refused whatever their
arguments are only where these are always too few bytes; else some of them, or all, are taken for other calls. -/
theorem refused_iff {n m : Method} (differ : n.arity ≠ m.arity) :
    ((∀ c : Call, c.method = n → c.args.size < 1 <<< 64 →
        ∃ e, decode m.name c.args = .error (.badArguments m.name e)) ↔ n.FallsShort m) ∧
    ((∀ c : Call, c.method = n → c.args.size < 1 <<< 64 → ∃ c', decode m.name c.args = .ok c') ↔ n.Passes m) := by
  refine ⟨⟨fun refused => Decidable.byContradiction fun spelled => ?_, ?_⟩,
    ⟨fun accepted => Decidable.byContradiction fun stuck => ?_, ?_⟩⟩
  -- Where a pair of methods is in neither relation, the blank call is accepted and the ordinary one is refused.
  · obtain ⟨e, refused⟩ := refused (blank n) (method_blank n) (short_blank n n.mem_all)
    by_cases passes : n.Passes m
    · obtain ⟨c', accepted⟩ := accepted_of_passes ((method_blank n).symm ▸ passes) (short_blank n n.mem_all)
      rw [refused] at accepted
      contradiction
    · have accepted := blank_accepted n n.mem_all m m.mem_all differ spelled passes
      simp [refused, Except.isOk, Except.toBool] at accepted
  · rintro falls c rfl
    exact refused_of_fallsShort falls
  · obtain ⟨c', accepted⟩ := accepted (ordinary n) (method_ordinary n) (short_ordinary n n.mem_all)
    by_cases falls : n.FallsShort m
    · obtain ⟨e, refused⟩ := refused_of_fallsShort ((method_ordinary n).symm ▸ falls) (short_ordinary n n.mem_all)
      rw [refused] at accepted
      contradiction
    · exact ordinary_refused n n.mem_all m m.mem_all differ falls stuck (by simp [accepted, Except.isOk, Except.toBool])
  · rintro passes c rfl
    exact accepted_of_passes passes

/-- No start of a benchmark is taken for a detailed result, and every one is taken for a line of text. -/
theorem benchmarkStart_elsewhere :
    (Method.benchmarkStart.arity ≠ Method.detailedResults.arity ∧
      ∀ c : Call, c.method = .benchmarkStart → c.args.size < 1 <<< 64 →
        ∃ e, decode "detailed_results" c.args = .error (.badArguments "detailed_results" e)) ∧
    (Method.benchmarkStart.arity ≠ Method.println.arity ∧
      ∀ c : Call, c.method = .benchmarkStart → c.args.size < 1 <<< 64 → ∃ c', decode "println" c.args = .ok c') :=
  ⟨⟨by decide, (refused_iff (n := .benchmarkStart) (m := .detailedResults) (by decide)).1.mpr (by decide)⟩,
    ⟨by decide, (refused_iff (n := .benchmarkStart) (m := .println) (by decide)).2.mpr (by decide)⟩⟩

/-- The start of a benchmark under the name of a line of text is the line with the name of the benchmark. -/
theorem benchmarkStart_as_println :
    Method.benchmarkStart.arity ≠ Method.println.arity ∧
      decode "println" (benchmarkStart ⟨"bench", .averageTime, 2⟩ timed).args = .ok (.println "bench") := by
  refine ⟨by decide, ?_⟩
  have spelled : (benchmarkStart ⟨"bench", .averageTime, 2⟩ timed).args =
      (println "bench").args ++ (u32.encode 1 ++ u32.encode 2 ++ Params.codec.encode timed) := by decide +kernel
  rw [spelled]
  exact decode_append (.println "bench") _ (by decide +kernel)

end Call

end Microbench
