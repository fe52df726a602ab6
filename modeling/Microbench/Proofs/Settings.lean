import Microbench.CommandLine

/-!
Settings that have their values in words of their own. Reading such words does what giving the settings one by one
does, as long as no value begins with a dash; where one does, it is taken for settings, and the command line is
refused. Numbers and modes are read back from their texts.
-/

namespace Microbench

namespace Decimal

theorem le_ofDigitChars (cs : List Char) (n : Nat) : n ≤ Nat.ofDigitChars 10 cs n := by
  induction cs generalizing n with
  | nil => simp
  | cons c cs ih =>
    rw [Nat.ofDigitChars_cons]
    exact Nat.le_trans (by omega) (ih _)

theorem readDigits_eq_ok {limit : Nat} {beyond : IntegerFault} {cs : List Char} {n : Nat}
    (digits : ∀ c ∈ cs, c.isDigit) (bound : Nat.ofDigitChars 10 cs n ≤ limit) :
    readDigits limit beyond n cs = .ok (Nat.ofDigitChars 10 cs n) := by
  induction cs generalizing n with
  | nil => simp [readDigits]
  | cons c cs ih =>
    have step : 10 * n + (c.toNat - '0'.toNat) = n * 10 + digitValue c := by rw [digitValue]; omega
    rw [Nat.ofDigitChars_cons, step] at bound ⊢
    have within : ¬ n * 10 + digitValue c > limit := by have := le_ofDigitChars cs (n * 10 + digitValue c); omega
    rw [readDigits, digits c List.mem_cons_self, if_neg (by simp), if_neg within]
    exact ih (fun c h => digits c (List.mem_cons_of_mem _ h)) bound

/-- Digits alone have no sign. -/
theorem readInteger_digits {cs : List Char} (nonempty : cs ≠ []) (digits : ∀ c ∈ cs, c.isDigit) :
    readInteger cs = (readDigits (1 <<< 63 - 1) .tooLarge 0 cs).map Int.ofNat := by
  have plus : '+' ∉ cs := fun sign => absurd (digits '+' sign) (by decide)
  have minus : '-' ∉ cs := fun sign => absurd (digits '-' sign) (by decide)
  unfold readInteger
  split
  · exact absurd rfl nonempty
  · exact absurd List.mem_cons_self plus
  · exact absurd List.mem_cons_self minus
  · exact absurd List.mem_cons_self minus
  · exact absurd List.mem_cons_self plus
  · rfl

theorem readInteger_toString {n : Nat} (h : n < 1 <<< 63) : readInteger (toString n).toList = .ok (n : Int) := by
  have digits : ∀ c ∈ Nat.toDigits 10 n, c.isDigit := fun c =>
    Nat.isDigit_of_mem_toDigits (by decide) (by decide)
  have value : Nat.ofDigitChars 10 (Nat.toDigits 10 n) 0 = n := Nat.ofDigitChars_ten_toDigits
  have bound : Nat.ofDigitChars 10 (Nat.toDigits 10 n) 0 ≤ 1 <<< 63 - 1 := by rw [value]; omega
  rw [Nat.toString_eq_repr, Nat.toList_repr, readInteger_digits Nat.toDigits_ne_nil digits,
    readDigits_eq_ok digits bound, value]
  rfl

end Decimal

namespace CommandLine

theorem readBounded_toString {greatest n : Nat} (h : n ≤ greatest) (hg : greatest < 1 <<< 63) :
    readBounded greatest (toString n) = .ok n := by
  rw [readBounded, Decimal.readInteger_toString (by omega)]
  exact if_pos ⟨by omega, by omega⟩

theorem readCount_toString (n : UInt32) : readCount (toString n) = .ok n := by
  have h : readBounded (UInt32.size - 1) (toString n.toNat) = .ok n.toNat :=
    readBounded_toString (Nat.le_sub_one_of_lt n.toNat_lt_size) (by decide)
  rw [readCount, show toString n = toString n.toNat from rfl, h]
  exact congrArg Except.ok n.ofNat_toNat

theorem readPort_toString (n : UInt16) : readPort (toString n) = .ok n := by
  have h : readBounded (UInt16.size - 1) (toString n.toNat) = .ok n.toNat :=
    readBounded_toString (Nat.le_sub_one_of_lt n.toNat_lt_size) (by decide)
  rw [readPort, show toString n = toString n.toNat from rfl, h]
  exact congrArg Except.ok n.ofNat_toNat

theorem readMode_label (m : Mode) : readMode m.label = .ok m := by cases m <;> rfl

/-- A word that begins with a dash and goes on behind it is never the value of a setting. -/
def isDashed (word : String) : Bool :=
  match word.toList with
  | '-' :: _ :: _ => true
  | _ => false

def wordsOf (settings : List (Key × String)) : List String := settings.flatMap fun s => ["--" ++ s.1.long, s.2]

namespace Progress

variable {p q : Progress} {k : Key}

theorem take_fields {value : String} (h : p.take k value = .ok q) :
    q.pending = p.pending ∧ q.onlyPatterns = p.onlyPatterns := by
  unfold take at h
  split at h <;> cases h
  exact ⟨rfl, rfl⟩

theorem foldlM_take_fields {values : List String} (h : values.foldlM (take k) p = .ok q) :
    q.pending = p.pending ∧ q.onlyPatterns = p.onlyPatterns := by
  induction values generalizing p with
  | nil => cases h; exact ⟨rfl, rfl⟩
  | cons v values ih =>
    rw [List.foldlM_cons] at h
    cases hv : p.take k v with
    | error e => rw [hv] at h; cases h
    | ok r =>
      rw [hv] at h
      obtain ⟨pending, only⟩ := take_fields hv
      exact ⟨(ih h).1.trans pending, (ih h).2.trans only⟩

theorem give_fields {value : Option String} (h : p.give k value = .ok q) :
    q.pending = p.pending ∧ q.onlyPatterns = p.onlyPatterns := by
  unfold give at h
  split at h
  · cases h
  · cases h
  · split at h
    · split at h
      · cases h
      · obtain ⟨pending, only⟩ := take_fields h
        exact ⟨pending, only⟩
    · split at h
      · cases h
      · split at h
        · cases h
        · obtain ⟨pending, only⟩ := foldlM_take_fields h
          exact ⟨pending, only⟩

theorem settle_fields (h : p.settle = .ok q) : q.pending = none ∧ q.onlyPatterns = p.onlyPatterns := by
  unfold settle at h
  split at h
  · next none_pending => cases h; exact ⟨none_pending, rfl⟩
  · exact give_fields h

theorem word_long (h : p.onlyPatterns = false) : p.word ("--" ++ k.long) = p.begin k none := by
  obtain ⟨c, cs, hk⟩ : ∃ c cs, k.long.toList = c :: cs := by cases k <;> exact ⟨_, _, rfl⟩
  have name : k.long.toList.takeWhile (· != '=') = k.long.toList := by cases k <;> decide
  have value : k.long.toList.dropWhile (· != '=') = [] := by cases k <;> decide
  have letters : ("--" ++ k.long).toList = '-' :: '-' :: k.long.toList := by rw [String.toList_append]; rfl
  have long : p.long k.long.toList = p.begin k none := by
    rw [Progress.long, name, value, String.ofList_toList, Key.ofLong?_long]
  rw [word, if_neg (by simp [h]), letters]
  rw [hk] at long ⊢
  exact long

theorem word_value {value : String} (hp : p.onlyPatterns = false) (hv : isDashed value = false) :
    p.word value = p.plain value := by
  unfold isDashed at hv
  unfold word
  rw [if_neg (by simp [hp])]
  split
  · next h => simp [h] at hv
  · next h => simp [h] at hv
  · next h => simp [h] at hv
  · rfl

def putOff (p : Progress) (k : Key) (value : Option String) : Progress := { p with pending := some (k, value) }

theorem settle_putOff {value : Option String} (h : p.pending = none) :
    (p.putOff k value).settle = p.give k value := by
  cases p
  cases h
  rfl

theorem begin_ordinary (hk : k.isSwitch = false) : p.begin k none = p.settle.map (·.putOff k none) := by
  rw [begin]
  cases p.settle with
  | error e => rfl
  | ok r => exact if_neg (by simp [hk])

theorem word_awaited {value : String} (hp : p.onlyPatterns = false) (hv : isDashed value = false) :
    (p.putOff k none).word value = .ok (p.putOff k (some value)) := word_value hp hv

/-- A setting in front of others: what was put off before is looked at, and the next word is read as its value. -/
theorem foldlM_wordsOf_cons {s : Key × String} {settings : List (Key × String)} (hp : p.onlyPatterns = false)
    (hk : s.1.isSwitch = false) : (wordsOf (s :: settings)).foldlM word p =
      p.settle >>= fun q => (s.2 :: wordsOf settings).foldlM word (q.putOff s.1 none) := by
  rw [wordsOf, List.flatMap_cons, List.cons_append, List.foldlM_cons, word_long hp, begin_ordinary hk]
  cases p.settle <;> rfl

/-- Settings whose values are words of their own mean what the settings mean, one given behind the other. -/
theorem foldlM_wordsOf {settings : List (Key × String)}
    (ordinary : ∀ s ∈ settings, s.1.isSwitch = false ∧ isDashed s.2 = false) (hp : p.onlyPatterns = false) :
    ((wordsOf settings).foldlM word p >>= settle) =
      (p.settle >>= fun q => settings.foldlM (fun q s => q.give s.1 (some s.2)) q) := by
  induction settings generalizing p with
  | nil => cases hs : p.settle <;> simp [wordsOf, hs]
  | cons s settings ih =>
    obtain ⟨hk, hv⟩ := ordinary s List.mem_cons_self
    rw [foldlM_wordsOf_cons hp hk]
    cases hs : p.settle with
    | error e => rfl
    | ok r =>
      obtain ⟨pending, only⟩ := settle_fields hs
      have rest := ih (p := r.putOff s.1 (some s.2)) (fun t ht => ordinary t (List.mem_cons_of_mem _ ht))
        (only.trans hp)
      rw [settle_putOff pending] at rest
      change ((s.2 :: wordsOf settings).foldlM word (r.putOff s.1 none) >>= settle) = _
      rw [List.foldlM_cons, word_awaited (only.trans hp) hv]
      exact rest

theorem give_none (hk : k.isSwitch = false) : p.give k none = .error (.invalidValue k "") := by
  unfold give
  split
  · contradiction
  · contradiction
  · exact if_neg (by simp [hk])

/-- The setting that still waits for its value can only be a fault. -/
theorem settle_of_waiting (hk : k.isSwitch = false) (h : p.pending = some (k, none)) :
    ∃ e, p.settle = .error e := by
  rw [settle, h]
  exact ⟨_, give_none hk⟩

theorem begin_of_error {j : Key} {value : Option String} {e : UsageError} (h : p.settle = .error e) :
    p.begin j value = .error e := by
  rw [begin, h]
  rfl

theorem long_of_error {e : UsageError} (h : p.settle = .error e) (cs : List Char) : ∃ e, p.long cs = .error e := by
  rw [long]
  split
  · exact ⟨_, rfl⟩
  · split
    · split
      · exact ⟨_, rfl⟩
      · exact ⟨e, begin_of_error h⟩
    · exact ⟨e, begin_of_error h⟩

theorem letters_of_error {e : UsageError} (h : p.settle = .error e) (c : Char) (cs : List Char) :
    ∃ e, p.letters (c :: cs) = .error e := by
  rw [letters]
  split
  · exact ⟨_, rfl⟩
  · rw [begin_of_error h]
    split
    · exact ⟨e, rfl⟩
    · split
      · exact ⟨e, rfl⟩
      · exact ⟨e, begin_of_error h⟩
      · exact ⟨e, begin_of_error h⟩

theorem foldlM_of_onlyPatterns {e : UsageError} (h : p.settle = .error e) (only : p.onlyPatterns = true)
    (rest : List String) : (rest.foldlM word p >>= settle) = .error e := by
  cases rest with
  | nil => exact h
  | cons text rest =>
    rw [List.foldlM_cons, word, if_pos only, pattern, h]
    rfl

/-- A word read where a value should be, and not taken for one, leads to a fault, there or behind it. -/
theorem foldlM_of_waiting {text : String} (hk : k.isSwitch = false) (h : p.pending = some (k, none))
    (only : p.onlyPatterns = false) (dashed : isDashed text = true) (rest : List String) :
    ∃ e, ((text :: rest).foldlM word p >>= settle) = .error e := by
  obtain ⟨e, missing⟩ := settle_of_waiting hk h
  have failed {q : Except UsageError Progress} (hq : ∃ e, q = .error e) :
      ∃ e, ((q >>= fun q => rest.foldlM word q) >>= settle) = .error e := by
    obtain ⟨e, rfl⟩ := hq
    exact ⟨e, rfl⟩
  rw [List.foldlM_cons, word, if_neg (by simp [only])]
  split
  · -- Two dashes are no fault yet; the next pattern, or the end, is.
    obtain ⟨e, missing⟩ := settle_of_waiting (p := { p with onlyPatterns := true }) hk h
    exact ⟨e, foldlM_of_onlyPatterns missing rfl rest⟩
  · exact failed (long_of_error missing _)
  · exact failed (letters_of_error missing _ _)
  · next none_of_these =>
    unfold isDashed at dashed
    split at dashed
    · next c cs letters => exact absurd letters (none_of_these c cs)
    · contradiction

/-- Settings do not come out where one of the values begins with a dash. -/
theorem foldlM_wordsOf_of_dashed {settings : List (Key × String)}
    (ordinary : ∀ s ∈ settings, s.1.isSwitch = false) (dashed : ∃ s ∈ settings, isDashed s.2 = true)
    (hp : p.onlyPatterns = false) :
    ∃ e, ((wordsOf settings).foldlM word p >>= settle) = .error e := by
  induction settings generalizing p with
  | nil => simp at dashed
  | cons s settings ih =>
    have hk := ordinary s List.mem_cons_self
    rw [foldlM_wordsOf_cons hp hk]
    cases hs : p.settle with
    | error e => exact ⟨e, rfl⟩
    | ok r =>
      have only := (settle_fields hs).2.trans hp
      change ∃ e, ((s.2 :: wordsOf settings).foldlM word (r.putOff s.1 none) >>= settle) = .error e
      cases hv : isDashed s.2 with
      | true => exact foldlM_of_waiting (p := r.putOff s.1 none) hk rfl only hv (wordsOf settings)
      | false =>
        rw [List.foldlM_cons, word_awaited only hv]
        exact ih (p := r.putOff s.1 (some s.2)) (fun t ht => ordinary t (List.mem_cons_of_mem _ ht))
          (by simpa [hv] using dashed) only

theorem give_single {text : String} {a : Arguments} (ordinary : k.isSwitch = false) (single : k ≠ .mode)
    (new : k ∉ p.given) (h : k.set p.arguments text = .ok a) :
    p.give k (some text) = .ok { p with arguments := a, given := k :: p.given } := by
  unfold give
  split
  · contradiction
  · contradiction
  · rw [if_neg (by simp [ordinary])]
    change (if _ then _ else _) = _
    rw [if_neg (by simp [new]), valuesIn, if_neg single, List.foldlM_cons, take]
    simp only [h]
    rfl

/-- Settings of one value, each given once, change what their values change. -/
theorem foldlM_give {settings : List (Key × String)} {a : Arguments}
    (single : ∀ s ∈ settings, s.1.isSwitch = false ∧ s.1 ≠ .mode)
    (once : (settings.map (·.1)).Nodup) (fresh : ∀ s ∈ settings, s.1 ∉ p.given)
    (h : settings.foldlM (fun a s => s.1.set a s.2) p.arguments = .ok a) :
    ∃ q, settings.foldlM (fun q s => q.give s.1 (some s.2)) p = .ok q ∧ q.arguments = a := by
  induction settings generalizing p with
  | nil => cases h; exact ⟨p, rfl, rfl⟩
  | cons s settings ih =>
    obtain ⟨ordinary, modes⟩ := single s List.mem_cons_self
    rw [List.foldlM_cons] at h
    cases hs : s.1.set p.arguments s.2 with
    | error e => rw [hs] at h; cases h
    | ok b =>
      rw [hs] at h
      have given := give_single ordinary modes (fresh s List.mem_cons_self) hs
      obtain ⟨q, hq, args⟩ := ih (p := { p with arguments := b, given := s.1 :: p.given })
        (fun t ht => single t (List.mem_cons_of_mem _ ht)) (List.nodup_cons.mp once).2
        (fun t ht => by
          have other : t.1 ≠ s.1 := fun same => (List.nodup_cons.mp once).1 (List.mem_map.mpr ⟨t, ht, same⟩)
          simpa [other] using fresh t (List.mem_cons_of_mem _ ht)) h
      exact ⟨q, by rw [List.foldlM_cons, given]; exact hq, args⟩

end Progress

end CommandLine

end Microbench
