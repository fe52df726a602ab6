import Microbench.Wire.Utf8

/-!
Readers of bytes. A reader starts at a position and answers with a value and the position behind
it, or with the reason why there is none. `Reader.At r x bytes` says that `r` reads `x` from
`bytes` wherever they stand; sequencing readers concatenates what they read.
-/

namespace Microbench.Wire

inductive WireError where
  | endOfInput
  | endOfText
  | invalidText (fault : Utf8Fault)
  | invalidBool (found : UInt8)
  | invalidOption (found : UInt8)
  | invalidVariant (found : UInt32) (variants : Nat)
  | durationOverflow
  deriving DecidableEq, Repr

def WireError.message : WireError → String
  | endOfInput => "io error: unexpected end of file"
  | endOfText => "io error: "
  | invalidText fault => "string is not valid utf8: " ++ fault.text
  | invalidBool found => s!"invalid u8 while decoding bool, expected 0 or 1, found {found}"
  | invalidOption found => s!"tag for enum is not valid, found {found}"
  | invalidVariant found variants =>
    "invalid value: integer \x60" ++ toString found ++ "\x60, expected variant index 0 <= i < "
      ++ toString variants
  | durationOverflow => "overflow deserializing Duration"

/-- Reads a value at a position; the position behind it comes with it. -/
abbrev Reader (α : Type) := ByteArray → Nat → Except WireError (α × Nat)

namespace Reader

variable {α β : Type}

def pure (x : α) : Reader α := fun _ i => .ok (x, i)

def fail (e : WireError) : Reader α := fun _ _ => .error e

def andThen (r : Reader α) (f : α → Reader β) : Reader β := fun bytes i =>
  match r bytes i with
  | .error e => .error e
  | .ok (x, j) => f x bytes j

def map (f : α → β) (r : Reader α) : Reader β := r.andThen fun x => pure (f x)

/-- The value of `bytes` at `i … i + width`, lowest byte first. -/
def littleEndian (bytes : ByteArray) (i : Nat) : Nat → Nat
  | 0 => 0
  | width + 1 => (bytes[i]?.getD 0).toNat + 256 * littleEndian bytes (i + 1) width

def number (width : Nat) : Reader Nat := fun bytes i =>
  if i + width ≤ bytes.size then .ok (littleEndian bytes i width, i + width)
  else .error .endOfInput

def take (n : Nat) (missing : WireError) : Reader ByteArray := fun bytes i =>
  if i + n ≤ bytes.size then .ok (bytes.extract i (i + n), i + n) else .error missing

def repeatInto (r : Reader α) : Nat → Array α → Reader (Array α)
  | 0, out => pure out
  | n + 1, out => r.andThen fun x => repeatInto r n (out.push x)

def times (n : Nat) (r : Reader α) : Reader (List α) := (repeatInto r n #[]).map Array.toList

/-- `r` reads `x` from `bytes`, whatever stands before and behind them. -/
def At (r : Reader α) (x : α) (bytes : ByteArray) : Prop :=
  ∀ before behind : ByteArray,
    r (before ++ bytes ++ behind) before.size = .ok (x, before.size + bytes.size)

theorem At.pure (x : α) : (Reader.pure x).At x .empty := by
  intro before behind; simp [Reader.pure]

theorem At.andThen {r : Reader α} {f : α → Reader β} {x : α} {y : β} {bs cs : ByteArray}
    (first : r.At x bs) (second : (f x).At y cs) : (r.andThen f).At y (bs ++ cs) := by
  intro before behind
  have h₁ := first before (cs ++ behind)
  have h₂ := second (before ++ bs) behind
  simp only [ByteArray.append_assoc, ByteArray.size_append] at h₁ h₂ ⊢
  simp [Reader.andThen, h₁, h₂, Nat.add_assoc]

theorem At.then_pure {r : Reader α} {f : α → Reader β} {x : α} {y : β} {bs : ByteArray}
    (first : r.At x bs) (second : f x = Reader.pure y) : (r.andThen f).At y bs := by
  have := first.andThen (f := f) (second ▸ At.pure y)
  simpa using this

theorem At.map {r : Reader α} {x : α} {bs : ByteArray} (f : α → β) (h : r.At x bs) :
    (r.map f).At (f x) bs := h.then_pure rfl

theorem At.take (bs : ByteArray) (missing : WireError) : (Reader.take bs.size missing).At bs bs := by
  intro before behind
  have fits : before.size + bs.size ≤ (before ++ bs ++ behind).size := by
    simp only [ByteArray.size_append]; omega
  simp only [Reader.take, fits, if_true]
  congr 2
  have nothing : before.extract before.size (before.size + bs.size) = .empty := by
    apply ByteArray.ext; simp
  simp [ByteArray.append_assoc, ByteArray.extract_append, nothing]

end Reader

def concat {α : Type} (encode : α → ByteArray) (xs : List α) : ByteArray :=
  xs.foldl (fun out x => out ++ encode x) .empty

theorem foldl_append_eq {α : Type} (encode : α → ByteArray) (xs : List α) (start : ByteArray) :
    xs.foldl (fun out x => out ++ encode x) start = start ++ concat encode xs := by
  induction xs generalizing start with
  | nil => simp [concat]
  | cons x xs ih =>
    simp only [concat, List.foldl_cons] at ih ⊢
    rw [ih, ih (.empty ++ encode x)]
    simp [ByteArray.append_assoc]

@[simp] theorem concat_nil {α : Type} (encode : α → ByteArray) :
    concat encode [] = .empty := rfl

@[simp] theorem concat_cons {α : Type} (encode : α → ByteArray) (x : α) (xs : List α) :
    concat encode (x :: xs) = encode x ++ concat encode xs := by
  simp only [concat, List.foldl_cons, ByteArray.empty_append]
  exact foldl_append_eq encode xs (encode x)

theorem size_le_concat {α : Type} (encode : α → ByteArray) {x : α} {xs : List α} (h : x ∈ xs) :
    (encode x).size ≤ (concat encode xs).size := by
  induction xs with
  | nil => simp at h
  | cons y ys ih =>
    rcases List.mem_cons.1 h with rfl | h
    · simp
    · have := ih h; simp only [concat_cons, ByteArray.size_append]; omega

namespace Reader

variable {α β : Type}

theorem At.repeatInto {r : Reader α} {encode : α → ByteArray} (xs : List α)
    (each : ∀ x ∈ xs, r.At x (encode x)) (out : Array α) :
    (Reader.repeatInto r xs.length out).At (out ++ xs.toArray) (concat encode xs) := by
  induction xs generalizing out with
  | nil => simpa [Reader.repeatInto] using At.pure out
  | cons x xs ih =>
    have rest := ih (fun y hy => each y (List.mem_cons_of_mem _ hy)) (out.push x)
    have := At.andThen (f := fun x => Reader.repeatInto r xs.length (out.push x))
      (each x List.mem_cons_self) rest
    simpa [Reader.repeatInto] using this

theorem At.times {r : Reader α} {encode : α → ByteArray} (xs : List α)
    (each : ∀ x ∈ xs, r.At x (encode x)) :
    (Reader.times xs.length r).At xs (concat encode xs) := by
  have := At.map Array.toList (At.repeatInto xs each #[])
  simpa [Reader.times] using this

end Reader

end Microbench.Wire
