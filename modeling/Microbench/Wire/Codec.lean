import Microbench.Binary64
import Microbench.Wire.Reader

/-!
Codecs: a way to write values of a type and to read them back. A codec carries its law, that its
reader takes exactly what was written for a value, whatever stands around it; lengths are words of
64 bits, so the law is for encodings shorter than that. Products, lists, optional values and
changes of representation pass the law on.

Numbers have a fixed width, lowest byte first; texts and lists are preceded by their length; an
optional value is preceded by a byte, 0 for an absent one; an alternative by its place, 32 bits.
-/

namespace Microbench.Wire

/-- The lowest `width` bytes of `n`, lowest first. -/
def littleBytes : Nat → Nat → List UInt8
  | 0, _ => []
  | width + 1, n => UInt8.ofNat n :: littleBytes width (n / 256)

def little (width n : Nat) : ByteArray := ⟨(littleBytes width n).toArray⟩

theorem length_littleBytes (width n : Nat) : (littleBytes width n).length = width := by
  induction width generalizing n with
  | zero => rfl
  | succ width ih => simp [littleBytes, ih]

@[simp] theorem size_little (width n : Nat) : (little width n).size = width := by
  simp [little, ByteArray.size, length_littleBytes]

theorem getElem?_eq_data (b : ByteArray) (i : Nat) : b[i]? = b.data[i]? := by
  by_cases h : i < b.size
  · have h' : i < b.data.size := h
    rw [getElem?_pos b i h, getElem?_pos b.data i h']; rfl
  · have h' : ¬ i < b.data.size := h
    rw [getElem?_neg b i h, getElem?_neg b.data i h']

theorem littleEndian_little (width : Nat) : ∀ (n : Nat) (before behind : List UInt8),
    n < 1 <<< (8 * width) →
    Reader.littleEndian ⟨(before ++ littleBytes width n ++ behind).toArray⟩ before.length width = n := by
  induction width with
  | zero => intro n before behind h; simp [Reader.littleEndian]; omega
  | succ width ih =>
    intro n before behind h
    have rest := ih (n / 256) (before ++ [UInt8.ofNat n]) behind (by
      rw [Nat.mul_succ, Nat.shiftLeft_add] at h; simp only [Nat.shiftLeft_eq] at h ⊢; omega)
    simp only [List.length_append, List.length_singleton, List.append_assoc, List.singleton_append]
      at rest
    have first : (⟨(before ++ littleBytes (width + 1) n ++ behind).toArray⟩ : ByteArray)[before.length]? =
        some (UInt8.ofNat n) := by
      simp [littleBytes, getElem?_eq_data]
    have shape : before ++ UInt8.ofNat n :: littleBytes width (n / 256) ++ behind =
        before ++ (UInt8.ofNat n :: littleBytes width (n / 256) ++ behind) := by simp
    rw [← shape] at rest
    rw [Reader.littleEndian, first, littleBytes, rest]
    simp only [Option.getD_some, UInt8.toNat_ofNat']
    omega

namespace Reader

theorem At.number (width n : Nat) (h : n < 1 <<< (8 * width)) :
    (Reader.number width).At n (little width n) := by
  intro before behind
  have fits : before.size + width ≤ (before ++ little width n ++ behind).size := by
    simp only [ByteArray.size_append, size_little]; omega
  have value := littleEndian_little width n before.data.toList behind.data.toList h
  have shape : (⟨(before.data.toList ++ littleBytes width n ++ behind.data.toList).toArray⟩ : ByteArray) =
      before ++ little width n ++ behind := by
    apply ByteArray.ext; simp [little, ByteArray.data_append]
  rw [shape] at value
  simp only [Reader.number, fits, if_true, size_little]
  have : before.data.toList.length = before.size := Array.length_toList
  rw [this] at value
  rw [value]

end Reader

/-- A way to write values. Nothing is written as no bytes, so a list is no longer than its encoding. -/
structure Codec (α : Type) where
  encode : α → ByteArray
  read : Reader α
  reads : ∀ x, (encode x).size < 1 <<< 64 → read.At x (encode x)
  size_pos : ∀ x, 0 < (encode x).size

namespace Codec

variable {α β : Type}

/-- The value at the start of `bytes`; what stands behind it is not looked at. -/
def decode (c : Codec α) (bytes : ByteArray) : Except WireError α := (c.read bytes 0).map (·.1)

theorem decode_encode (c : Codec α) (x : α) (behind : ByteArray) (h : (c.encode x).size < 1 <<< 64) :
    c.decode (c.encode x ++ behind) = .ok x := by
  have := c.reads x h .empty behind
  simp only [ByteArray.empty_append, ByteArray.size_empty] at this
  simp [decode, this, Except.map]

/-- The same bytes for another type; `pack` undoes `unpack`. -/
def imap (c : Codec α) (pack : α → β) (unpack : β → α) (pack_unpack : ∀ y, pack (unpack y) = y) :
    Codec β where
  encode y := c.encode (unpack y)
  read := c.read.map pack
  reads y h := by simpa [pack_unpack y] using (c.reads (unpack y) h).map pack
  size_pos y := c.size_pos (unpack y)

def pair (c : Codec α) (d : Codec β) : Codec (α × β) where
  encode x := c.encode x.1 ++ d.encode x.2
  read := c.read.andThen fun a => d.read.map fun b => (a, b)
  reads x h := by
    simp only [ByteArray.size_append] at h
    exact (c.reads x.1 (by omega)).andThen ((d.reads x.2 (by omega)).map _)
  size_pos x := by have := c.size_pos x.1; simp only [ByteArray.size_append]; omega

def u8 : Codec UInt8 where
  encode x := little 1 x.toNat
  read := (Reader.number 1).map UInt8.ofNat
  reads x _ := by simpa using (Reader.At.number 1 x.toNat x.toNat_lt).map UInt8.ofNat
  size_pos _ := by simp

def u32 : Codec UInt32 where
  encode x := little 4 x.toNat
  read := (Reader.number 4).map UInt32.ofNat
  reads x _ := by simpa using (Reader.At.number 4 x.toNat x.toNat_lt).map UInt32.ofNat
  size_pos _ := by simp

def u64 : Codec UInt64 where
  encode x := little 8 x.toNat
  read := (Reader.number 8).map UInt64.ofNat
  reads x _ := by simpa using (Reader.At.number 8 x.toNat x.toNat_lt).map UInt64.ofNat
  size_pos _ := by simp

def double : Codec Binary64 := u64.imap Binary64.mk Binary64.bits fun _ => rfl

def boolCase : Nat → Reader Bool
  | 0 => .pure false
  | 1 => .pure true
  | n => .fail (.invalidBool (UInt8.ofNat n))

def bool : Codec Bool where
  encode x := little 1 x.toNat
  read := (Reader.number 1).andThen boolCase
  reads x _ := (Reader.At.number 1 x.toNat (by cases x <;> decide)).then_pure (by cases x <;> rfl)
  size_pos _ := by simp

def sized (missing : WireError) : Codec ByteArray where
  encode x := little 8 x.size ++ x
  read := (Reader.number 8).andThen fun n => .take n missing
  reads x h := by
    simp only [ByteArray.size_append] at h
    exact (Reader.At.number 8 x.size (by omega)).andThen (f := fun n => .take n missing) (.take x missing)
  size_pos _ := by simp only [ByteArray.size_append, size_little]; omega

def bytes : Codec ByteArray := sized .endOfInput

def textOf (b : ByteArray) : Reader String :=
  if h : b.IsValidUTF8 then .pure (String.ofByteArray b h) else .fail (.invalidText (.of b))

def text : Codec String where
  encode x := (sized .endOfText).encode x.toByteArray
  read := (sized .endOfText).read.andThen textOf
  reads x h := ((sized .endOfText).reads x.toByteArray h).then_pure
    (by simp [textOf, x.isValidUTF8])
  size_pos x := (sized .endOfText).size_pos x.toByteArray

theorem length_le_concat (c : Codec α) (xs : List α) : xs.length ≤ (concat c.encode xs).size := by
  induction xs with
  | nil => simp
  | cons x xs ih =>
    have := c.size_pos x
    simp only [List.length_cons, concat_cons, ByteArray.size_append]; omega

def list (c : Codec α) : Codec (List α) where
  encode xs := xs.foldl (fun out x => out ++ c.encode x) (little 8 xs.length)
  read := (Reader.number 8).andThen fun n => .times n c.read
  reads xs h := by
    rw [foldl_append_eq] at h ⊢
    simp only [ByteArray.size_append] at h
    have := c.length_le_concat xs
    exact (Reader.At.number 8 xs.length (by omega)).andThen (f := fun n => .times n c.read)
      (Reader.At.times xs fun x hx => c.reads x (by have := size_le_concat c.encode hx; omega))
  size_pos xs := by rw [foldl_append_eq]; simp only [ByteArray.size_append, size_little]; omega

def optionCase (c : Codec α) : Nat → Reader (Option α)
  | 0 => .pure none
  | 1 => c.read.map some
  | n => .fail (.invalidOption (UInt8.ofNat n))

def option (c : Codec α) : Codec (Option α) where
  encode
    | none => little 1 0
    | some x => little 1 1 ++ c.encode x
  read := (Reader.number 1).andThen c.optionCase
  reads
    | none, _ => (Reader.At.number 1 0 (by decide)).then_pure rfl
    | some x, h => by
      simp only [ByteArray.size_append] at h
      exact (Reader.At.number 1 1 (by decide)).andThen (f := c.optionCase)
        ((c.reads x (by omega)).map some)
  size_pos
    | none => by simp
    | some x => by simp only [ByteArray.size_append, size_little]; omega

/-- The alternative at place `n` of a list. -/
def variantCase (all : List α) (n : Nat) : Reader α :=
  match all[n]? with
  | some x => .pure x
  | none => .fail (.invalidVariant (UInt32.ofNat n) all.length)

def variant [DecidableEq α] (all : List α) (complete : ∀ x, x ∈ all) (few : all.length < 1 <<< 32) :
    Codec α where
  encode x := little 4 (all.idxOf x)
  read := (Reader.number 4).andThen (variantCase all)
  reads x _ := by
    have place := List.idxOf_lt_length_of_mem (complete x)
    exact (Reader.At.number 4 (all.idxOf x) (by omega)).then_pure
      (by simp [variantCase, List.getElem?_eq_getElem place])
  size_pos _ := by simp

end Codec

end Microbench.Wire
