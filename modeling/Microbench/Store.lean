import Microbench.Descriptor
import Microbench.Run

/-!
The results of one invocation, one merged run per descriptor, in the order of descriptors.
-/

namespace Microbench

structure Store where
  entries : Std.ExtTreeMap Descriptor Run
  deriving DecidableEq

namespace Store

def empty : Store := ⟨∅⟩

instance : Inhabited Store := ⟨empty⟩

/-- A store of these entries; of two for one descriptor the later one stays. -/
def ofList (entries : List (Descriptor × Run)) : Store := ⟨Std.ExtTreeMap.ofList entries⟩

/-- Merge a run into the entry of its descriptor. -/
def merge (s : Store) (d : Descriptor) (run : Run) : Store where
  entries := s.entries.alter d fun
    | some earlier => some (earlier.merge run)
    | none => some run

def get? (s : Store) (d : Descriptor) : Option Run := s.entries[d]?

def contributions (s : Store) (d : Descriptor) : UInt32 :=
  match s.get? d with
  | some run => run.contributions
  | none => 0

def size (s : Store) : Nat := s.entries.size

def isEmpty (s : Store) : Bool := s.entries.isEmpty

def toList (s : Store) : List (Descriptor × Run) := s.entries.toList

@[simp] theorem get?_empty (d : Descriptor) : empty.get? d = none := by simp [get?, empty]

theorem get?_merge (s : Store) (d e : Descriptor) (run : Run) :
    (s.merge d run).get? e =
      if d = e then some (match s.get? d with | some r => r.merge run | none => run)
      else s.get? e := by
  simp only [get?, merge, Std.ExtTreeMap.getElem?_alter, Std.LawfulEqOrd.compare_eq_iff_eq]
  split
  · split <;> simp_all
  · rfl

end Store

end Microbench
