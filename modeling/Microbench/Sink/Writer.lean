/-!
Bytes on their way out. Small writes are held back until there are more than fit into memory set
aside for them; a writer without such memory hands everything on at once. What was handed on and
what is held back are, together, always all that was put in (`Writer.all_put`).
-/

namespace Microbench

structure Writer where
  capacity : Nat := 0
  written : ByteArray := .empty
  pending : ByteArray := .empty

namespace Writer

def fileCapacity : Nat := 8192

def all (w : Writer) : ByteArray := w.written ++ w.pending

def flush (w : Writer) : Writer := { w with written := w.written ++ w.pending, pending := .empty }

def makeRoom (w : Writer) (piece : ByteArray) : Writer :=
  if w.pending.size + piece.size > w.capacity then w.flush else w

/-- A piece that would fill the memory is handed on at once. -/
def put (w : Writer) (piece : ByteArray) : Writer :=
  if w.capacity ≤ piece.size then
    let w := w.flush
    { w with written := w.written ++ piece }
  else
    let w := w.makeRoom piece
    { w with pending := w.pending ++ piece }

@[simp] theorem all_flush (w : Writer) : w.flush.all = w.all := by simp [flush, all]

@[simp] theorem all_makeRoom (w : Writer) (piece : ByteArray) : (w.makeRoom piece).all = w.all := by
  unfold makeRoom; split <;> simp

@[simp] theorem all_put (w : Writer) (piece : ByteArray) : (w.put piece).all = w.all ++ piece := by
  unfold put
  split
  · simp [flush, all]
  · have := w.all_makeRoom piece
    simp only [all, ← ByteArray.append_assoc] at this ⊢
    rw [this]

end Writer

end Microbench
