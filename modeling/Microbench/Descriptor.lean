import Std.Data.ExtTreeMap

/-!
Identity of a runnable unit: a benchmark's name, the mode it is measured in and its number of
threads. Descriptors are ordered by name, then mode, then threads.
-/

namespace Microbench

inductive Mode where
  | throughput
  | averageTime
  | sampleTime
  | singleShot
  | all
  deriving DecidableEq, Repr, Inhabited

namespace Mode

/-- The modes that can be run, in scheduling order. -/
def concrete : List Mode := [throughput, averageTime, sampleTime, singleShot]

def label : Mode → String
  | throughput => "thrpt"
  | averageTime => "avgt"
  | sampleTime => "sample"
  | singleShot => "ss"
  | all => "all"

def longLabel : Mode → String
  | throughput => "Throughput, ops/time"
  | averageTime => "Average time, time/op"
  | sampleTime => "Sampling time"
  | singleShot => "Single shot invocation time"
  | all => "All benchmark modes"

def rank (m : Mode) : Nat := m.ctorIdx

def expand : Mode → List Mode
  | all => concrete
  | m => [m]

theorem rank_inj {a b : Mode} (h : a.rank = b.rank) : a = b := by
  cases a <;> cases b <;> first | rfl | (revert h; decide)

theorem label_inj {a b : Mode} (h : a.label = b.label) : a = b := by
  cases a <;> cases b <;> first | rfl | (revert h; decide)

theorem all_notMem_expand (m : Mode) : all ∉ m.expand := by cases m <;> decide

end Mode

structure Descriptor where
  name : String
  mode : Mode
  threads : UInt32
  deriving DecidableEq, Repr, Inhabited

namespace Descriptor

def new (name : String) (mode : Mode) (threads : UInt32) : Descriptor :=
  ⟨name, mode, if threads = 0 then 1 else threads⟩

def withMode (d : Descriptor) (mode : Mode) : Descriptor := new d.name mode d.threads
def withThreads (d : Descriptor) (threads : UInt32) : Descriptor := new d.name d.mode threads

def text (d : Descriptor) : String := d.name ++ " (" ++ d.mode.label ++ ")"

/-- One descriptor per concrete mode; a concrete one comes back as it is. -/
def expand (d : Descriptor) : List Descriptor :=
  match d.mode with
  | .all => Mode.concrete.map d.withMode
  | _ => [d]

/-- One descriptor per requested mode, or per mode of its own if none is requested. -/
def expandWithModes (d : Descriptor) (modes : List Mode) : List Descriptor :=
  if modes.isEmpty then d.expand else modes.flatMap fun mode => (d.withMode mode).expand

instance : Ord Descriptor :=
  ⟨compareLex (compareOn name) (compareLex (compareOn (·.mode.rank)) (compareOn threads))⟩

instance : Std.TransOrd Descriptor :=
  inferInstanceAs (Std.TransCmp
    (compareLex (compareOn name) (compareLex (compareOn (·.mode.rank)) (compareOn threads))))

instance : Std.LawfulEqOrd Descriptor where
  eq_of_compare {a b} h := by
    have h : compareLex (compareOn name) (compareLex (compareOn (·.mode.rank)) (compareOn threads))
        a b = .eq := h
    simp only [compareLex_eq_eq, compareOn, Std.LawfulEqOrd.compare_eq_iff_eq] at h
    cases a; cases b
    have := Mode.rank_inj h.2.1
    simp_all

end Descriptor

end Microbench
