import Microbench.Decimal.Fixed
import Microbench.Distribution
import Microbench.TimeUnit

/-!
Scores with a unit, kept as the raw counts and nanoseconds they are derived from. Counts and times
are added first and divided once, when the score is asked for, so combining values never compounds
rounding and a short run weighs no more than its share.
-/

namespace Microbench

inductive Measurement where
  | throughput (operations duration : UInt64)
  | averageTime (operations duration : UInt64)
  | sampleTime (samples : Distribution)
  | singleShot (invocations duration : UInt64)
  deriving DecidableEq, Inhabited

namespace Measurement

def sameKind : Measurement → Measurement → Bool
  | throughput .., throughput .. => true
  | averageTime .., averageTime .. => true
  | sampleTime .., sampleTime .. => true
  | singleShot .., singleShot .. => true
  | _, _ => false

/-- Raw counts and times added up; a measurement of another kind adds nothing. -/
def add : Measurement → Measurement → Measurement
  | throughput n t, throughput n' t' => throughput (satAdd n n') (satAdd t t')
  | averageTime n t, averageTime n' t' => averageTime (satAdd n n') (satAdd t t')
  | sampleTime s, sampleTime s' => sampleTime (s.merge s')
  | singleShot n t, singleShot n' t' => singleShot (satAdd n n') (satAdd t t')
  | m, _ => m

end Measurement

structure Value where
  label : String
  unit : TimeUnit
  measurement : Measurement
  deriving DecidableEq, Inhabited

namespace Value

/-- The score in the value's unit. It is undefined for a rate over no time and for a time per
operation over no operations. -/
def score (v : Value) : Option Binary64 :=
  let unit := Binary64.ofCount v.unit.nanos
  match v.measurement with
  | .throughput n t =>
    if t = 0 then none else some (.ofCount n * (unit / .ofCount t))
  | .averageTime n t | .singleShot n t =>
    if n = 0 then none else some (Binary64.ofCount t / unit / .ofCount n)
  | .sampleTime s =>
    if s.isEmpty then none else some (Binary64.ofCount s.total / .ofCount s.count / unit)

def scoreUnit (v : Value) : String :=
  match v.measurement with
  | .throughput .. => "ops/" ++ v.unit.suffix
  | _ => v.unit.suffix ++ "/op"

def scoreText (v : Value) : String := (v.score.map (·.fixed 3)).getD "undefined"

def text (v : Value) : String := v.scoreText ++ " " ++ v.scoreUnit

/-- The value over both inputs; one of another kind changes nothing. -/
def merge (a b : Value) : Value := { a with measurement := a.measurement.add b.measurement }

/-- All iterations, or all runs, of a benchmark in one value. -/
def ofRuns : List Value → Option Value
  | [] => none
  | first :: rest => some (rest.foldl merge first)

def mean (total n : Nat) : Nat := (total + n / 2) / n

/-- The values of the kind of the first one. -/
def kept (first : Value) (rest : List Value) : List Value :=
  (first :: rest).filter (·.measurement.sameKind first.measurement)

def addRate : UInt64 × Nat → Value → UInt64 × Nat
  | (operations, total), ⟨_, _, .throughput n t⟩ => (satAdd operations n, total + t.toNat)
  | sum, _ => sum

/-- The threads of one iteration in one value. Threads run side by side, so a throughput has the
operations of all of them over their mean time; other kinds add counts and times. Values of
another kind than the first are left out. -/
def ofThreads : List Value → Option Value
  | [] => none
  | first :: rest =>
    let same := kept first rest
    let measurement := match first.measurement with
      | .throughput .. =>
        let (operations, total) := same.foldl addRate (0, 0)
        .throughput operations (UInt64.ofNat (min (mean total same.length) (1 <<< 64 - 1)))
      | _ => (same.drop 1).foldl (fun sum v => sum.add v.measurement) first.measurement
    some { first with measurement }

def shownQuantiles : List Binary64 :=
  [⟨0⟩, ⟨0x3fe0000000000000⟩, ⟨0x3feccccccccccccd⟩, ⟨0x3fefae147ae147ae⟩, ⟨0x3ff0000000000000⟩]

def quantileLines (v : Value) (h : Histogram) : String :=
  String.join <| shownQuantiles.map fun q =>
    let percent := (q * Binary64.ofCount 100).fixed 2
    let time := (Binary64.ofCount (h.valueAt q) / Binary64.ofCount v.unit.nanos).fixed 3
    "\n        p(" ++ padLeft 6 percent ++ ") = " ++ padLeft 12 time ++ " " ++ v.scoreUnit

def summary (v : Value) (title : Option String) : String :=
  let heading := match title with
    | some t => "Result \"" ++ t ++ "\": "
    | none => "Result: "
  let quantiles := match v.measurement with
    | .sampleTime s => match s.histogram? with
      | some h => s!"\n  Samples, N = {s.count}" ++ v.quantileLines h
      | none => ""
    | _ => ""
  heading ++ v.text ++ quantiles

end Value

end Microbench
