/-!
Units a score is given in, from nanoseconds to days.
-/

namespace Microbench

inductive TimeUnit where
  | nanoseconds
  | microseconds
  | milliseconds
  | seconds
  | minutes
  | hours
  | days
  deriving DecidableEq, Repr, Inhabited

namespace TimeUnit

def all : List TimeUnit :=
  [nanoseconds, microseconds, milliseconds, seconds, minutes, hours, days]

def nanos : TimeUnit → UInt64
  | nanoseconds => 1
  | microseconds => 1000
  | milliseconds => 1000000
  | seconds => 1000000000
  | minutes => 60 * 1000000000
  | hours => 3600 * 1000000000
  | days => 86400 * 1000000000

/-- Short name, as written in score units and on the command line. -/
def suffix : TimeUnit → String
  | nanoseconds => "ns"
  | microseconds => "us"
  | milliseconds => "ms"
  | seconds => "s"
  | minutes => "min"
  | hours => "hr"
  | days => "day"

/-- A unit is divided by in every score, so it is never empty. -/
theorem nanos_pos (unit : TimeUnit) : 0 < unit.nanos := by cases unit <;> decide

theorem suffix_inj (a b : TimeUnit) (h : a.suffix = b.suffix) : a = b := by
  cases a <;> cases b <;> first | rfl | (revert h; decide)

end TimeUnit

end Microbench
