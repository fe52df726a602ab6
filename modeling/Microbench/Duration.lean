import Microbench.Decimal.Fixed

/-!
Lengths of time: whole seconds and nanoseconds below one second. `Duration.text` chooses the
largest unit below a minute and compound minutes and hours from there on.
-/

namespace Microbench

structure Duration where
  seconds : UInt64
  nanos : UInt32
  nanos_lt : nanos.toNat < 1000000000
  deriving DecidableEq, Repr

namespace Duration

def zero : Duration := ⟨0, 0, by decide⟩

instance : Inhabited Duration := ⟨zero⟩

def ofSeconds (seconds : UInt64) : Duration := ⟨seconds, 0, by decide⟩

def nanosOf (seconds : UInt64) (nanos : UInt32) : Nat := seconds.toNat * 1000000000 + nanos.toNat

def totalNanos (d : Duration) : Nat := nanosOf d.seconds d.nanos

def isZero (d : Duration) : Bool := d.totalNanos == 0

def ofNanos? (nanos : Nat) : Option Duration :=
  if nanos / 1000000000 < 1 <<< 64 then
    some ⟨UInt64.ofNat (nanos / 1000000000), UInt32.ofNat (nanos % 1000000000), by
      have : nanos % 1000000000 < 1000000000 := Nat.mod_lt _ (by decide)
      simp only [UInt32.toNat_ofNat']
      omega⟩
  else none

theorem ofNanos?_totalNanos (d : Duration) : ofNanos? d.totalNanos = some d := by
  have h := d.nanos_lt
  have h' := d.seconds.toNat_lt
  have q : d.totalNanos / 1000000000 = d.seconds.toNat := by unfold totalNanos nanosOf; omega
  have r : d.totalNanos % 1000000000 = d.nanos.toNat := by unfold totalNanos nanosOf; omega
  unfold ofNanos?
  rw [if_pos (by omega)]
  congr 1
  cases d
  simp_all

/-- `nanos` divided as doubles by the length of a unit, with two decimals. -/
private def inUnit (nanos unit : Nat) (suffix : String) : String :=
  ((Binary64.ofCount (.ofNat nanos)) / (Binary64.ofCount (.ofNat unit))).fixed 2 ++ suffix

/-- Text for people: two decimals below a minute, whole seconds in compound form above. -/
def text (d : Duration) : String :=
  let nanos := d.totalNanos
  if nanos < 1000 then s!"{nanos}ns"
  else if nanos < 1000000 then inUnit nanos 1000 "μs"
  else if nanos < 1000000000 then inUnit nanos 1000000 "ms"
  else if nanos < 60000000000 then inUnit nanos 1000000000 "s"
  else
    let seconds := d.seconds.toNat % 60
    let minutes := d.seconds.toNat / 60
    if minutes < 60 then s!"{minutes}m {seconds}s"
    else s!"{minutes / 60}h {minutes % 60}m {seconds}s"

end Duration

end Microbench
