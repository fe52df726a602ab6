import Microbench.Call
import Microbench.Failure

/-!
Sinks take the events of a run one at a time. A sink is a function on a state of its own, so what
it shows is what its state has become; it may refuse an event, which is a failure of the run.
-/

namespace Microbench

abbrev Sink (σ : Type) := Event → σ → Except Failure Unit × σ

namespace Sink

def silent {σ : Type} : Sink σ := fun _ s => (.ok (), s)

/-- Keeps everything it is told, in order. -/
def recording : Sink (Array Event) := fun e log => (.ok (), log.push e)

end Sink

namespace Event

def lines (events : List Event) : List String :=
  events.filterMap fun
    | .call (.println line) => some line
    | _ => none

def exceptions (events : List Event) : List String :=
  events.filterMap fun
    | .call (.exception message) => some message
    | _ => none

end Event

end Microbench
