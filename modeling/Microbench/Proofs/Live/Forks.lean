import Microbench.Proofs.ForkOrder
import Microbench.Proofs.Live.Refinement

/-!
The workers of a run among which it goes on. Each is started when the workers before it are gone and nothing is
left to do for them; so what is known of a run with nobody else around is known of every run.
-/

namespace Microbench

open Std Link

variable {σ : Type}

namespace World.Agrees

variable {w v : World σ}

theorem merged (agrees : w.Agrees v) : w.merged = v.merged :=
  agrees.filterMap fun a noise => by cases a <;> first | rfl | contradiction

theorem launched (agrees : w.Agrees v) :
    w.trace.toList.filterMap Action.launched? = v.trace.toList.filterMap Action.launched? :=
  agrees.filterMap fun a noise => by cases a <;> first | rfl | contradiction

end World.Agrees

namespace Harness

variable (h : Harness σ) (plan : Plan)

attribute [local instance] PatternEngine.plain

end Harness

end Microbench
