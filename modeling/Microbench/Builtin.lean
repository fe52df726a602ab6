import Microbench.Registry

/-!
The benchmarks that come with the program. Their bodies differ in how long they take, which is no
part of their result; one of them refuses to be measured.
-/

namespace Microbench.Builtin

def busy : Workload := fun _ => .done

/-- Runs while it is warmed up and fails when it is measured. -/
def failing : Workload := fun i =>
  match i.kind with
  | .warmup => .done
  | .measurement =>
    .failed (.other s!"failing benchmark refused to run iteration {i.iteration}")

def definitions : List Definition := [
  { name := "baseline", workload := busy },
  { name := "cpu_burn_small", workload := busy },
  { name := "cpu_burn_big", mode := .averageTime, unit := some .nanoseconds, workload := busy },
  { name := "hash_64b", workload := busy },
  { name := "hash_4k", mode := .sampleTime, unit := some .nanoseconds, workload := busy },
  { name := "sleep_1ms", mode := .singleShot, unit := some .milliseconds, workload := busy },
  { name := "contended_hash", threads := 2, workload := busy },
  { name := "failing", workload := failing }]

def registry : Except Failure Registry := Registry.ofList definitions

end Microbench.Builtin
