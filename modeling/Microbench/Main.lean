import Microbench.Program

/-!
The executable. It runs benchmarks in its own process; it has no network and starts no workers.
-/

open Microbench

/-- Why a path cannot be written to, found out by opening it. -/
def openFailure (path : String) : IO (Option String) := do
  try
    let _ ← IO.FS.Handle.mk path .append
    return none
  catch e => return some (toString e)

def namedPaths (words : List String) : List String :=
  match CommandLine.parse words with
  | .ok a => a.options.output.toList ++ a.options.resultFile.toList
  | .error _ => []

def main (words : List String) : IO UInt32 := do
  let failures ← (namedPaths words).mapM fun path => do return (path, ← openFailure path)
  let outcome := Program.run {
    network := fun _ _ => .error "Network is unreachable (os error 101)"
    listen := .ok 1
    launcher := fun _ _ _ => .unresolvable
    reply := []
    clocks := TimedLoop.Clocks.steady
    metadata := ⟨⟨← IO.rand 0 (1 <<< 128 - 1)⟩, ⟨0, 0⟩, ⟨0, 0⟩, ⟨"linux", "x86_64", 1, none, "1.70"⟩⟩
    refused := fun path => (failures.lookup path).join
    coloured := false } words
  for (path, content) in outcome.files do IO.FS.writeBinFile path content
  (← IO.getStdout).write outcome.output
  IO.eprint outcome.messages
  return UInt32.ofNat outcome.code
