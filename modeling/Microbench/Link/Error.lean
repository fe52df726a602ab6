import Microbench.Wire.Reader

/-!
What can go wrong between a worker and its parent.
-/

namespace Microbench

def Link.maxFrame : Nat := 16 * 1024 * 1024

inductive LinkError where
  | io (reason : String)
  | decode (error : Wire.WireError)
  | frameTooLarge (size : Nat)
  | unexpectedFrame (expected actual : String)
  | disconnected
  deriving DecidableEq, Repr

namespace LinkError

def message : LinkError → String
  | io reason => "Link I/O error: " ++ reason
  | decode error => "Failed to decode frame: " ++ error.message
  | frameTooLarge size => s!"Frame too large: {size} bytes"
  | unexpectedFrame expected actual =>
    "Unexpected frame: expected " ++ expected ++ ", got " ++ actual
  | disconnected => "Link closed by peer"

/-- The message and the reasons under it, outermost first. -/
def chain (e : LinkError) : List String :=
  e.message :: match e with
    | io reason => [reason]
    | decode error => [error.message]
    | _ => []

end LinkError

end Microbench
