/-!
Messages for whoever operates the program, apart from what sinks show. A line carries the role of
the process that wrote it and the colour of its level.
-/

namespace Microbench.Log

inductive Level where
  | error
  | warn
  | info
  | debug
  | trace
  deriving DecidableEq, Repr

def Level.rank (l : Level) : Nat := l.ctorIdx

/-- The side of the link a process is on. -/
inductive Role where
  | host
  | fork
  deriving DecidableEq, Repr

def Role.tag : Role → String
  | host => "[host]"
  | fork => "[fork]"

structure Entry where
  level : Level
  text : String
  code : Option Int := none
  deriving DecidableEq, Repr

def threshold (verbose : Bool) : Level := if verbose then .info else .warn

def Entry.isShown (verbose : Bool) (e : Entry) : Bool := e.level.rank ≤ (threshold verbose).rank

def Level.colour : Level → Nat
  | error => 31
  | warn => 33
  | info => 37
  | debug => 34
  | trace => 35

def plain : String := "\x1b[0m"

/-- Text in a style of the terminal, which starts again where the text itself ends it. -/
def styled (coloured : Bool) (style : Nat) (text : String) : String :=
  let start := s!"\x1b[{style}m"
  if coloured then start ++ text.replace plain (plain ++ start) ++ plain else text

def dimmed : Nat := 2

/-- The line of an entry, or nothing if it is not shown. -/
def Entry.line (role : Role) (verbose coloured : Bool) (e : Entry) : String :=
  if e.isShown verbose then
    let text := match e.code with
      | some code => e.text ++ s!" code={code}"
      | none => e.text
    styled coloured dimmed role.tag ++ " " ++ styled coloured e.level.colour text ++ "\n"
  else ""

end Microbench.Log
