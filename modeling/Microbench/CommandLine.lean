import Microbench.CommandLine.Key
import Microbench.Failure

/-!
The command line. A word is a setting with its value in it, a setting whose value is the next word,
several settings of one letter, or a pattern; behind a word of two dashes all words are patterns.
A value that stands in a word of its own is looked at when the next setting or pattern begins, so a
later word that is wrong in itself may be found first.
-/

namespace Microbench.CommandLine

inductive UsageError where
  | helpWanted
  | versionWanted
  | unknownArgument (word : String)
  | tooManyValues (key : Key) (value : String)
  | invalidValue (key : Key) (value : String)
  | refusedValue (key : Key) (value reason : String)
  | givenTwice (key : Key)
  deriving DecidableEq, Repr

def UsageError.message : UsageError → String
  | helpWanted => "help is wanted"
  | versionWanted => "the version is wanted"
  | unknownArgument word => "unexpected argument '" ++ word ++ "' found"
  | tooManyValues key value =>
    "unexpected value '" ++ value ++ "' for '" ++ key.shown ++ "' found; no more were expected"
  | invalidValue key value => "invalid value '" ++ value ++ "' for '" ++ key.shown ++ "'"
  | refusedValue key value reason =>
    "invalid value '" ++ value ++ "' for '" ++ key.shown ++ "': " ++ reason
  | givenTwice key => "the argument '" ++ key.shown ++ "' cannot be used multiple times"

/-- How far a command line has been read: the settings given so far, one whose value was not looked at yet or is still
to come, and whether only patterns are left. -/
structure Progress where
  arguments : Arguments := {}
  given : List Key := []
  pending : Option (Key × Option String) := none
  onlyPatterns : Bool := false

namespace Progress

def take (k : Key) (p : Progress) (value : String) : Except UsageError Progress :=
  match k.set p.arguments value with
  | .ok arguments => .ok { p with arguments }
  | .error .invalid => .error (.invalidValue k value)
  | .error .missing => .error (.invalidValue k "")
  | .error (.refused reason) => .error (.refusedValue k value reason)

/-- The values that one word holds: modes are separated by commas. -/
def valuesIn (k : Key) (word : String) : List String :=
  if k = .mode then word.splitOn "," else [word]

def give (p : Progress) (k : Key) (value : Option String) : Except UsageError Progress :=
  match k, value with
  | .help, _ => .error .helpWanted
  | .version, _ => .error .versionWanted
  | k, value =>
    if k.isSwitch then
      if k ∈ p.given then .error (.givenTwice k)
      else { p with given := k :: p.given }.take k ""
    else match value with
      | none => .error (.invalidValue k "")
      | some word =>
        if k ∈ p.given && !k.repeats then .error (.givenTwice k)
        else (valuesIn k word).foldlM (take k) { p with given := k :: p.given }

def settle (p : Progress) : Except UsageError Progress :=
  match p.pending with
  | none => .ok p
  | some (k, value) => { p with pending := none }.give k value

def pattern (p : Progress) (word : String) : Except UsageError Progress := do
  let p ← p.settle
  let o := p.arguments.options
  return { p with arguments := { p.arguments with
    options := { o with includes := o.includes ++ [word] } } }

/-- Give a setting whose value, if it has one, is in the word or in the next one. -/
def begin (p : Progress) (k : Key) (attached : Option String) : Except UsageError Progress := do
  let p ← p.settle
  if k.isSwitch || attached.isSome then p.give k attached
  else return { p with pending := some (k, none) }

def long (p : Progress) (cs : List Char) : Except UsageError Progress :=
  let name := String.ofList (cs.takeWhile (· != '='))
  let attached := match cs.dropWhile (· != '=') with
    | [] => none
    | _ :: value => some (String.ofList value)
  match Key.ofLong? name with
  | none => .error (.unknownArgument ("--" ++ name))
  | some k => match attached with
    | some value => if k.isSwitch then .error (.tooManyValues k value) else p.begin k attached
    | none => p.begin k none

/-- Letters behind one dash; what follows a letter with a value is that value. -/
def letters (p : Progress) : List Char → Except UsageError Progress
  | [] => .ok p
  | c :: rest =>
    match Key.ofShort? c with
    | none => .error (.unknownArgument ("-" ++ c.toString))
    | some k =>
      if k.isSwitch then do (← p.begin k none).letters rest
      else match rest with
        | [] => p.begin k none
        | '=' :: value => p.begin k (some (String.ofList value))
        | value => p.begin k (some (String.ofList value))

/-- A word that is no setting: the value that is still to come, or a pattern. -/
def plain (p : Progress) (word : String) : Except UsageError Progress :=
  match p.pending with
  | some (k, none) => .ok { p with pending := some (k, some word) }
  | _ => p.pattern word

def word (p : Progress) (text : String) : Except UsageError Progress :=
  if p.onlyPatterns then p.pattern text
  else match text.toList with
    | ['-', '-'] => .ok { p with onlyPatterns := true }
    | '-' :: '-' :: cs => p.long cs
    | '-' :: c :: cs => p.letters (c :: cs)
    | _ => p.plain text

end Progress

/-- What the words of a command line ask for. -/
def parse (words : List String) : Except UsageError Arguments := do
  let p ← words.foldlM Progress.word {}
  return (← p.settle).arguments

namespace Arguments

def checkedOptions (a : Arguments) : Except Failure Options :=
  (a.options.withCounts a.warmupCount a.measurementCount).check.mapError .config

def required {α : Type} (k : Key) : Option α → Except Failure α
  | some x => .ok x
  | none => .error (.config (.workerFlagMissing ("--" ++ k.long)))

def workerArgs (a : Arguments) : Except Failure WorkerArgs := do
  return {
    host := ← required .linkHost a.linkHost
    port := ← required .linkPort a.linkPort
    benchmark := ← required .benchmark a.benchmark
    mode := ← required .benchmarkMode a.benchmarkMode
    threads := ← required .benchmarkThreads a.benchmarkThreads
    warmupCount := a.warmupCount
    measurementCount := a.measurementCount }

end Arguments

end Microbench.CommandLine
