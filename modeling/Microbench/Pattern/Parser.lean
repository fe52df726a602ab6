import Microbench.Pattern.Basic
import Microbench.Text.Blank

/-!
Reading patterns. The reader walks the text once and keeps a stack of the groups that are open;
each open group holds its finished alternatives and the items of the one being read. A pattern is
refused for a cause, without the place of it.
-/

namespace Microbench.Pattern

inductive Fault where
  | unclosedGroup
  | unopenedGroup
  | groupName
  | lookAround
  | flags
  | nothingToRepeat
  | repetition
  | escape
  | unclosedSet
  | set
  | unknownProperty
  | notText
  | tooNested
  | tooLarge
  deriving DecidableEq, Repr

structure Flags where
  caseless : Bool := false
  multiLine : Bool := false
  dotAll : Bool := false
  unicode : Bool := true
  anyLine : Bool := false
  verbose : Bool := false
  deriving Repr, DecidableEq

inductive Atom where
  | literal (c : Char)
  | byte (n : Nat)
  | set (s : CharSet)
  | look (l : Look)
  deriving Repr

def isBlank (c : Char) : Bool :=
  [9, 10, 11, 12, 13, 32, 0x85, 0x200e, 0x200f, 0x2028, 0x2029].contains c.toNat

def skipBlank : List Char → Bool → List Char
  | [], _ => []
  | c :: rest, true => skipBlank rest (c != '\n')
  | c :: rest, false =>
    if isBlank c then skipBlank rest false
    else if c = '#' then skipBlank rest true
    else c :: rest

def Flags.skip (flags : Flags) (cs : List Char) : List Char :=
  if flags.verbose then skipBlank cs false else cs

def isHexDigit (c : Char) : Bool := c.isDigit || ('a' ≤ c && c ≤ 'f') || ('A' ≤ c && c ≤ 'F')

def hexChar (digits : List Char) : Except Fault Char :=
  let n := hexNumber (digits.map Char.toLower)
  if digits.isEmpty ∨ ¬ digits.all isHexDigit ∨ ¬ n.isValidChar then .error .escape
  else .ok (Char.ofNat n)

/-- What follows `\x`, `\u` and `\U`: so many digits, or any number of them in braces. -/
def hexEscape (width : Nat) : List Char → Except Fault (Char × List Char)
  | '\x7b' :: rest =>
    match rest.dropWhile (· ≠ '\x7d') with
    | [] => .error .escape
    | _ :: behind => (hexChar (rest.takeWhile (· ≠ '\x7d'))).map (·, behind)
  | cs =>
    if (cs.take width).length < width then .error .escape
    else (hexChar (cs.take width)).map (·, cs.drop width)

/-- What follows `\p` and `\P`: one letter, or a name in braces, alone or with a value. -/
def propertyEscape : List Char → Except Fault (CharSet × List Char)
  | [] => .error .escape
  | '\x7b' :: rest =>
    match rest.dropWhile (· ≠ '\x7d') with
    | [] => .error .escape
    | _ :: behind =>
      let whole := rest.takeWhile (· ≠ '\x7d')
      let (negated, body) := match whole with
        | '^' :: body => (true, body)
        | body => (false, body)
      let (name, value) := body.span fun c => c ≠ '=' && c ≠ ':'
      let (differs, name) := match name.reverse, value with
        | '!' :: shorter, '=' :: _ => (true, shorter.reverse)
        | _, _ => (false, name)
      let found := match value with
        | [] => CharSet.property? name
        | _ :: value => CharSet.propertyValue? name value
      match found with
      | none => .error .unknownProperty
      | some set => .ok (set.negateIf (negated != differs), behind)
  | '\\' :: _ => .error .escape
  | c :: rest =>
    match CharSet.category? (CharSet.looseName [c]) with
    | none => .error .unknownProperty
    | some set => .ok (set, rest)

def classEscape (flags : Flags) (c : Char) : Except Fault CharSet :=
  let set := match c.toLower with
    | 'd' => if flags.unicode then CharSet.digit else CharSet.asciiDigit
    | 's' => if flags.unicode then CharSet.space else CharSet.asciiSpace
    | _ => if flags.unicode then CharSet.word else CharSet.asciiWord
  if c.isUpper ∧ ¬ flags.unicode then .error .notText else .ok (set.negateIf c.isUpper)

def foldCase (flags : Flags) (set : CharSet) : CharSet :=
  if ¬ flags.caseless then set
  else if flags.unicode then set.caseless else set.asciiCaseless

def boundaryEscape (ascii : Bool) (cs : List Char) : Except Fault (Look × List Char) :=
  match cs with
  | '\x7b' :: rest =>
    let name := rest.takeWhile fun c => c.isAlpha || c == '-'
    match name, rest.drop name.length with
    | [], [] => .error .escape
    | [], _ => .ok (.wordBoundary ascii, cs)
    | _, '\x7d' :: behind =>
      match String.ofList name with
      | "start" => .ok (.wordStart ascii, behind)
      | "end" => .ok (.wordEnd ascii, behind)
      | "start-half" => .ok (.wordStartHalf ascii, behind)
      | "end-half" => .ok (.wordEndHalf ascii, behind)
      | _ => .error .escape
    | _, _ => .error .escape
  | cs => .ok (.wordBoundary ascii, cs)

def controlEscapes : List (Char × Nat) :=
  [('a', 7), ('f', 12), ('t', 9), ('n', 10), ('r', 13), ('v', 11)]

def escape (flags : Flags) : List Char → Except Fault (Atom × List Char)
  | [] => .error .escape
  | c :: rest =>
    let ascii := !flags.unicode
    if c.isDigit then .error .escape
    else if c = 'x' ∨ c = 'u' ∨ c = 'U' then
      let width := if c = 'x' then 2 else if c = 'u' then 4 else 8
      (hexEscape width rest).map fun (d, behind) =>
        (if 0x80 ≤ d.toNat ∧ d.toNat < 0x100 ∧ ascii then .byte d.toNat else .literal d, behind)
    else if c = 'p' ∨ c = 'P' then
      if ascii then .error .set
      else (propertyEscape rest).map fun (set, behind) =>
        (.set ((foldCase flags set).negateIf (c == 'P')), behind)
    else if c.toLower ∈ ['d', 's', 'w'] then
      (classEscape flags c).map fun set => (.set set, rest)
    else if c = 'b' then (boundaryEscape ascii rest).map fun (l, behind) => (.look l, behind)
    else if c = 'B' then .ok (.look (.notWordBoundary ascii), rest)
    else if c = 'A' then .ok (.look .textStart, rest)
    else if c = 'z' then .ok (.look .textEnd, rest)
    else if c = '<' then .ok (.look (.wordStart ascii), rest)
    else if c = '>' then .ok (.look (.wordEnd ascii), rest)
    else match controlEscapes.lookup c with
      | some n => .ok (.literal (Char.ofNat n), rest)
      | none =>
        if c.toNat < 128 ∧ ¬ c.isAlphanum then .ok (.literal c, rest) else .error .escape

/-- Operators between the parts of a set, which are of one rank and group to the left. -/
inductive SetOp where
  | inter
  | difference
  | symmetric
  deriving Repr

def SetOp.apply (flags : Flags) (op : SetOp) (a b : CharSet) : CharSet :=
  let a := foldCase flags a
  let b := foldCase flags b
  match op with
  | inter => .inter a b
  | difference => .difference a b
  | symmetric => .symmetric a b

/-- A set being read: what stands before the last operator, and the part behind it. -/
structure OpenSet where
  negated : Bool
  before : Option (CharSet × SetOp) := none
  items : CharSet := .empty

namespace OpenSet

def add (s : OpenSet) (set : CharSet) : OpenSet := { s with items := s.items.union set }

def value (flags : Flags) (s : OpenSet) : CharSet :=
  match s.before with
  | none => s.items
  | some (left, op) => op.apply flags left s.items

def operator (flags : Flags) (s : OpenSet) (op : SetOp) : OpenSet :=
  { s with before := some (s.value flags, op), items := .empty }

/-- The finished set; without Unicode it must not match a part of a character. -/
def close (flags : Flags) (s : OpenSet) : Except Fault CharSet :=
  let set := (foldCase flags (s.value flags)).negateIf s.negated
  if ¬ flags.unicode ∧ ¬ set.isAscii then .error .notText else .ok set

end OpenSet

def colonSet (cs : List Char) : Option (CharSet × List Char) :=
  match cs with
  | ':' :: rest =>
    let (negated, rest) := match rest with
      | '^' :: rest => (true, rest)
      | rest => (false, rest)
    let name := String.ofList (rest.takeWhile (· ≠ ':'))
    match rest.dropWhile (· ≠ ':'), CharSet.asciiNamed.lookup name with
    | ':' :: ']' :: behind, some set => some (set.negateIf negated, behind)
    | _, _ => none
  | _ => none

def setItem (flags : Flags) : List Char → Except Fault (Atom × List Char)
  | [] => .error .unclosedSet
  | '\\' :: rest => escape flags rest
  | c :: rest => .ok (.literal c, rest)

def Atom.bound (flags : Flags) : Atom → Except Fault Nat
  | .literal c => if ¬ flags.unicode ∧ c.toNat ≥ 128 then .error .set else .ok c.toNat
  | .byte n => .ok n
  | _ => .error .set

def Atom.members (flags : Flags) : Atom → Except Fault CharSet
  | .set s => .ok s
  | .look _ => .error .set
  | atom => (atom.bound flags).map fun n => .ranges [(n, n)]

def setRange (flags : Flags) (cs : List Char) : Except Fault (CharSet × List Char) := do
  let (first, rest) ← setItem flags cs
  match flags.skip rest with
  | [] => .error .unclosedSet
  | '-' :: behind =>
    match flags.skip behind with
    | ']' :: _ | '-' :: _ => return (← first.members flags, flags.skip rest)
    | behind =>
      let (last, behind) ← setItem flags behind
      let low ← first.bound flags
      let high ← last.bound flags
      if low ≤ high then return (.ranges [(low, high)], behind) else .error .set
  | rest => return (← first.members flags, rest)

/-- The start of a set behind its bracket: a negation, hyphens, and a bracket that stands for
itself. -/
def openSet (flags : Flags) (cs : List Char) : Except Fault (OpenSet × List Char) :=
  let cs := flags.skip cs
  let (negated, cs) := match cs with
    | '^' :: rest => (true, flags.skip rest)
    | cs => (false, cs)
  let hyphens := cs.takeWhile (· = '-')
  let rest := flags.skip (cs.drop hyphens.length)
  let s : OpenSet := { negated }
  match hyphens, rest with
  | _, [] => .error .unclosedSet
  | [], ']' :: rest => .ok (s.add (.single ']'), rest)
  | [], rest => .ok (s, rest)
  | _, rest => .ok (s.add (.single '-'), rest)

def setBody (flags : Flags) : Nat → OpenSet → List Char → Except Fault (CharSet × List Char)
  | 0, _, _ => .error .tooNested
  | fuel + 1, s, cs =>
    match flags.skip cs with
    | [] => .error .unclosedSet
    | ']' :: rest => (s.close flags).map (·, rest)
    | '[' :: rest =>
      match colonSet rest with
      | some (set, rest) => setBody flags fuel (s.add set) rest
      | none => do
        let (inner, rest) ← openSet flags rest
        let (set, rest) ← setBody flags fuel inner rest
        setBody flags fuel (s.add set) rest
    | '&' :: '&' :: rest => setBody flags fuel (s.operator flags .inter) rest
    | '-' :: '-' :: rest => setBody flags fuel (s.operator flags .difference) rest
    | '~' :: '~' :: rest => setBody flags fuel (s.operator flags .symmetric) rest
    | cs => do
      let (set, rest) ← setRange flags cs
      setBody flags fuel (s.add set) rest

/-- The alternatives of a group that are finished, and the items of the one being read. An item
that only sets flags is `none`: it cannot be repeated. -/
structure Branch where
  finished : Option Pattern := none
  items : List (Option Pattern) := []

namespace Branch

def add (b : Branch) (p : Pattern) : Branch := { b with items := some p :: b.items }

def sequence (b : Branch) : Pattern := (b.items.filterMap id).foldl (fun p q => .seq q p) .empty

def pattern (b : Branch) : Pattern :=
  match b.finished with
  | none => b.sequence
  | some p => .alt p b.sequence

def alternative (b : Branch) : Branch := { finished := some b.pattern }

def repeatLast (b : Branch) (min : Nat) (max : Option Nat) : Except Fault Branch :=
  match b.items with
  | some p :: rest => .ok { b with items := some (.times p min max) :: rest }
  | _ => .error .nothingToRepeat

end Branch

structure Reading where
  outer : List (Branch × Flags) := []
  branch : Branch := {}
  flags : Flags := {}
  names : List (List Char) := []

def Flags.set (flags : Flags) (on : Bool) : Char → Option Flags
  | 'i' => some { flags with caseless := on }
  | 'm' => some { flags with multiLine := on }
  | 's' => some { flags with dotAll := on }
  | 'u' => some { flags with unicode := on }
  | 'R' => some { flags with anyLine := on }
  | 'x' => some { flags with verbose := on }
  | 'U' => some flags
  | _ => none

/-- Flag letters up to a colon or the end of the group; behind a hyphen they are switched off. No
letter may be given twice. -/
def readFlags (flags : Flags) (off : Bool) (seen : List Char) :
    List Char → Except Fault (Flags × List Char × List Char)
  | [] => .error .flags
  | ':' :: rest => if seen.head? = some '-' then .error .flags else .ok (flags, seen, ':' :: rest)
  | ')' :: rest => if seen.head? = some '-' then .error .flags else .ok (flags, seen, ')' :: rest)
  | '-' :: rest => if off then .error .flags else readFlags flags true ('-' :: seen) rest
  | c :: rest =>
    if seen.contains c then .error .flags
    else match flags.set (!off) c with
      | none => .error .flags
      | some flags => readFlags flags off (c :: seen) rest

def isGroupName : List Char → Bool
  | [] => false
  | c :: rest =>
    let letter (c : Char) : Bool := c == '_' || c.isAlpha || (c.toNat ≥ 128 && CharSet.word.mem c.toNat)
    letter c && rest.all fun c => letter c || c.isDigit || ['.', '[', ']'].contains c

def maxDepth : Nat := 250

def maxCost : Nat := 327680

namespace Reading

def enter (r : Reading) (flags : Flags) : Except Fault Reading :=
  if r.outer.length ≥ maxDepth then .error .tooNested
  else .ok { r with outer := (r.branch, r.flags) :: r.outer, branch := {}, flags := flags }

def openGroup (r : Reading) (cs : List Char) : Except Fault (Reading × List Char) :=
  let named (rest : List Char) : Except Fault (Reading × List Char) :=
    let name := rest.takeWhile (· ≠ '>')
    match rest.drop name.length with
    | [] => .error .groupName
    | _ :: behind =>
      if ¬ isGroupName name ∨ r.names.contains name then .error .groupName
      else (r.enter r.flags).map ({ · with names := name :: r.names }, behind)
  match r.flags.skip cs with
  | '?' :: '=' :: _ | '?' :: '!' :: _ | '?' :: '<' :: '=' :: _ | '?' :: '<' :: '!' :: _ =>
    .error .lookAround
  | '?' :: 'P' :: '<' :: rest => named rest
  | '?' :: '<' :: rest => named rest
  | '?' :: rest => do
    let (flags, seen, rest) ← readFlags r.flags false [] rest
    match rest with
    | ':' :: rest => return (← r.enter flags, rest)
    | rest =>
      if seen.isEmpty then .error .nothingToRepeat
      else return ({ r with flags, branch := { r.branch with items := none :: r.branch.items } }, rest.drop 1)
  | cs => (r.enter r.flags).map (·, cs)

def closeGroup (r : Reading) : Except Fault Reading :=
  match r.outer with
  | [] => .error .unopenedGroup
  | (branch, flags) :: outer => .ok { r with outer, flags, branch := branch.add r.branch.pattern }

/-- A decimal number between blanks, below `2 ^ 32`; none if there are no digits. -/
def decimal (cs : List Char) : Except Fault (Nat × List Char) :=
  let cs := cs.dropWhile Text.isBlank
  let digits := cs.takeWhile Char.isDigit
  let n := digits.foldl (fun n c => n * 10 + (c.toNat - 48)) 0
  if digits.isEmpty ∨ n ≥ 1 <<< 32 then .error .repetition
  else .ok (n, (cs.drop digits.length).dropWhile Text.isBlank)

def counts (flags : Flags) (cs : List Char) : Except Fault (Nat × Option Nat × List Char) := do
  let (min, rest) ← decimal (flags.skip cs)
  match rest with
  | '\x7d' :: rest => return (min, some min, rest)
  | ',' :: rest =>
    match flags.skip rest with
    | '\x7d' :: rest => return (min, none, rest)
    | rest =>
      let (max, rest) ← decimal rest
      match rest with
      | '\x7d' :: rest => if min ≤ max then return (min, some max, rest) else .error .repetition
      | _ => .error .repetition
  | _ => .error .repetition

/-- A repetition may ask for as few repeats as possible, which changes no answer. -/
def skipLazy : List Char → List Char
  | '?' :: rest => rest
  | cs => cs

def repeated (r : Reading) (min : Nat) (max : Option Nat) (rest : List Char) :
    Except Fault (Reading × List Char) :=
  (r.branch.repeatLast min max).map fun branch => ({ r with branch }, skipLazy rest)

def atom (flags : Flags) : Atom → Except Fault Pattern
  | .literal c => .ok (.one (foldCase flags (.single c)))
  | .byte _ => .error .notText
  | .set s => .ok (.one s)
  | .look l => .ok (.look l)

def dot (flags : Flags) : Except Fault CharSet :=
  if ¬ flags.unicode then .error .notText
  else if flags.dotAll then .ok .any
  else if flags.anyLine then .ok (.complement (.ranges [(10, 10), (13, 13)]))
  else .ok (.complement (.ranges [(10, 10)]))

def lineLook (flags : Flags) (text line anyLine : Look) : Look :=
  if ¬ flags.multiLine then text else if flags.anyLine then anyLine else line

def step (r : Reading) (c : Char) (rest : List Char) : Except Fault (Reading × List Char) :=
  let add (p : Pattern) (rest : List Char) := ({ r with branch := r.branch.add p }, rest)
  match c with
  | '(' => r.openGroup rest
  | ')' => r.closeGroup.map (·, rest)
  | '|' => .ok ({ r with branch := r.branch.alternative }, rest)
  | '[' => do
    let (s, rest) ← openSet r.flags rest
    let (set, rest) ← setBody r.flags (rest.length + 1) s rest
    return add (.one set) rest
  | '?' => r.repeated 0 (some 1) rest
  | '*' => r.repeated 0 none rest
  | '+' => r.repeated 1 none rest
  | '\x7b' =>
    match r.branch.items with
    | some _ :: _ => do
      let (min, max, rest) ← counts r.flags rest
      r.repeated min max rest
    | _ => .error .nothingToRepeat
  | '\\' => do
    let (a, rest) ← escape r.flags rest
    return add (← atom r.flags a) rest
  | '.' => (dot r.flags).map fun set => add (.one set) rest
  | '^' => .ok (add (.look (lineLook r.flags .textStart .lineStart .anyLineStart)) rest)
  | '$' => .ok (add (.look (lineLook r.flags .textEnd .lineEnd .anyLineEnd)) rest)
  | c => .ok (add (.one (foldCase r.flags (.single c))) rest)

/-- Read to the end; every step takes a character. -/
def run : Nat → Reading → List Char → Except Fault Pattern
  | 0, _, _ => .error .tooNested
  | fuel + 1, r, cs =>
    match r.flags.skip cs with
    | [] => if r.outer.isEmpty then .ok r.branch.pattern else .error .unclosedGroup
    | c :: rest => do
      let (r, rest) ← r.step c rest
      run fuel r rest

end Reading

def parse (text : String) : Except Fault Pattern := do
  let cs := text.toList
  let p ← Reading.run (cs.length + 1) {} cs
  if p.cost > maxCost then .error .tooLarge else .ok p

end Microbench.Pattern
