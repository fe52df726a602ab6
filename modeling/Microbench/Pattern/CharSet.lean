import Microbench.Pattern.Unicode.Binary
import Microbench.Pattern.Unicode.Category
import Microbench.Pattern.Unicode.Folding
import Microbench.Pattern.Unicode.Script

/-!
Sets of characters, by code point. `CharSet.mem` decides membership; the set operations are
constructors, so a set says how it was written. Properties are looked up by their names, compared
without case, blanks, hyphens and underscores.
-/

namespace Microbench.Pattern

def hexNumber (digits : List Char) : Nat :=
  digits.foldl (fun n c => n * 16 + (if c.isDigit then c.toNat - 48 else c.toNat - 87)) 0

/-- Ranges written as `41-5a 61`, over several lines. -/
def rangesOf (lines : List String) : List (Nat × Nat) :=
  (lines.flatMap (·.toList.splitOn ' ')).map fun word =>
    let low := word.takeWhile (· ≠ '-')
    let high := (word.dropWhile (· ≠ '-')).drop 1
    (hexNumber low, if high.isEmpty then hexNumber low else hexNumber high)

def caseGroups : List (List Nat) :=
  (Unicode.caseGroups.flatMap (·.toList.splitOn ' ')).map fun word =>
    (word.splitOn ',').map hexNumber

/-- A character and those that differ from it only in case. -/
def caseVariants (c : Nat) : List Nat := (caseGroups.find? (·.contains c)).getD [c]

def asciiCaseVariants (c : Nat) : List Nat :=
  if 65 ≤ c ∧ c ≤ 90 then [c, c + 32] else if 97 ≤ c ∧ c ≤ 122 then [c, c - 32] else [c]

inductive CharSet where
  | ranges (list : List (Nat × Nat))
  | union (a b : CharSet)
  | inter (a b : CharSet)
  | difference (a b : CharSet)
  | symmetric (a b : CharSet)
  | complement (a : CharSet)
  | caseless (a : CharSet)
  | asciiCaseless (a : CharSet)
  deriving Repr, Inhabited

namespace CharSet

def mem : CharSet → Nat → Bool
  | ranges list, c => list.any fun (low, high) => low ≤ c && c ≤ high
  | union a b, c => a.mem c || b.mem c
  | inter a b, c => a.mem c && b.mem c
  | difference a b, c => a.mem c && !b.mem c
  | symmetric a b, c => a.mem c != b.mem c
  | complement a, c => !a.mem c
  | caseless a, c => (caseVariants c).any a.mem
  | asciiCaseless a, c => (asciiCaseVariants c).any a.mem

def empty : CharSet := ranges []
def single (c : Char) : CharSet := ranges [(c.toNat, c.toNat)]
def range (low high : Char) : CharSet := ranges [(low.toNat, high.toNat)]
def any : CharSet := ranges [(0, 0x10ffff)]
def ascii : CharSet := ranges [(0, 0x7f)]

def negateIf (negated : Bool) (a : CharSet) : CharSet := if negated then complement a else a

def isAscii (a : CharSet) : Bool := (List.range 128).all fun n => !a.mem (n + 128)

def cost : CharSet → Nat
  | ranges list => list.foldl (fun n (_, high) => n + if high < 128 then 1 else 4) 0
  | union a b | inter a b | difference a b | symmetric a b => a.cost + b.cost
  | complement a => a.cost + 12
  | caseless a | asciiCaseless a => a.cost

/-- A name as it is compared: lower-case letters and digits, without a leading `is`. -/
def looseName (name : List Char) : List Char :=
  let letters := (name.filter fun c => c.toNat < 128 && c != ' ' && c != '-' && c != '_').map
    Char.toLower
  match letters with
  | ['i', 's', 'c'] => letters
  | 'i' :: 's' :: rest => rest
  | _ => letters

def lookUp (table : List (String × String × List String)) (name : List Char) : Option CharSet :=
  (table.find? fun (short, long, _) => looseName short.toList == name || looseName long.toList == name).map
    fun (_, _, codes) => ranges (rangesOf codes)

def categoryGroups : List (List String × List String) := [
  (["L", "Letter"], ["Lu", "Ll", "Lt", "Lm", "Lo"]),
  (["LC", "Cased_Letter"], ["Lu", "Ll", "Lt"]),
  (["M", "Mark", "Combining_Mark"], ["Mn", "Mc", "Me"]),
  (["N", "Number"], ["Nd", "Nl", "No"]),
  (["P", "Punctuation", "punct"], ["Pc", "Pd", "Ps", "Pe", "Pi", "Pf", "Po"]),
  (["S", "Symbol"], ["Sm", "Sc", "Sk", "So"]),
  (["Z", "Separator"], ["Zs", "Zl", "Zp"]),
  (["digit"], ["Nd"]),
  (["cntrl"], ["Cc"])]

def unionAll (sets : List CharSet) : CharSet := sets.foldl union empty

def unassigned : CharSet :=
  complement (unionAll (Unicode.categories.map fun (_, _, codes) => ranges (rangesOf codes)))

def category? (name : List Char) : Option CharSet :=
  match lookUp Unicode.categories name with
  | some set => some set
  | none =>
    match categoryGroups.find? fun (names, _) => names.any (looseName ·.toList == name) with
    | some (_, parts) => some (unionAll (parts.filterMap (lookUp Unicode.categories <| looseName ·.toList)))
    | none =>
      if name = "any".toList then some any
      else if name = "ascii".toList then some ascii
      else if name = "assigned".toList then some (complement unassigned)
      else if name = "cn".toList ∨ name = "unassigned".toList then some unassigned
      else if name = "c".toList ∨ name = "other".toList then
        some (union unassigned (unionAll (["cc", "cf", "co"].filterMap
          (lookUp Unicode.categories ·.toList))))
      else none

def script? (name : List Char) : Option CharSet := lookUp Unicode.scripts name

/-- The set that a bare name stands for: a yes-or-no property, a category or a script. The names
`cf`, `sc` and `lc` are categories. -/
def property? (name : List Char) : Option CharSet :=
  let name := looseName name
  let binary := if name ∈ ["cf".toList, "sc".toList, "lc".toList] then none
    else lookUp Unicode.binaries name
  (binary.orElse fun _ => category? name).orElse fun _ => script? name

def propertyValue? (name value : List Char) : Option CharSet :=
  let name := looseName name
  let value := looseName value
  if name = "gc".toList ∨ name = "generalcategory".toList then category? value
  else if name ∈ ["sc".toList, "script".toList, "scx".toList, "scriptextensions".toList] then
    script? value
  else none

def asciiDigit : CharSet := range '0' '9'
def asciiSpace : CharSet := ranges [(9, 13), (32, 32)]
def asciiWord : CharSet := ranges [(48, 57), (65, 90), (95, 95), (97, 122)]

def digit : CharSet := (category? ['n', 'd']).getD empty
def space : CharSet := (lookUp Unicode.binaries "whitespace".toList).getD empty

/-- Letters, marks, decimal digits, connectors and joiners. -/
def word : CharSet :=
  unionAll ([lookUp Unicode.binaries "alphabetic".toList, category? ['m'], category? ['n', 'd'],
    category? ['p', 'c'], lookUp Unicode.binaries "joincontrol".toList].filterMap id)

def asciiNamed : List (String × CharSet) := [
  ("alnum", ranges [(48, 57), (65, 90), (97, 122)]),
  ("alpha", ranges [(65, 90), (97, 122)]),
  ("ascii", ascii),
  ("blank", ranges [(9, 9), (32, 32)]),
  ("cntrl", ranges [(0, 31), (127, 127)]),
  ("digit", asciiDigit),
  ("graph", ranges [(33, 126)]),
  ("lower", ranges [(97, 122)]),
  ("print", ranges [(32, 126)]),
  ("punct", ranges [(33, 47), (58, 64), (91, 96), (123, 126)]),
  ("space", asciiSpace),
  ("upper", ranges [(65, 90)]),
  ("word", asciiWord),
  ("xdigit", ranges [(48, 57), (65, 70), (97, 102)])]

end CharSet

end Microbench.Pattern
