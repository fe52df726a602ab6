import Microbench.Pattern.CharSet

/-!
Patterns and where they match. The meaning of a pattern on a text is a function on sets of
positions: `Pattern.ends p text starts` holds the positions at which a match can end that began at
one of `starts`. Only whether there is a match is ever asked, so preferences between matches play
no part.
-/

namespace Microbench

namespace Pattern

inductive Look where
  | textStart
  | textEnd
  | lineStart
  | lineEnd
  | anyLineStart
  | anyLineEnd
  | wordBoundary (ascii : Bool)
  | notWordBoundary (ascii : Bool)
  | wordStart (ascii : Bool)
  | wordEnd (ascii : Bool)
  | wordStartHalf (ascii : Bool)
  | wordEndHalf (ascii : Bool)
  deriving Repr, DecidableEq

end Pattern

inductive Pattern where
  | empty
  | look (condition : Pattern.Look)
  | one (set : Pattern.CharSet)
  | seq (p q : Pattern)
  | alt (p q : Pattern)
  | times (p : Pattern) (min : Nat) (max : Option Nat)
  deriving Repr, Inhabited

namespace Pattern

def before? (text : Array Nat) (i : Nat) : Option Nat := if i = 0 then none else text[i - 1]?

def isWord (ascii : Bool) : Option Nat → Bool
  | none => false
  | some c => (if ascii then CharSet.asciiWord else CharSet.word).mem c

def Look.holds (look : Look) (text : Array Nat) (i : Nat) : Bool :=
  let previous := before? text i
  let next := text[i]?
  match look with
  | textStart => previous.isNone
  | textEnd => next.isNone
  | lineStart => previous.isNone || previous == some 10
  | lineEnd => next.isNone || next == some 10
  | anyLineStart =>
    previous.isNone || previous == some 10 || (previous == some 13 && next != some 10)
  | anyLineEnd =>
    next.isNone || next == some 13 || (next == some 10 && previous != some 13)
  | wordBoundary ascii => isWord ascii previous != isWord ascii next
  | notWordBoundary ascii => isWord ascii previous == isWord ascii next
  | wordStart ascii => !isWord ascii previous && isWord ascii next
  | wordEnd ascii => isWord ascii previous && !isWord ascii next
  | wordStartHalf ascii => !isWord ascii previous
  | wordEndHalf ascii => !isWord ascii next

def unite (a b : List Nat) : List Nat :=
  match a, b with
  | [], b => b
  | a, [] => a
  | x :: a, y :: b =>
    if x < y then x :: unite a (y :: b)
    else if y < x then y :: unite (x :: a) b
    else x :: unite a b
termination_by a.length + b.length

def without (a b : List Nat) : List Nat :=
  match a, b with
  | [], _ => []
  | a, [] => a
  | x :: a, y :: b =>
    if x < y then x :: without a (y :: b)
    else if y < x then without (x :: a) b
    else without a b
termination_by a.length + b.length

def iterate (step : List Nat → List Nat) : Nat → List Nat → List Nat
  | 0, s => s
  | n + 1, s => iterate step n (step s)

/-- All positions reached from `fresh` in at most `n` steps, together with `seen`. -/
def reach (step : List Nat → List Nat) : Nat → List Nat → List Nat → List Nat
  | 0, seen, _ => seen
  | n + 1, seen, fresh =>
    let new := without (step fresh) seen
    if new.isEmpty then seen else reach step n (unite seen new) new

/-- Where matches end that begin at one of the ascending positions `starts`.

Repeating more often than the text has positions adds nothing: some repetition then takes no
character, and can be left out or done again. -/
def ends (text : Array Nat) : Pattern → List Nat → List Nat
  | empty, starts => starts
  | look condition, starts => starts.filter (condition.holds text)
  | one set, starts =>
    (starts.filter fun i => match text[i]? with
      | some c => set.mem c
      | none => false).map (· + 1)
  | seq p q, starts => q.ends text (p.ends text starts)
  | alt p q, starts => unite (p.ends text starts) (q.ends text starts)
  | times p min max, starts =>
    let cap := text.size + 1
    let first := iterate (p.ends text) (Nat.min min cap) starts
    let more := match max with
      | none => cap
      | some max => Nat.min (max - min) cap
    reach (p.ends text) more first first

/-- Whether the pattern matches somewhere in the text. -/
def isMatch (p : Pattern) (text : String) : Bool :=
  let codes := (text.toList.map Char.toNat).toArray
  !(p.ends codes (List.range (codes.size + 1))).isEmpty

/-- How many steps a byte automaton needs for the pattern, roughly. -/
def cost : Pattern → Nat
  | empty => 1
  | look _ => 1
  | one set => set.cost
  | seq p q => p.cost + q.cost
  | alt p q => p.cost + q.cost + 1
  | times p min max => p.cost * (max.getD (min + 1)) + 1

end Pattern

end Microbench
