import PatternLoom.Pattern.CharClass

/-!
# Regular expressions

The syntax tree of a pattern. A sequence is a spine of `seq` nodes that ends in `empty`, so the
elements of a sequence can be told from those of a sequence inside it.
-/

namespace PatternLoom

set_option autoImplicit false

inductive Anchor where
  | textStart
  | textEnd
  | lineStart
  | lineEnd
  | wordBoundary
  | notWordBoundary
  | wordStart
  | wordEnd
deriving DecidableEq, Repr

structure Site where
  before : Option Char
  after : Option Char
deriving DecidableEq, Repr

namespace Anchor

def isWordNeighbour (c : Option Char) : Bool := c.any Unicode.isWord

def holds : Anchor → Site → Bool
  | .textStart, s => s.before.isNone
  | .textEnd, s => s.after.isNone
  | .lineStart, s => s.before.all (· == '\n')
  | .lineEnd, s => s.after.all (· == '\n')
  | .wordBoundary, s => isWordNeighbour s.before != isWordNeighbour s.after
  | .notWordBoundary, s => isWordNeighbour s.before == isWordNeighbour s.after
  | .wordStart, s => !isWordNeighbour s.before && isWordNeighbour s.after
  | .wordEnd, s => isWordNeighbour s.before && !isWordNeighbour s.after

/-- The same condition for a text read from right to left. -/
def reversed : Anchor → Anchor
  | .textStart => .textEnd
  | .textEnd => .textStart
  | .lineStart => .lineEnd
  | .lineEnd => .lineStart
  | .wordStart => .wordEnd
  | .wordEnd => .wordStart
  | .wordBoundary => .wordBoundary
  | .notWordBoundary => .notWordBoundary

theorem holds_reversed (a : Anchor) (s : Site) :
    a.reversed.holds ⟨s.after, s.before⟩ = a.holds s := by
  cases a with
  | textStart | textEnd | lineStart | lineEnd => rfl
  | wordBoundary => exact bne_comm
  | notWordBoundary => exact BEq.comm
  | wordStart | wordEnd => exact Bool.and_comm ..

end Anchor

/-- A pattern. Groups are numbered from one; group zero is the whole match. -/
inductive Regex where
  | empty
  | chars (s : CharClass)
  | anchor (a : Anchor)
  | seq (p q : Regex)
  | alt (p q : Regex)
  | capture (group : Nat) (p : Regex)
  /-- Between `lo` and `hi` times, without an upper bound when `hi` is absent. -/
  | iterate (lo : Nat) (hi : Option Nat) (greedy : Bool) (p : Regex)
  /-- The pattern matches from here on, or fails to. -/
  | ahead (positive : Bool) (p : Regex)
  /-- The pattern matches up to here, or fails to. -/
  | behind (positive : Bool) (p : Regex)
  /-- The first way to match the pattern, never reconsidered. -/
  | atomic (p : Regex)
  /-- The text that a group has matched, possibly in other case. -/
  | backref (group : Nat) (anyCase : Bool)
  | groupSet (group : Nat)
  | choose (condition yes no : Regex)
  /-- The match is reported from here on. -/
  | keepOut
  /-- No character, where the search began: at the end of the match before. -/
  | searchStart
deriving DecidableEq, Repr

namespace Regex

def literal (anyCase : Bool) (c : Char) : Regex :=
  .chars (if anyCase then .anyCase (.one c) else .one c)

def ofElements : List Regex → Regex
  | [] => .empty
  | [p] => p
  | ps => ps.foldr .seq .empty

def ofAlternatives (first : Regex) : List Regex → Regex
  | [] => first
  | p :: ps => .alt first (ofAlternatives p ps)

/-- A sequence, a choice or an anchor may be repeated; look-around, a question about a group, a
place in the search and the empty pattern may not. -/
def isRepeatable : Regex → Bool
  | .empty | .ahead .. | .behind .. | .keepOut | .groupSet _ | .searchStart => false
  | _ => true

end Regex

end PatternLoom
