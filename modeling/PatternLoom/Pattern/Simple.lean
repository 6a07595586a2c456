import PatternLoom.Pattern.Regex

/-!
# Patterns without memory

A pattern without look-around, references, atomic groups and conditions can be matched in a single
pass over the text. `Simple` is the language of such patterns with every repetition brought into one
of three shapes: at most once, at least once, any number of times.
-/

namespace PatternLoom

set_option autoImplicit false

inductive Simple where
  | empty
  | chars (s : CharClass)
  | anchor (a : Anchor)
  | seq (p q : Simple)
  | alt (p q : Simple)
  | capture (group : Nat) (p : Simple)
  | optional (greedy : Bool) (p : Simple)
  | plus (greedy : Bool) (p : Simple)
  | star (greedy : Bool) (p : Simple)
deriving DecidableEq, Repr

namespace Simple

def nullable : Simple → Bool
  | .empty | .anchor _ | .optional .. | .star .. => true
  | .chars _ => false
  | .seq p q => p.nullable && q.nullable
  | .alt p q => p.nullable || q.nullable
  | .capture _ p | .plus _ p => p.nullable

def times (p : Simple) : Nat → Simple → Simple
  | 0, rest => rest
  | n + 1, rest => .seq p (times p n rest)

def upTo (greedy : Bool) (p : Simple) : Nat → Simple
  | 0 => .empty
  | n + 1 => .optional greedy (.seq p (upTo greedy p n))

/-- Any number of copies. A pattern that can match the empty text gets its first chance to do so
before the repetition ends. -/
def anyTimes (greedy : Bool) (p : Simple) : Simple :=
  if p.nullable then .optional greedy (.plus greedy p) else .star greedy p

def repeated (lo : Nat) (hi : Option Nat) (greedy : Bool) (p : Simple) : Simple :=
  match hi, lo with
  | none, 0 => anyTimes greedy p
  | none, n + 1 => times p n (.plus greedy p)
  | some hi, lo => times p lo (upTo greedy p (hi - lo))

def size : Simple → Nat
  | .empty | .chars _ | .anchor _ => 1
  | .seq p q | .alt p q => p.size + q.size + 1
  | .capture _ p | .optional _ p | .plus _ p | .star _ p => p.size + 1

def captures : Simple → List Nat
  | .empty | .chars _ | .anchor _ => []
  | .seq p q | .alt p q => p.captures ++ q.captures
  | .capture g p => g :: p.captures
  | .optional _ p | .plus _ p | .star _ p => p.captures

/-- The pattern that matches the texts of `p` read from right to left. -/
def reversed : Simple → Simple
  | .empty => .empty
  | .chars s => .chars s
  | .anchor a => .anchor a.reversed
  | .seq p q => .seq q.reversed p.reversed
  | .alt p q => .alt p.reversed q.reversed
  | .capture g p => .capture g p.reversed
  | .optional greedy p => .optional greedy p.reversed
  | .plus greedy p => .plus greedy p.reversed
  | .star greedy p => .star greedy p.reversed

/-- The copies of a counted repetition may not grow beyond this many nodes. -/
def sizeLimit : Nat := 250000

end Simple

namespace Regex

/-- The one-pass form of a pattern. Patterns that need memory have none, nor have those with a
repetition whose bounds are in the wrong order or beyond what can be laid out. -/
def simple? : Regex → Option Simple
  | .empty => some .empty
  | .chars s => some (.chars s)
  | .anchor a => some (.anchor a)
  | .seq p q => do some (.seq (← p.simple?) (← q.simple?))
  | .alt p q => do some (.alt (← p.simple?) (← q.simple?))
  | .capture g p => do some (.capture g (← p.simple?))
  | .iterate lo hi greedy p => do
    let p ← p.simple?
    if (hi.getD lo) < lo then none
    else if 1 < hi.getD lo ∧ (hi.getD lo) * p.size > Simple.sizeLimit then none
    else some (Simple.repeated lo hi greedy p)
  | .ahead .. | .behind .. | .atomic _ | .backref .. | .groupSet _ | .choose .. | .keepOut
  | .searchStart => none

end Regex

end PatternLoom
