import PatternLoom.Pattern.Simple

/-!
# Plans

A pattern with look-around, references or atomic groups is matched by backtracking. Its plan says
which parts need that: a part without memory whose choices nothing later can question is left to a
one-pass scan.
-/

namespace PatternLoom

set_option autoImplicit false

inductive Plan where
  | empty
  /-- A part that a scan settles for good; its captures start afresh. -/
  | scan (p : Simple)
  | chars (s : CharClass)
  | anchor (a : Anchor)
  | seq (p q : Plan)
  | alt (p q : Plan)
  | capture (group : Nat) (p : Plan)
  | optional (greedy : Bool) (p : Plan)
  | counted (lo more : Nat) (greedy : Bool) (p : Plan)
  | unbounded (lo : Nat) (greedy : Bool) (p : Plan)
  | ahead (positive : Bool) (p : Plan)
  /-- The pattern matches the last `width` characters, or fails to. -/
  | behind (positive : Bool) (width : Nat) (p : Plan)
  /-- The pattern matches some number of characters up to here, or fails to. -/
  | behindScan (positive : Bool) (p : Simple)
  | atomic (p : Plan)
  | backref (group : Nat) (anyCase : Bool)
  | groupSet (group : Nat)
  | choose (condition yes no : Plan)
  | keepOut
  | searchStart
deriving DecidableEq, Repr

namespace Regex

/-- The least number of characters a match takes, as far as the shape tells. -/
def minLength : Regex → Nat
  | .empty | .anchor _ | .ahead .. | .behind .. | .backref .. | .groupSet _ | .keepOut
  | .searchStart => 0
  | .chars _ => 1
  | .seq p q => p.minLength + q.minLength
  | .alt p q => min p.minLength q.minLength
  | .capture _ p | .atomic p => p.minLength
  | .iterate lo _ _ p => lo * p.minLength
  | .choose c p q => c.minLength + min p.minLength q.minLength

def fixedLength : Regex → Bool
  | .empty | .chars _ | .anchor _ | .ahead .. | .behind .. | .groupSet _ | .keepOut
  | .searchStart => true
  | .seq p q => p.fixedLength && q.fixedLength
  | .alt p q => p.fixedLength && q.fixedLength && p.minLength == q.minLength
  | .capture _ p | .atomic p => p.fixedLength
  | .iterate lo hi _ p => p.fixedLength && hi == some lo
  | .backref .. => false
  | .choose c p q =>
    c.fixedLength && p.fixedLength && q.fixedLength && p.minLength == q.minLength

/-- The pattern needs backtracking. So does a group that is referred to, because a later failure may
ask it to match in another way. -/
def isHard (references : List Nat) : Regex → Bool
  | .empty | .chars _ | .anchor _ => false
  | .seq p q | .alt p q => p.isHard references || q.isHard references
  | .capture g p => references.contains g || p.isHard references
  | .iterate _ _ _ p => p.isHard references
  | .ahead .. | .behind .. | .atomic _ | .backref .. | .groupSet _ | .choose .. | .keepOut
  | .searchStart => true

def lookBehind (positive : Bool) : Regex → Regex
  | .alt p q =>
    if (Regex.alt p q).fixedLength then .behind positive (.alt p q)
    else if positive then .alt (lookBehind positive p) (lookBehind positive q)
    else ofElements [lookBehind positive p, lookBehind positive q]
  | p => .behind positive p

def splitBehind : Regex → Regex
  | .behind positive p => lookBehind positive p.splitBehind
  | .seq p q => .seq p.splitBehind q.splitBehind
  | .alt p q => .alt p.splitBehind q.splitBehind
  | .capture g p => .capture g p.splitBehind
  | .iterate lo hi greedy p => .iterate lo hi greedy p.splitBehind
  | .ahead positive p => .ahead positive p.splitBehind
  | .atomic p => .atomic p.splitBehind
  | .choose c p q => .choose c.splitBehind p.splitBehind q.splitBehind
  | .empty => .empty
  | .chars s => .chars s
  | .anchor a => .anchor a
  | .backref g anyCase => .backref g anyCase
  | .groupSet g => .groupSet g
  | .keepOut => .keepOut
  | .searchStart => .searchStart

/-- The plan of a pattern. With `revisited`, a later failure can come back to it and ask for another
match, so that only parts of fixed length may be settled by a scan. With `leading`, nothing but such
parts stands before it in its sequence. A look-behind needs a body of fixed length or without memory. -/
def plan? (references : List Nat) (revisited leading : Bool) : Regex → Option Plan
  | .empty => some .empty
  | .chars s => some (.chars s)
  | .anchor a => some (.anchor a)
  | .seq p q =>
    let easy := !(Regex.seq p q).isHard references
    if easy && (!revisited || (Regex.seq p q).fixedLength) then
      (Regex.seq p q).simple?.map .scan
    else if leading && !p.isHard references && p.fixedLength then do
      some (.seq (.scan (← p.simple?)) (← q.plan? references revisited true))
    else do
      some (.seq (← p.plan? references true true) (← q.plan? references revisited false))
  | .alt p q =>
    if !revisited && !(Regex.alt p q).isHard references then (Regex.alt p q).simple?.map .scan
    else do some (.alt (← p.plan? references revisited true) (← q.plan? references revisited true))
  | .capture g p =>
    if !revisited && !(Regex.capture g p).isHard references then
      (Regex.capture g p).simple?.map .scan
    else do some (.capture g (← p.plan? references revisited true))
  | .iterate lo hi greedy p =>
    if !revisited && !p.isHard references then (Regex.iterate lo hi greedy p).simple?.map .scan
    else if lo = 0 ∧ hi = some 1 then do
      some (.optional greedy (← p.plan? references revisited true))
    else do
      let body ← p.plan? references true true
      match hi with
      | some hi => some (.counted (min lo hi) (hi - lo) greedy body)
      | none => some (.unbounded lo greedy body)
  | .ahead positive p => do some (.ahead positive (← p.plan? references false true))
  | .behind positive p =>
    if p.fixedLength then do
      some (.behind positive p.minLength (← p.plan? references false true))
    else if p.isHard references then none
    else p.simple?.map (.behindScan positive)
  | .atomic p => do some (.atomic (← p.plan? references false true))
  | .backref g anyCase => some (.backref g anyCase)
  | .groupSet g => some (.groupSet g)
  | .choose c p q => do
    some (.choose (← c.plan? references revisited true) (← p.plan? references revisited true)
      (← q.plan? references revisited true))
  | .keepOut => some .keepOut
  | .searchStart => some .searchStart

end Regex

end PatternLoom
