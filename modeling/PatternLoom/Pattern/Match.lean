import PatternLoom.Pattern.Program

/-!
# Matches

A match as it is reported: the matched text with its byte offsets, and the groups with their names.
-/

namespace PatternLoom

set_option autoImplicit false

/-- A matched span of a subject: its byte offsets and its text. -/
structure Match where
  start : Nat
  stop : Nat
  text : Text
deriving DecidableEq, Repr

namespace Match

/-- The span between two character offsets. -/
def ofSpan (subject : Text) (start stop : Nat) : Match where
  start := Text.byteLength (subject.take start)
  stop := Text.byteLength (subject.take stop)
  text := Text.slice subject start stop

def size (m : Match) : Nat := m.stop - m.start

def isEmpty (m : Match) : Bool := m.start == m.stop

end Match

/-- A whole match with its groups. Group zero is the whole match; a group that took no part is absent.
Names belong to the group of the same position. -/
structure Captures where
  whole : Match
  groups : List (Option Match)
  names : List (Option Text)
deriving DecidableEq, Repr

namespace Captures

def ofFound? (g : Program) (subject : Text) (found : Program.Found) : Option Captures := do
  let (start, stop) ← found.span? 0
  let indices := List.range (g.groups + 1)
  some {
    whole := .ofSpan subject start stop
    groups := indices.map fun i => (found.span? i).map fun (a, b) => .ofSpan subject a b
    names := indices.map fun i => (g.names.find? (·.2 == i)).map (·.1) }

def get? (c : Captures) (index : Nat) : Option Match := (c.groups[index]?).join

def name? (c : Captures) (name : Text) : Option Match :=
  (c.names.findIdx? (· == some name)).bind c.get?

def size (c : Captures) : Nat := c.groups.length

def isEmpty (c : Captures) : Bool := c.groups.isEmpty

/-- The text of every group, empty for one that took no part. -/
def texts (c : Captures) : List Text :=
  c.groups.map fun m => (m.map (·.text)).getD []

end Captures

end PatternLoom
