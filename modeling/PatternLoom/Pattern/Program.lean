import PatternLoom.Pattern.Backtrack
import PatternLoom.Pattern.Reader

/-!
# Compiled patterns

A pattern is compiled into a program, which finds the leftmost match at or after a place. All matches
of a text are found one after the other; an empty match at the end of the one before is passed over.
-/

namespace PatternLoom

set_option autoImplicit false

inductive Matcher where
  | onePass (p : Simple)
  | backtracking (p : Plan)
deriving DecidableEq, Repr

/-- The highest group that a matcher of a pattern with `groups` groups reports. A group in a part that
is repeated zero times has left no trace in a one-pass pattern. -/
def Matcher.lastGroup (groups : Nat) : Matcher → Nat
  | .onePass p => p.captures.foldl max 0
  | .backtracking _ => groups

structure Program where
  pattern : Text
  groups : Nat
  names : List (Text × Nat)
  matcher : Matcher
deriving DecidableEq, Repr

namespace Regex

def trailingAhead? : Regex → Option (Regex × Regex)
  | .seq (.ahead true q) .empty => some (.empty, q)
  | .seq p q => (trailingAhead? q).map fun (front, body) => (.seq p front, body)
  | _ => none

/-- A pattern with its whole match as group zero. What a look-ahead at the very end asks for is matched
after that group has been closed, so the look-ahead itself is spared. -/
def whole (r : Regex) : Regex :=
  match trailingAhead? r with
  | some (front, body) => ofElements [.capture 0 front, body]
  | none => .capture 0 r

def matcher? (references : List Nat) (r : Regex) : Option Matcher :=
  if r.whole.isHard references then (r.whole.plan? references false true).map .backtracking
  else r.whole.simple?.map .onePass

end Regex

namespace Program

def compile? (t : Text) : Option Program := do
  let p ← Pattern.read? t
  let m ← p.regex.splitBehind.matcher? p.references
  some ⟨t, m.lastGroup p.groups, p.names, m⟩

/-- The groups of a match, the whole match being group zero. -/
abbrev Found := Slots

/-- How a search ends when it is not abandoned: with a match or without. -/
abbrev SearchResult := Option Found

/-- A match that was told to begin behind its end begins at its end. -/
def clampStart (found : Found) : Found :=
  match found.span? 0 with
  | some (start, stop) => found.openAt 0 (min start stop)
  | none => found

def searchOnePass (p : Simple) (slots : Slots) (behind : Text) : Text → SearchResult
  | [] => (p.matchAt? behind.head? behind.length slots [] none).map (·.slots)
  | c :: ahead =>
    match p.matchAt? behind.head? behind.length slots (c :: ahead) none with
    | some hit => some hit.slots
    | none => searchOnePass p slots (c :: behind) ahead

/-- The leftmost match of a plan at or after a place, or none at all when the budget does not last.
Giving up a place costs one step. -/
def searchPlan (p : Plan) (slots : Slots) (origin : Option Nat) (budget : Nat) (behind : Text) :
    Text → Option SearchResult
  | [] =>
    match p.run Plan.done ⟨⟨behind, []⟩, slots, origin⟩ budget with
    | .matched st _ => some (some (clampStart st.slots))
    | .failed 0 => none
    | .failed (_ + 1) => some none
    | .exhausted => none
  | c :: ahead =>
    match p.run Plan.done ⟨⟨behind, c :: ahead⟩, slots, origin⟩ budget with
    | .matched st _ => some (some (clampStart st.slots))
    | .failed 0 => none
    | .failed (budget + 1) => searchPlan p slots origin budget (c :: behind) ahead
    | .exhausted => none

/-- The leftmost match at or after a place; `none` when more than `limit` steps would be needed. The
pattern may ask whether it is at the `origin` of the search. -/
def search? (g : Program) (limit : Nat) (origin : Option Nat) (c : Cursor) : Option SearchResult :=
  match g.matcher with
  | .onePass p => some (searchOnePass p (Slots.unset g.groups) c.behind c.ahead)
  | .backtracking p => searchPlan p (Slots.unset g.groups) origin limit c.behind c.ahead

/-- The origin of a search from a place, when the match before ended at `last`: the place itself,
unless the search has stepped over an empty match. -/
def searchOrigin (c : Cursor) (last : Option Nat) : Option Nat :=
  if last.all (· = c.offset) then some c.offset else none

inductive Ending where
  | complete
  | exhausted
  | endless
deriving DecidableEq, Repr

structure Findings where
  found : List Found
  ending : Ending
deriving DecidableEq, Repr

def Findings.cons (found : Found) (rest : Findings) : Findings :=
  { rest with found := found :: rest.found }

/-- All matches from a place on. The number `fuel` bounds the searches that are made, and `last` is the
end of the match before. A match that was told to begin behind that end can leave the search where it
was. -/
def searchAll (g : Program) (limit : Nat) : Nat → Cursor → Option Nat → Findings
  | 0, _, _ => ⟨[], .endless⟩
  | fuel + 1, c, last =>
    match g.search? limit (searchOrigin c last) c with
    | none => ⟨[], .exhausted⟩
    | some none => ⟨[], .complete⟩
    | some (some found) =>
      match found.span? 0 with
      | none => ⟨[], .complete⟩
      | some (start, stop) =>
        let c := c.forwardTo stop
        if start = stop then
          let rest := match c.ahead with
            | [] => ⟨[], .complete⟩
            | d :: ahead => searchAll g limit fuel ⟨d :: c.behind, ahead⟩ (some stop)
          if last = some stop then rest else rest.cons found
        else (searchAll g limit fuel c (some stop)).cons found

/-- All matches in a text, from left to right. A search for them that ends makes at most two searches
from every place. -/
def findAll (g : Program) (limit : Nat) (subject : Text) : Findings :=
  g.searchAll limit (2 * (subject.length + 1)) (Cursor.start subject) none

def find? (g : Program) (limit : Nat) (subject : Text) : Option SearchResult :=
  g.search? limit (some 0) (Cursor.start subject)

end Program

end PatternLoom
