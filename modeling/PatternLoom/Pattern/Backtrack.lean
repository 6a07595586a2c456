import PatternLoom.Pattern.Plan
import PatternLoom.Pattern.Scan
import PatternLoom.Unicode.CaseFolding

/-!
# Matching by backtracking

A plan is matched by trying its ways in order of preference. Every return to a way that had been put
off costs one step of a budget; when the budget is used up, the attempt is abandoned, which is neither
a match nor a failure. Parts that a scan settles cost nothing.
-/

namespace PatternLoom

set_option autoImplicit false

/-- A place in a text: the characters before it, latest first, and those after it. -/
structure Cursor where
  behind : Text
  ahead : Text
deriving DecidableEq, Repr

namespace Cursor

def start (t : Text) : Cursor := ⟨[], t⟩

def offset (c : Cursor) : Nat := c.behind.length

def site (c : Cursor) : Site := ⟨c.behind.head?, c.ahead.head?⟩

def text (c : Cursor) : Text := c.behind.reverse ++ c.ahead

def forward : Nat → Cursor → Cursor
  | 0, c => c
  | _ + 1, ⟨behind, []⟩ => ⟨behind, []⟩
  | n + 1, ⟨behind, d :: ahead⟩ => forward n ⟨d :: behind, ahead⟩

def backward? : Nat → Cursor → Option Cursor
  | 0, c => some c
  | _ + 1, ⟨[], _⟩ => none
  | n + 1, ⟨d :: behind, ahead⟩ => backward? n ⟨behind, d :: ahead⟩

def forwardTo (c : Cursor) (stop : Nat) : Cursor := c.forward (stop - c.offset)

@[simp] theorem forwardTo_offset (c : Cursor) : c.forwardTo c.offset = c := by
  rw [forwardTo, Nat.sub_self]
  rfl

@[simp] theorem text_forward (n : Nat) (c : Cursor) : (c.forward n).text = c.text := by
  induction n generalizing c with
  | zero => rfl
  | succ n ih =>
    obtain ⟨behind, ahead⟩ := c
    cases ahead with
    | nil => rfl
    | cons d ahead => rw [forward, ih]; simp [text]

theorem text_backward? {n : Nat} {c d : Cursor} (h : c.backward? n = some d) : d.text = c.text := by
  induction n generalizing c with
  | zero => rw [backward?] at h; injection h with h; rw [h]
  | succ n ih =>
    obtain ⟨behind, ahead⟩ := c
    cases behind with
    | nil => simp [backward?] at h
    | cons e behind => rw [backward?] at h; rw [ih h]; simp [text]

end Cursor

namespace Plan

structure State where
  cursor : Cursor
  slots : Slots
  /-- The offset where the search began, unless an empty match has been stepped over since. -/
  origin : Option Nat
deriving DecidableEq, Repr

/-- How an attempt ends. A match and a failure leave some of the budget. -/
inductive Outcome where
  | matched (st : State) (budget : Nat)
  | failed (budget : Nat)
  | exhausted
deriving DecidableEq, Repr

/-- What remains to be matched: an outcome for every state and budget. -/
abbrev Goal := State → Nat → Outcome

/-- The first way or, at the cost of one step, the second. -/
def orElse (first second : Goal) : Goal := fun st budget =>
  match first st budget with
  | .failed 0 => .exhausted
  | .failed (budget + 1) => second st budget
  | outcome => outcome

def prefer (greedy : Bool) (more enough : Goal) : Goal :=
  if greedy then orElse more enough else orElse enough more

def done : Goal := .matched

def exactly (body : Goal → Goal) : Nat → Goal → Goal
  | 0, k => k
  | n + 1, k => body (exactly body n k)

def atMost (greedy : Bool) (body : Goal → Goal) : Nat → Goal → Goal
  | 0, k => k
  | n + 1, k => prefer greedy (body (atMost greedy body n k)) k

/-- Any number of matches of a body. A match that consumes nothing is refused; so `fuel` above the
number of characters left is never used up. -/
def anyNumber (greedy : Bool) (body : Goal → Goal) : Nat → Goal → Goal
  | 0, _ => fun _ budget => .failed budget
  | fuel + 1, k => fun st budget =>
    let again : Goal := fun st' budget =>
      if st'.cursor.offset = st.cursor.offset then .failed budget
      else anyNumber greedy body fuel k st' budget
    prefer greedy (body again) k st budget

/-- A condition on the text around a place. When it holds, the match goes on from the same place with
what the condition captured; when the match then fails, the condition is asked to hold in another way.
A condition that must not hold costs one step. -/
def condition (positive : Bool) (body : Goal → Goal) (k : Goal) : Goal := fun st budget =>
  if positive then body (fun st' budget => k { st with slots := st'.slots } budget) st budget
  else
    match body done st budget with
    | .matched _ budget => .failed budget
    | .failed 0 => .exhausted
    | .failed (budget + 1) => k st budget
    | .exhausted => .exhausted

/-- The characters that a text and its repetition agree on: all, or all up to case. -/
def sameCharacter (anyCase : Bool) (a b : Char) : Bool :=
  if anyCase then Unicode.caseFold a == Unicode.caseFold b else a == b

def repetition? (anyCase : Bool) : Text → Text → Option Nat
  | [], _ => some 0
  | _ :: _, [] => none
  | a :: again, c :: t =>
    if sameCharacter anyCase a c then (repetition? anyCase again t).map (· + 1) else none

def scanFrom? (p : Simple) (st : State) : Option State :=
  let c := st.cursor
  (p.matchAt? c.site.before c.offset (st.slots.forget p.captures) c.ahead none).map fun hit =>
    { st with cursor := c.forwardTo hit.stop, slots := hit.slots }

/-- A scan for a match that ends at the state: backward to find its start, and forward again from
there for what it captures. -/
def scanBehind? (p : Simple) (st : State) : Option State := do
  let c := st.cursor
  let hit ← p.reversed.matchAt? c.site.after 0 st.slots c.behind none
  let from' ← c.backward? hit.stop
  if p.captures.isEmpty then some st
  else
    let slots := st.slots.forget p.captures
    let hit ← p.matchAt? from'.site.before from'.offset slots (from'.ahead.take hit.stop) c.site.after
    some { st with slots := hit.slots }

def run : Plan → Goal → Goal
  | .empty, k => k
  | .scan p, k => fun st budget =>
    match scanFrom? p st with
    | some st => k st budget
    | none => .failed budget
  | .chars s, k => fun st budget =>
    match st.cursor.ahead with
    | [] => .failed budget
    | c :: rest =>
      if s.contains c then k { st with cursor := ⟨c :: st.cursor.behind, rest⟩ } budget
      else .failed budget
  | .anchor a, k => fun st budget =>
    if a.holds st.cursor.site then k st budget else .failed budget
  | .seq p q, k => p.run (q.run k)
  | .alt p q, k => orElse (p.run k) (q.run k)
  | .capture g p, k => fun st budget =>
    p.run (fun st budget => k { st with slots := st.slots.closeAt g st.cursor.offset } budget)
      { st with slots := st.slots.openAt g st.cursor.offset } budget
  | .optional greedy p, k => prefer greedy (p.run k) k
  | .counted lo more greedy p, k => exactly p.run lo (atMost greedy p.run more k)
  | .unbounded lo greedy p, k =>
    exactly p.run lo fun st budget =>
      anyNumber greedy p.run (st.cursor.ahead.length + 1) k st budget
  | .ahead positive p, k => condition positive p.run k
  | .behind positive width p, k =>
    condition positive (fun k st budget =>
      match st.cursor.backward? width with
      | some c => p.run k { st with cursor := c } budget
      | none => .failed budget) k
  | .behindScan positive p, k =>
    condition positive (fun k st budget =>
      match scanBehind? p st with
      | some st => k st budget
      | none => .failed budget) k
  | .atomic p, k => fun st budget =>
    match p.run done st budget with
    | .matched st budget => k st budget
    | outcome => outcome
  | .backref g anyCase, k => fun st budget =>
    match st.slots.span? g with
    | none => .failed budget
    | some (start, stop) =>
      match repetition? anyCase (Text.slice st.cursor.text start stop) st.cursor.ahead with
      | some n => k { st with cursor := st.cursor.forward n } budget
      | none => .failed budget
  | .groupSet g, k => fun st budget =>
    if (st.slots.span? g).isSome then k st budget else .failed budget
  | .choose c yes no, k => fun st budget =>
    match c.run done st budget with
    | .matched st budget => yes.run k st budget
    | .failed 0 => .exhausted
    | .failed (budget + 1) => no.run k st budget
    | .exhausted => .exhausted
  | .keepOut, k => fun st budget => k { st with slots := st.slots.openAt 0 st.cursor.offset } budget
  | .searchStart, k => fun st budget =>
    if st.origin = some st.cursor.offset then k st budget else .failed budget

end Plan

end PatternLoom
