import PatternLoom.Pattern.Simple
import PatternLoom.Text.Basic

/-!
# Matching in one pass

A scan keeps an ordered list of threads, the preferred one first. A thread is a list of tasks that
remain to be done. Between two characters every thread is expanded until it wants to read a character
or has nothing left to do; a list of tasks that has been met before at the same place is dropped,
because the thread that met it first is preferred. So a scan takes time proportional to the product of
text and pattern, and an iteration that consumes nothing ends its repetition.
-/

namespace PatternLoom

set_option autoImplicit false

/-- The boundaries of the groups that have been set, two per group. -/
abbrev Slots := List (Option Nat)

namespace Slots

def unset (groups : Nat) : Slots := List.replicate (2 * (groups + 1)) none

def openAt (slots : Slots) (group offset : Nat) : Slots := slots.set (2 * group) (some offset)

def closeAt (slots : Slots) (group offset : Nat) : Slots := slots.set (2 * group + 1) (some offset)

def forget (slots : Slots) (groups : List Nat) : Slots :=
  groups.foldl (fun s g => (s.set (2 * g) none).set (2 * g + 1) none) slots

def span? (slots : Slots) (group : Nat) : Option (Nat × Nat) :=
  match slots.getD (2 * group) none, slots.getD (2 * group + 1) none with
  | some start, some stop => some (start, stop)
  | _, _ => none

end Slots

namespace Simple

inductive Task where
  | run (p : Simple)
  /-- Match a pattern again or go on; the iteration under way began at offset `since`. -/
  | again (since : Option Nat) (greedy : Bool) (p : Simple)
  | close (group : Nat)
deriving DecidableEq, Repr

/-- A task without the memory of where its iteration began. -/
def Task.shape : Task → Task
  | .again _ greedy p => .again none greedy p
  | t => t

structure Reading where
  members : CharClass
  todo : List Task
  slots : Slots
deriving DecidableEq, Repr

inductive Thread where
  | reading (r : Reading)
  | finished (slots : Slots)
deriving DecidableEq, Repr

/-- An upper bound for the steps a pattern takes without reading a character. -/
def weight : Simple → Nat
  | .empty | .chars _ | .anchor _ => 1
  | .seq p q | .alt p q => p.weight + q.weight + 1
  | .capture _ p => p.weight + 2
  | .optional _ p => p.weight + 1
  | .plus _ p | .star _ p => p.weight + 3

def Task.weight (here : Nat) : Task → Nat
  | .run p => p.weight
  | .again since _ p => if since = some here then 1 else p.weight + 2
  | .close _ => 1

theorem weight_pos (p : Simple) : 0 < p.weight := by
  cases p <;> simp [weight]

theorem Task.weight_pos (here : Nat) (t : Task) : 0 < t.weight here := by
  cases t with
  | run p => exact Simple.weight_pos p
  | again since greedy p => simp only [Task.weight]; split <;> omega
  | close group => exact Nat.one_pos

def todoWeight (here : Nat) : List Task → Nat
  | [] => 0
  | task :: rest => task.weight here + todoWeight here rest

/-- The lists of tasks met so far at one place, and the threads found, latest first. -/
structure Front where
  met : List (List Task) := []
  threads : List Thread := []

def Front.hasMet (f : Front) (todo : List Task) : Bool := f.met.contains (todo.map Task.shape)

def Front.meet (f : Front) (todo : List Task) : Front :=
  { f with met := todo.map Task.shape :: f.met }

def Front.add (f : Front) (t : Thread) : Front := { f with threads := t :: f.threads }

/-- Expands a thread at offset `here`, preferred ways first. -/
def expand (site : Site) (here : Nat) (todo : List Task) (slots : Slots) (f : Front) : Front :=
  match todo with
  | [] => f.add (.finished slots)
  | .close g :: rest => expand site here rest (slots.closeAt g here) f
  | .run .empty :: rest => expand site here rest slots f
  | .run (.chars s) :: rest => f.add (.reading ⟨s, rest, slots⟩)
  | .run (.anchor a) :: rest => if a.holds site then expand site here rest slots f else f
  | .run (.seq p q) :: rest => expand site here (.run p :: .run q :: rest) slots f
  | .run (.capture g p) :: rest =>
    expand site here (.run p :: .close g :: rest) (slots.openAt g here) f
  | .run (.alt p q) :: rest =>
    if f.hasMet todo then f
    else expand site here (.run q :: rest) slots (expand site here (.run p :: rest) slots (f.meet todo))
  | .run (.optional greedy p) :: rest =>
    if f.hasMet todo then f
    else if greedy then
      expand site here rest slots (expand site here (.run p :: rest) slots (f.meet todo))
    else
      expand site here (.run p :: rest) slots (expand site here rest slots (f.meet todo))
  | .run (.plus greedy p) :: rest =>
    expand site here (.run p :: .again (some here) greedy p :: rest) slots f
  | .run (.star greedy p) :: rest => expand site here (.again none greedy p :: rest) slots f
  | .again since greedy p :: rest =>
    if f.hasMet todo then f
    else if since = some here then expand site here rest slots (f.meet todo)
    else
      let inner := .run p :: .again (some here) greedy p :: rest
      if greedy then
        expand site here rest slots (expand site here inner slots (f.meet todo))
      else
        expand site here inner slots (expand site here rest slots (f.meet todo))
termination_by todoWeight here todo
decreasing_by
  all_goals grind [todoWeight, Task.weight, weight, weight_pos]

structure Hit where
  stop : Nat
  slots : Slots
deriving DecidableEq, Repr

/-- The threads that are preferred to every finished one, and the slots of the first finished one. -/
def cut : List Thread → List Reading × Option Slots
  | [] => ([], none)
  | .finished slots :: _ => ([], some slots)
  | .reading r :: rest => (r :: (cut rest).1, (cut rest).2)

/-- A thread that has read `c`, expanded after those before it, or gone if it wanted another
character. -/
def expandNext (site : Site) (here : Nat) (c : Char) (f : Front) (r : Reading) : Front :=
  if r.members.contains c then expand site here r.todo r.slots f else f

def advance (site : Site) (here : Nat) (c : Char) (reading : List Reading) : List Thread :=
  (reading.foldl (expandNext site here c) {}).threads.reverse

/-- Runs the threads over `text`, which ends in front of the character `beyond`. A finished thread
makes all less preferred ones pointless, and a later hit comes from a preferred thread. -/
def run (beyond : Option Char) (here : Nat) (threads : List Thread) (best : Option Hit) :
    Text → Option Hit
  | [] => (((cut threads).2.map fun slots => ⟨here, slots⟩)).or best
  | c :: rest =>
    let (reading, found) := cut threads
    let best := (found.map fun slots => ⟨here, slots⟩).or best
    if reading.isEmpty then best
    else
      let site : Site := ⟨some c, (rest.head?).or beyond⟩
      run beyond (here + 1) (advance site (here + 1) c reading) best rest

/-- Matches a pattern at offset `here` of a text, between the character `before` and the characters
`text`, which end in front of `beyond`. -/
def matchAt? (p : Simple) (before : Option Char) (here : Nat) (slots : Slots) (text : Text)
    (beyond : Option Char) : Option Hit :=
  let site : Site := ⟨before, (text.head?).or beyond⟩
  run beyond here (expand site here [.run p] slots {}).threads.reverse none text

end Simple

end PatternLoom
