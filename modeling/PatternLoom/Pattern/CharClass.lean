import PatternLoom.Unicode.Blank
import PatternLoom.Unicode.CaseFolding
import PatternLoom.Unicode.Category
import PatternLoom.Unicode.Digit
import PatternLoom.Unicode.Word

/-!
# Character classes

A class is a Boolean expression over characters. It stays an expression, so that two classes can be
compared for equality; `contains` is its meaning.
-/

namespace PatternLoom

set_option autoImplicit false

inductive CharClass where
  | anything
  | range (lo hi : Char)
  | digit
  | blank
  | word
  | category (g : Unicode.Category)
  | union (a b : CharClass)
  | inter (a b : CharClass)
  | compl (a : CharClass)
  | anyCase (a : CharClass)
deriving DecidableEq, Repr

namespace CharClass

def nothing : CharClass := .compl .anything

def one (c : Char) : CharClass := .range c c

def diff (a b : CharClass) : CharClass := .inter a (.compl b)

def symmDiff (a b : CharClass) : CharClass := .union (diff a b) (diff b a)

def unions : List CharClass → CharClass
  | [] => nothing
  | [a] => a
  | a :: rest => .union a (unions rest)

/-- Membership. A character belongs to `anyCase a` when one of its case forms belongs to `a`. -/
def contains : CharClass → Char → Bool
  | .anything, _ => true
  | .range lo hi, c => lo ≤ c && c ≤ hi
  | .digit, c => Unicode.isDigit c
  | .blank, c => Unicode.isBlank c
  | .word, c => Unicode.isWord c
  | .category g, c => Unicode.category c == g
  | .union a b, c => a.contains c || b.contains c
  | .inter a b, c => a.contains c && b.contains c
  | .compl a, c => !a.contains c
  | .anyCase a, c => a.contains c || (Unicode.caseForms c).any a.contains

@[simp] theorem contains_nothing (c : Char) : nothing.contains c = false := rfl

@[simp] theorem contains_one (a c : Char) : (one a).contains c = true ↔ c = a := by
  simp only [one, contains, Bool.and_eq_true, decide_eq_true_eq]
  exact ⟨fun h => Char.le_antisymm h.2 h.1, fun h => h ▸ ⟨Char.le_refl _, Char.le_refl _⟩⟩

@[simp] theorem contains_diff (a b : CharClass) (c : Char) :
    (diff a b).contains c = (a.contains c && !b.contains c) := rfl

theorem contains_unions (as : List CharClass) (c : Char) :
    (unions as).contains c = as.any (·.contains c) := by
  induction as with
  | nil => rfl
  | cons a rest ih =>
    cases rest with
    | nil => simp [unions]
    | cons b rest => simp [unions, contains, ih]

end CharClass

end PatternLoom
