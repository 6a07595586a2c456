import PatternLoom.Proofs.Builder.CompositionReading
import PatternLoom.Proofs.Pattern.Meaning

/-!
# The meaning of compositions

A composition has a language: the words of its items, one after the other. What it is read as has the
same language. Groups are reported up to the last one that is not inside of an atom counted zero times.
-/

namespace PatternLoom

set_option autoImplicit false

open Reader (symbolElements choice)

def Run.language : Run → Language Char
  | .symbols t => {t}
  | .anyWord => counted 1 none CharClass.word.language
  | .notWord => counted 1 none (CharClass.compl .word).language
  | .anyWords => counted 1 none (CharClass.union .blank .word).language

mutual

/-- The words of an atom, an item or a composition. A composition has a word of each item, one after
the other. -/
def Atom.language : Atom → Language Char
  | .token _ s _ => s.language
  | .symbol c => {[c]}
  | .oneOf _ first others => {w | w ∈ first :: others}
  | .captureWith _ body => body.language
  | .captured a => a.language
  | .capturedRun x => x.language

def Item.language : Item → Language Char
  | .run x => x.language
  | .once a => a.language
  | .repeated a q => counted q.lo q.hi a.language

def Composition.language : Composition → Language Char
  | .nil => 1
  | .cons i rest => i.language * rest.language

end

mutual

/-- The groups that are reported when `k` groups have been opened before: those that are not inside of
an atom counted zero times. -/
def Atom.reported (k : Nat) : Atom → List Nat
  | .token .. | .symbol _ => []
  | .oneOf .. | .capturedRun _ => [k + 1]
  | .captureWith _ body => (k + 1) :: body.reported (k + 1)
  | .captured a => (k + 1) :: a.reported (k + 1)

def Item.reported (k : Nat) : Item → List Nat
  | .run _ => []
  | .once a => a.reported k
  | .repeated a q => if q.hi = some 0 then [] else a.reported k

def Composition.reported (k : Nat) : Composition → List Nat
  | .nil => []
  | .cons i rest => i.reported k ++ rest.reported (k + i.groups)

end

mutual

def Atom.Every (P : Quantifier → Prop) : Atom → Prop
  | .token .. | .symbol _ | .oneOf .. | .capturedRun _ => True
  | .captureWith _ body => body.Every P
  | .captured a => a.Every P

def Item.Every (P : Quantifier → Prop) : Item → Prop
  | .run _ => True
  | .once a => a.Every P
  | .repeated a q => P q ∧ a.Every P

def Composition.Every (P : Quantifier → Prop) : Composition → Prop
  | .nil => True
  | .cons i rest => i.Every P ∧ rest.Every P

end

def Composition.CountFree (p : Composition) : Prop := p.Every fun q => ¬q.IsCount

/-- No atom is counted zero times. -/
def Composition.Lasting (p : Composition) : Prop := p.Every fun q => q.hi ≠ some 0

theorem Run.denotes (x : Run) : Regex.DenotesAll x.elements x.language [] := by
  have hplus (s : CharClass) (greedy : Bool) :
      Regex.DenotesAll [.iterate 1 none greedy (.chars s)] (counted 1 none s.language) [] :=
    ((Regex.denotes_chars s).iterate 1 none greedy).singleton
  cases x with
  | symbols t => exact Regex.denotesAll_symbols t
  | anyWord | notWord | anyWords => exact hplus _ _

mutual

theorem Atom.denotes (a : Atom) (k : Nat) : (a.regex k).Denotes a.language (a.reported k) := by
  cases a with
  | token t s h => exact Regex.denotes_chars s
  | symbol c =>
    have h : (Atom.symbol c).language = (CharClass.one c).language :=
      (CharClass.language_one c).symm
    exact h ▸ Regex.denotes_chars (.one c)
  | oneOf plural first others => exact (Regex.denotes_choice first others).capture (k + 1)
  | captureWith built body => exact (body.denotes (k + 1)).ofElements.capture (k + 1)
  | captured a => exact (a.denotes (k + 1)).capture (k + 1)
  | capturedRun x => exact x.denotes.ofElements.capture (k + 1)

theorem Item.denotes (i : Item) (k : Nat) :
    Regex.DenotesAll (i.elements k) i.language (i.reported k) := by
  cases i with
  | run x => exact x.denotes
  | once a => exact (a.denotes k).singleton
  | repeated a q => exact ((a.denotes k).iterate q.lo q.hi true).singleton

theorem Composition.denotes (p : Composition) (k : Nat) :
    Regex.DenotesAll (p.elements k) p.language (p.reported k) := by
  cases p with
  | nil => exact .nil
  | cons i p => exact (i.denotes k).append (p.denotes (k + i.groups))

end

theorem Run.copyless (x : Run) : ∀ p ∈ x.elements, p.Copyless := by
  cases x with
  | symbols t => exact Regex.copyless_symbols t
  | anyWord | notWord | anyWords =>
    exact List.forall_mem_singleton.mpr ⟨Nat.le_refl _, Nat.le_refl _, trivial⟩

theorem Quantifier.copyless {q : Quantifier} (h : ¬q.IsCount) {p : Regex} (hp : p.Copyless) :
    (Regex.iterate q.lo q.hi true p).Copyless := by
  cases q with
  | oneOrMore | zeroOrMore => exact ⟨Nat.le_refl _, by decide, hp⟩
  | exactly | between => exact absurd trivial h

mutual

theorem Atom.copyless (a : Atom) (h : a.Every fun q => ¬q.IsCount) (k : Nat) :
    (a.regex k).Copyless := by
  cases a with
  | token | symbol => trivial
  | oneOf plural first others => exact Regex.copyless_choice first others
  | captureWith built body => exact Regex.copyless_ofElements (body.copyless h (k + 1))
  | captured a => exact a.copyless h (k + 1)
  | capturedRun x => exact Regex.copyless_ofElements x.copyless

theorem Item.copyless (i : Item) (h : i.Every fun q => ¬q.IsCount) (k : Nat) :
    ∀ p ∈ i.elements k, p.Copyless := by
  cases i with
  | run x => exact x.copyless
  | once a => exact List.forall_mem_singleton.mpr (a.copyless h k)
  | repeated a q => exact List.forall_mem_singleton.mpr (Quantifier.copyless h.1 (a.copyless h.2 k))

theorem Composition.copyless (p : Composition) (h : p.CountFree) (k : Nat) :
    ∀ q ∈ p.elements k, q.Copyless := by
  cases p with
  | nil => exact List.forall_mem_nil _
  | cons i p =>
    exact List.forall_mem_append.mpr ⟨i.copyless h.1 k, p.copyless h.2 (k + i.groups)⟩

end

mutual

theorem Atom.reported_eq (a : Atom) (h : a.Every fun q => q.hi ≠ some 0) (k : Nat) :
    a.reported k = List.range' (k + 1) a.groups := by
  cases a with
  | token | symbol | oneOf | capturedRun => rfl
  | captureWith built body =>
    rw [Atom.reported, body.reported_eq h (k + 1), Atom.groups, Nat.add_comm 1, List.range'_succ]
  | captured a =>
    rw [Atom.reported, a.reported_eq h (k + 1), Atom.groups, Nat.add_comm 1, List.range'_succ]

theorem Item.reported_eq (i : Item) (h : i.Every fun q => q.hi ≠ some 0) (k : Nat) :
    i.reported k = List.range' (k + 1) i.groups := by
  cases i with
  | run => rfl
  | once a => exact a.reported_eq h k
  | repeated a q => rw [Item.reported, if_neg h.1, a.reported_eq h.2 k, Item.groups]

/-- All groups are reported when no atom is counted zero times. -/
theorem Composition.reported_eq (p : Composition) (h : p.Lasting) (k : Nat) :
    p.reported k = List.range' (k + 1) p.groups := by
  cases p with
  | nil => rfl
  | cons i p =>
    rw [Composition.reported, i.reported_eq h.1 k, p.reported_eq h.2 (k + i.groups),
      Composition.groups, Nat.add_right_comm, List.range'_append_1]

end

end PatternLoom
