import Mathlib.Algebra.Ring.Parity
import Mathlib.Data.List.Induction
import PatternLoom.Builder.Basic
import PatternLoom.Proofs.Text.Letters

/-!
# Where the body of a class ends

The body of a class is escaped character by character, while a reader that looks for the closing bracket
takes it letter by letter. Both agree on a bracket that stands alone. A bracket behind a backslash gets
another one, which the first one takes along, so that the bracket stands alone; and a backslash at the end
takes the closing bracket along. Either comes from a run of an odd number of backslashes.
-/

namespace PatternLoom

set_option autoImplicit false

namespace Text

namespace Letter

/-- The letters that escaping for a class makes of one letter. -/
def inClass : Letter → List Letter
  | .bare c => if c = ']' then [.escaped ']'] else [.bare c]
  | .escaped c => if c = ']' then [.escaped '\\', .bare ']'] else [.escaped c]

variable {c : Char} {l : Letter}

theorem inClass_bare_of_ne (h : c ≠ ']') : (bare c).inClass = [.bare c] := if_neg h

theorem inClass_escaped_of_ne (h : c ≠ ']') : (escaped c).inClass = [.escaped c] := if_neg h

theorem bare_bracket_mem_inClass_iff : .bare ']' ∈ l.inClass ↔ l = .escaped ']' := by
  cases l with
  | bare c => by_cases hc : c = ']' <;> simp [inClass, hc, eq_comm]
  | escaped c => by_cases hc : c = ']' <;> simp [inClass, hc]

theorem bare_backslash_mem_inClass_iff : .bare '\\' ∈ l.inClass ↔ l = .bare '\\' := by
  cases l with
  | bare c => by_cases hc : c = ']' <;> simp [inClass, hc, eq_comm]
  | escaped c => by_cases hc : c = ']' <;> simp [inClass, hc]

end Letter

variable {t u front back : Text} {n : Nat}

theorem letters_escapeClass (t : Text) :
    letters (escapeClass t) = (letters t).flatMap Letter.inClass := by
  induction t using letters_induction with
  | nil => rfl
  | lone => rfl
  | pair c t ih =>
    rw [letters_pair, List.flatMap_cons, ← ih, escapeClass_of_ne (by decide)]
    by_cases hc : c = ']'
    · subst hc
      -- the backslash takes along the one that escaping puts in front of the bracket
      rw [escapeClass_bracket, letters_pair, letters_single (by decide)]
      rfl
    · rw [escapeClass_of_ne hc, letters_pair, Letter.inClass_escaped_of_ne hc, List.singleton_append]
  | single c t hbackslash ih =>
    rw [letters_single hbackslash, List.flatMap_cons, ← ih]
    by_cases hc : c = ']'
    · subst hc
      rfl
    · rw [escapeClass_of_ne hc, letters_single hbackslash, Letter.inClass_bare_of_ne hc,
        List.singleton_append]

/-- A reader finds the bracket behind an escaped body unless the body takes a bracket along, or ends inside
of a letter. -/
theorem upTo?_escapeClass_iff :
    upTo? ']' (escapeClass t ++ [']']) = some (escapeClass t, []) ↔
      .escaped ']' ∉ letters t ∧ .bare '\\' ∉ letters t := by
  have hbracket : .bare ']' ∈ letters (escapeClass t) ↔ .escaped ']' ∈ letters t := by
    simp [letters_escapeClass, Letter.bare_bracket_mem_inClass_iff]
  have hbackslash : .bare '\\' ∈ letters (escapeClass t) ↔ .bare '\\' ∈ letters t := by
    simp [letters_escapeClass, Letter.bare_backslash_mem_inClass_iff]
  rw [upTo?_eq_some_iff (by decide), hbracket, hbackslash]
  exact and_iff_right rfl

section Runs

/-- A run of `n` backslashes in a text, as long as it can be, with a closing bracket or the end of the text
behind it. A place without backslashes is a run of none. -/
structure ClosingRun (t front : Text) (n : Nat) (back : Text) : Prop where
  parts : t = front ++ List.replicate n '\\' ++ back
  longest : front.getLast? ≠ some '\\'
  closing : back = [] ∨ back.head? = some ']'

theorem ClosingRun.eq_zero (h : ClosingRun t front n back) (ht : '\\' ∉ t) : n = 0 := by
  by_contra hn
  have hrun : '\\' ∈ List.replicate n '\\' := List.mem_replicate.mpr ⟨hn, rfl⟩
  rw [h.parts] at ht
  exact ht (List.mem_append_left _ (List.mem_append_right _ hrun))

/-- Each backslash of a run ends a letter or begins one, by turns. -/
theorem bare_backslash_mem_letters_run_iff (hfront : front.getLast? ≠ some '\\') (n : Nat) :
    .bare '\\' ∈ letters (front ++ List.replicate n '\\') ↔ Odd n := by
  induction n with
  | zero =>
    rw [List.replicate_zero, List.append_nil]
    refine iff_of_false ?_ (by decide)
    cases front using List.reverseRecOn with
    | nil => exact List.not_mem_nil
    | append_singleton front c =>
      rw [List.getLast?_concat] at hfront
      rw [bare_backslash_mem_letters_concat_iff]
      exact fun h => hfront (congrArg some h.1)
  | succ n ih =>
    rw [List.replicate_succ', ← List.append_assoc, bare_backslash_mem_letters_concat_iff, ih,
      Nat.odd_add_one, eq_self, true_and]

theorem exists_run (u : Text) :
    ∃ front n, u = front ++ List.replicate n '\\' ∧ front.getLast? ≠ some '\\' := by
  induction u using List.reverseRecOn with
  | nil => exact ⟨[], 0, rfl, by simp⟩
  | append_singleton u c ih =>
    by_cases hc : c = '\\'
    · obtain ⟨front, n, rfl, hfront⟩ := ih
      refine ⟨front, n + 1, ?_, hfront⟩
      rw [hc, List.replicate_succ', List.append_assoc]
    · refine ⟨u ++ [c], 0, (List.append_nil _).symm, ?_⟩
      rw [List.getLast?_concat]
      exact fun h => hc (Option.some.inj h)

/-- What keeps a reader from the end of a class are runs of an odd length. -/
theorem exists_odd_run_iff :
    (∃ front n back, ClosingRun t front n back ∧ Odd n) ↔
      .escaped ']' ∈ letters t ∨ .bare '\\' ∈ letters t := by
  constructor
  · rintro ⟨front, n, back, ⟨rfl, hlongest, hclosing⟩, hodd⟩
    have hinside := (bare_backslash_mem_letters_run_iff hlongest n).mpr hodd
    rcases hclosing with rfl | hhead
    · rw [List.append_nil]
      exact Or.inr hinside
    · obtain ⟨v, rfl⟩ := List.head?_eq_some_iff.mp hhead
      exact Or.inl (escaped_mem_letters_iff.mpr ⟨_, v, rfl, hinside⟩)
  · intro h
    have hsplit : ∃ u back, t = u ++ back ∧ (back = [] ∨ back.head? = some ']') ∧
        .bare '\\' ∈ letters u := by
      rcases h with h | h
      · obtain ⟨u, v, rfl, hu⟩ := escaped_mem_letters_iff.mp h
        exact ⟨u, ']' :: v, rfl, Or.inr rfl, hu⟩
      · exact ⟨t, [], (List.append_nil t).symm, Or.inl rfl, h⟩
    obtain ⟨u, back, rfl, hclosing, hinside⟩ := hsplit
    obtain ⟨front, n, rfl, hlongest⟩ := exists_run u
    exact ⟨front, n, back, ⟨rfl, hlongest, hclosing⟩,
      (bare_backslash_mem_letters_run_iff hlongest n).mp hinside⟩

end Runs

theorem upTo?_escapeClass_iff_even :
    upTo? ']' (escapeClass t ++ [']']) = some (escapeClass t, []) ↔
      ∀ front n back, ClosingRun t front n back → Even n := by
  rw [upTo?_escapeClass_iff, ← not_or, ← exists_odd_run_iff]
  simp only [not_exists, not_and, Nat.not_odd_iff_even]

end Text

namespace Builder

open Text (ClosingRun escapeClass letters upTo?)

/-- The fragment of a class ends where a reader takes it to end exactly if every run of backslashes in
front of a closing bracket of its body, or at the end of the body, has an even length. So it does without
backslashes, and does not if a bracket of the body is escaped already. -/
theorem class_ends (t : Text) :
    let fragment := '[' :: (escapeClass t ++ [']'])
    let ends := upTo? ']' fragment.tail = some (escapeClass t, [])
    (∀ (b : Builder) (body : SubPattern), body.evaluate.1 = t →
        (Step.run b (.group body)).builder = b.push fragment) ∧
      (ends ↔ ∀ front n back, ClosingRun t front n back → Even n) ∧
      ('\\' ∉ t → ends) ∧ (.escaped ']' ∈ letters t → ¬ends) := by
  intro fragment ends
  refine ⟨?_, Text.upTo?_escapeClass_iff_even, ?_, ?_⟩
  · rintro b body rfl
    rfl
  · intro hbackslash
    refine Text.upTo?_escapeClass_iff_even.mpr fun front n back h => ?_
    rw [h.eq_zero hbackslash]
    exact Even.zero
  · exact fun h hends => (Text.upTo?_escapeClass_iff.mp hends).1 h

/-- A bracket that is escaped already ends the class. -/
example : upTo? ']' (escapeClass ['\\', ']', 'a'] ++ [']']) = some (['\\', '\\'], ['a', ']']) := by
  decide

end Builder

end PatternLoom
