import Mathlib.Logic.Function.Iterate
import PatternLoom.Proofs.Text.Letters

/-!
# Escaped forms

The letters of an escaped text are its characters, each in the form that escaping gives to it. So reading
recovers a text from its escaped form, and a text is an escaped form if and only if every letter of it has
the form that escaping gives to its character.
-/

namespace PatternLoom.Text

set_option autoImplicit false

namespace Letter

/-- The letter that escaping writes for a character. -/
def ofChar (c : Char) : Letter := if isMeta c then .escaped c else .bare c

/-- The letter is a meta-character behind a backslash, or another character alone. -/
def isCanonical : Letter → Bool
  | .bare c => !isMeta c
  | .escaped c => isMeta c

theorem ofChar_of_isMeta {c : Char} (h : isMeta c = true) : ofChar c = .escaped c := if_pos h

theorem ofChar_of_not_isMeta {c : Char} (h : isMeta c = false) : ofChar c = .bare c :=
  if_neg (Bool.eq_false_iff.mp h)

@[simp] theorem char_ofChar (c : Char) : (ofChar c).char = c := by
  cases h : isMeta c with
  | true => rw [ofChar_of_isMeta h, char]
  | false => rw [ofChar_of_not_isMeta h, char]

theorem ofChar_injective : Function.Injective ofChar := Function.LeftInverse.injective char_ofChar

theorem isCanonical_ofChar (c : Char) : (ofChar c).isCanonical = true := by
  cases h : isMeta c with
  | true => rw [ofChar_of_isMeta h, isCanonical, h]
  | false => rw [ofChar_of_not_isMeta h, isCanonical, h, Bool.not_false]

theorem ofChar_char {l : Letter} (h : l.isCanonical = true) : ofChar l.char = l := by
  cases l with
  | bare c => exact ofChar_of_not_isMeta (Bool.not_eq_true' _ ▸ h)
  | escaped c => exact ofChar_of_isMeta h

end Letter

variable {t u : Text}

theorem letters_escapeLiteral (t : Text) : letters (escapeLiteral t) = t.map Letter.ofChar := by
  induction t with
  | nil => rfl
  | cons c t ih =>
    cases h : isMeta c with
    | true =>
      rw [escapeLiteral_of_isMeta h, letters_pair, ih, List.map_cons, Letter.ofChar_of_isMeta h]
    | false =>
      have hc : c ≠ '\\' := ne_of_isMeta h isMeta_backslash
      rw [escapeLiteral_of_not_isMeta h, letters_single hc, ih, List.map_cons,
        Letter.ofChar_of_not_isMeta h]

/-- The characters that stand alone in an escaped text are those of the text that are not escaped. -/
theorem bare_mem_letters_escapeLiteral_iff {d : Char} :
    .bare d ∈ letters (escapeLiteral t) ↔ isMeta d = false ∧ d ∈ t := by
  rw [letters_escapeLiteral, List.mem_map]
  constructor
  · rintro ⟨c, hc, heq⟩
    cases h : isMeta c with
    | true =>
      rw [Letter.ofChar_of_isMeta h] at heq
      cases heq
    | false =>
      rw [Letter.ofChar_of_not_isMeta h] at heq
      cases heq
      exact ⟨h, hc⟩
  · exact fun ⟨hd, hmem⟩ => ⟨d, hmem, Letter.ofChar_of_not_isMeta hd⟩

/-- An escaped text does not end inside of a letter. -/
theorem bare_backslash_not_mem_letters_escapeLiteral (t : Text) :
    .bare '\\' ∉ letters (escapeLiteral t) := by
  rw [bare_mem_letters_escapeLiteral_iff, isMeta_backslash]
  exact fun h => Bool.noConfusion h.1

theorem unescape_escapeLiteral (t : Text) : unescape (escapeLiteral t) = t := by
  rw [← map_char_letters, letters_escapeLiteral, List.map_map]
  exact List.map_id'' Letter.char_ofChar t

theorem isCanonical_of_mem_letters {l : Letter} (h : l ∈ letters (escapeLiteral t)) :
    l.isCanonical = true := by
  rw [letters_escapeLiteral] at h
  obtain ⟨c, -, rfl⟩ := List.mem_map.mp h
  exact Letter.isCanonical_ofChar c

/-- A text of letters in the form that escaping gives to them is the escaped form of what is read off. -/
theorem escapeLiteral_unescape (h : ∀ l ∈ letters u, l.isCanonical = true) :
    escapeLiteral (unescape u) = u := by
  have hletters : (unescape u).map Letter.ofChar = letters u := by
    rw [← map_char_letters, List.map_map]
    exact (List.map_congr_left fun l hl => Letter.ofChar_char (h l hl)).trans (List.map_id _)
  calc escapeLiteral (unescape u)
    _ = (letters (escapeLiteral (unescape u))).flatMap Letter.text := (flatMap_text_letters _).symm
    _ = (letters u).flatMap Letter.text := by rw [letters_escapeLiteral, hletters]
    _ = u := flatMap_text_letters u

theorem escapeLiteral_eq_iff :
    escapeLiteral t = u ↔ (∀ l ∈ letters u, l.isCanonical = true) ∧ unescape u = t := by
  constructor
  · rintro rfl
    exact ⟨fun l hl => isCanonical_of_mem_letters hl, unescape_escapeLiteral t⟩
  · rintro ⟨h, rfl⟩
    exact escapeLiteral_unescape h

theorem exists_escapeLiteral_eq_iff :
    (∃ s, escapeLiteral s = u) ↔ ∀ l ∈ letters u, l.isCanonical = true := by
  constructor
  · rintro ⟨s, hs⟩
    exact (escapeLiteral_eq_iff.mp hs).1
  · exact fun h => ⟨unescape u, escapeLiteral_unescape h⟩

/-- An escaped text that another one starts with is the escaped front of it. -/
theorem exists_of_escapeLiteral_eq_append {s rest : Text}
    (h : escapeLiteral t = escapeLiteral s ++ rest) :
    ∃ t', t = s ++ t' ∧ rest = escapeLiteral t' := by
  have hletters : t.map Letter.ofChar = s.map Letter.ofChar ++ letters rest := by
    rw [← letters_escapeLiteral, h, letters_append (bare_backslash_not_mem_letters_escapeLiteral s),
      letters_escapeLiteral]
  obtain ⟨front, t', rfl, hfront, -⟩ := List.map_eq_append_iff.mp hletters
  obtain rfl : front = s := Letter.ofChar_injective.list_map hfront
  rw [escapeLiteral_append] at h
  exact ⟨t', rfl, (List.append_cancel_left h).symm⟩

/-- Reading takes a text apart into letters and keeps their characters. It recovers every text from its
escaped form, also from one that has been escaped several times. The escaped forms are the texts whose
letters are meta-characters behind a backslash and other characters alone, and each of them is the form of
one text only, the one that is read off. -/
theorem escapeLiteral_reads_back (t u : Text) :
    (letters u).flatMap Letter.text = u ∧ (letters u).map Letter.char = unescape u ∧
      unescape (escapeLiteral t) = t ∧
      ((∃ s, escapeLiteral s = u) ↔ ∀ l ∈ letters u, l.isCanonical = true) ∧
      (escapeLiteral t = u ↔ (∀ l ∈ letters u, l.isCanonical = true) ∧ unescape u = t) ∧
      Function.Injective escapeLiteral ∧ ∀ n, unescape^[n] (escapeLiteral^[n] t) = t := by
  have hinverse : Function.LeftInverse unescape escapeLiteral := unescape_escapeLiteral
  exact ⟨flatMap_text_letters u, map_char_letters u, unescape_escapeLiteral t,
    exists_escapeLiteral_eq_iff, escapeLiteral_eq_iff, hinverse.injective,
    fun n => hinverse.iterate n t⟩

/-- A backslash escaped twice is four of them. -/
example : escapeLiteral (escapeLiteral ['\\', 'a']) = ['\\', '\\', '\\', '\\', 'a'] := by decide

end PatternLoom.Text
