import Mathlib.Data.List.Basic
import PatternLoom.Text.Escape

/-!
# Texts read letter by letter

A reader of an escaped text takes a backslash together with its successor, and any other character alone.
What it takes at once is a letter, and stands for one character. A reader that looks for a character finds
the first letter that is this character alone.
-/

namespace PatternLoom.Text

set_option autoImplicit false

/-- What a reader takes at once: a character alone, or one behind a backslash. -/
inductive Letter where
  | bare (c : Char)
  | escaped (c : Char)
deriving DecidableEq, Repr

namespace Letter

def char : Letter → Char
  | .bare c => c
  | .escaped c => c

def text : Letter → Text
  | .bare c => [c]
  | .escaped c => ['\\', c]

end Letter

/-- The letters of a text, from left to right. A backslash at the very end is a letter alone. -/
def letters : Text → List Letter
  | [] => []
  | ['\\'] => [.bare '\\']
  | '\\' :: c :: t => .escaped c :: letters t
  | c :: t => .bare c :: letters t

@[simp] theorem letters_nil : letters [] = [] := rfl

@[simp] theorem letters_lone : letters ['\\'] = [.bare '\\'] := rfl

@[simp] theorem letters_pair (c : Char) (t : Text) :
    letters ('\\' :: c :: t) = .escaped c :: letters t := rfl

theorem letters_single {c : Char} (hc : c ≠ '\\') (t : Text) :
    letters (c :: t) = .bare c :: letters t := by
  rw [letters.eq_def]
  split <;> simp_all

theorem unescape_single {c : Char} (hc : c ≠ '\\') (t : Text) :
    unescape (c :: t) = c :: unescape t := by
  rw [unescape.eq_def]
  split <;> simp_all

/-- Induction along the letters of a text. -/
@[elab_as_elim]
theorem letters_induction {motive : Text → Prop} (nil : motive []) (lone : motive ['\\'])
    (pair : ∀ c t, motive t → motive ('\\' :: c :: t))
    (single : ∀ c t, c ≠ '\\' → motive t → motive (c :: t)) (t : Text) : motive t := by
  induction t using letters.induct with
  | case1 => exact nil
  | case2 => exact lone
  | case3 c t ih => exact pair c t ih
  | case4 c t hlone hpair ih =>
    refine single c t ?_ ih
    rintro rfl
    cases t with
    | nil => exact hlone rfl rfl
    | cons d t => exact hpair d t rfl rfl

theorem flatMap_text_letters (t : Text) : (letters t).flatMap Letter.text = t := by
  induction t using letters_induction with
  | nil => rfl
  | lone => rfl
  | pair c t ih =>
    rw [letters_pair, List.flatMap_cons, ih]
    rfl
  | single c t hc ih =>
    rw [letters_single hc, List.flatMap_cons, ih]
    rfl

theorem map_char_letters (t : Text) : (letters t).map Letter.char = unescape t := by
  induction t using letters_induction with
  | nil => rfl
  | lone => rfl
  | pair c t ih =>
    rw [letters_pair, List.map_cons, ih]
    rfl
  | single c t hc ih =>
    rw [letters_single hc, List.map_cons, ih, unescape_single hc]
    rfl

/-- A text that does not end inside of a letter is read on its own, whatever follows. -/
theorem letters_append {u : Text} (hu : .bare '\\' ∉ letters u) (v : Text) :
    letters (u ++ v) = letters u ++ letters v := by
  induction u using letters_induction with
  | nil => rfl
  | lone => exact absurd List.mem_cons_self hu
  | pair c u ih =>
    rw [letters_pair, List.mem_cons, not_or] at hu
    rw [List.cons_append, List.cons_append, letters_pair, ih hu.2, letters_pair, List.cons_append]
  | single c u hc ih =>
    rw [letters_single hc, List.mem_cons, not_or] at hu
    rw [List.cons_append, letters_single hc, ih hu.2, letters_single hc, List.cons_append]

section Membership

variable {d : Char} {t : Text}

/-- A text ends inside of a letter if it ends with a backslash and does not do so without it. -/
theorem bare_backslash_mem_letters_concat_iff (t : Text) (c : Char) :
    .bare '\\' ∈ letters (t ++ [c]) ↔ c = '\\' ∧ .bare '\\' ∉ letters t := by
  induction t using letters_induction with
  | nil =>
    by_cases hc : c = '\\'
    · subst hc
      simp
    · simp [letters_single hc, hc, Ne.symm hc]
  | lone => simp
  | pair d t ih => simpa using ih
  | single d t hd ih => simpa [letters_single hd, Ne.symm hd] using ih

/-- A character is taken along if the text in front of it ends inside of a letter. -/
theorem escaped_mem_letters_iff :
    .escaped d ∈ letters t ↔ ∃ u v, t = u ++ d :: v ∧ .bare '\\' ∈ letters u := by
  constructor
  · intro h
    induction t using letters_induction with
    | nil => cases h
    | lone => simp at h
    | pair c t ih =>
      rcases List.mem_cons.mp h with heq | h
      · cases heq
        exact ⟨['\\'], t, rfl, List.mem_cons_self⟩
      · obtain ⟨u, v, rfl, hu⟩ := ih h
        exact ⟨'\\' :: c :: u, v, rfl, List.mem_cons_of_mem _ hu⟩
    | single c t hc ih =>
      rw [letters_single hc] at h
      obtain ⟨u, v, rfl, hu⟩ := ih (by simpa using h)
      refine ⟨c :: u, v, rfl, ?_⟩
      rw [letters_single hc]
      exact List.mem_cons_of_mem _ hu
  · rintro ⟨u, v, rfl, hu⟩
    induction u using letters_induction with
    | nil => cases hu
    | lone => exact List.mem_cons_self
    | pair c u ih => exact List.mem_cons_of_mem _ (ih (by simpa using hu))
    | single c u hc ih =>
      rw [letters_single hc] at hu
      rw [List.cons_append, letters_single hc]
      exact List.mem_cons_of_mem _ (ih (by simpa [Ne.symm hc] using hu))

end Membership

section UpTo

/-- The text before the first `d` that is not the second character of a pair with a backslash in front,
and the text behind it. Pairs are read from left to right. -/
def upTo? (d : Char) : Text → Option (Text × Text)
  | [] => none
  | [c] => if c = d then some ([], []) else none
  | c :: c' :: t =>
    if c = d then some ([], c' :: t)
    else if c = '\\' then (upTo? d t).map fun (u, rest) => (c :: c' :: u, rest)
    else (upTo? d (c' :: t)).map fun (u, rest) => (c :: u, rest)

variable {c d : Char} {t u rest : Text}

theorem upTo?_self (d : Char) (t : Text) : upTo? d (d :: t) = some ([], t) := by
  cases t with
  | nil => exact if_pos rfl
  | cons c t => exact if_pos rfl

theorem upTo?_lone (hd : d ≠ '\\') : upTo? d ['\\'] = none := if_neg (Ne.symm hd)

theorem upTo?_pair (hd : d ≠ '\\') (c : Char) (t : Text) :
    upTo? d ('\\' :: c :: t) = (upTo? d t).map fun (u, rest) => ('\\' :: c :: u, rest) := by
  rw [upTo?, if_neg (Ne.symm hd), if_pos rfl]

theorem upTo?_single (hc : c ≠ d) (hbackslash : c ≠ '\\') (t : Text) :
    upTo? d (c :: t) = (upTo? d t).map fun (u, rest) => (c :: u, rest) := by
  cases t with
  | nil => exact if_neg hc
  | cons c' t => rw [upTo?, if_neg hc, if_neg hbackslash]

theorem upTo?_append (hd : d ≠ '\\') (hu : .bare d ∉ letters u) (hopen : .bare '\\' ∉ letters u)
    (rest : Text) : upTo? d (u ++ d :: rest) = some (u, rest) := by
  induction u using letters_induction with
  | nil => exact upTo?_self d rest
  | lone => exact absurd List.mem_cons_self hopen
  | pair c u ih =>
    rw [letters_pair, List.mem_cons, not_or] at hu hopen
    rw [List.cons_append, List.cons_append, upTo?_pair hd, ih hu.2 hopen.2]
    rfl
  | single c u hc ih =>
    rw [letters_single hc, List.mem_cons, not_or] at hu hopen
    have hne : c ≠ d := fun h => hu.1 (congrArg Letter.bare h.symm)
    rw [List.cons_append, upTo?_single hne hc, ih hu.2 hopen.2]
    rfl

theorem of_upTo?_eq_some (hd : d ≠ '\\') (h : upTo? d t = some (u, rest)) :
    t = u ++ d :: rest ∧ .bare d ∉ letters u ∧ .bare '\\' ∉ letters u := by
  induction t using letters_induction generalizing u with
  | nil => cases h
  | lone => cases (upTo?_lone hd).symm.trans h
  | pair c t ih =>
    rw [upTo?_pair hd] at h
    obtain ⟨⟨v, rest⟩, hv, heq⟩ := Option.map_eq_some_iff.mp h
    obtain ⟨rfl, rfl⟩ := Prod.mk.inj heq
    obtain ⟨rfl, hbare, hopen⟩ := ih hv
    exact ⟨rfl, by simpa using hbare, by simpa using hopen⟩
  | single c t hc ih =>
    by_cases hcd : c = d
    · subst hcd
      rw [upTo?_self] at h
      obtain ⟨rfl, rfl⟩ := Prod.mk.inj (Option.some.inj h)
      exact ⟨rfl, List.not_mem_nil, List.not_mem_nil⟩
    · rw [upTo?_single hcd hc] at h
      obtain ⟨⟨v, rest⟩, hv, heq⟩ := Option.map_eq_some_iff.mp h
      obtain ⟨rfl, rfl⟩ := Prod.mk.inj heq
      obtain ⟨rfl, hbare, hopen⟩ := ih hv
      rw [letters_single hc]
      exact ⟨rfl, by simp [hbare, Ne.symm hcd], by simp [hopen, Ne.symm hc]⟩

/-- A reader that looks for a character stops at the first letter that is this character alone. -/
theorem upTo?_eq_some_iff (hd : d ≠ '\\') :
    upTo? d t = some (u, rest) ↔
      t = u ++ d :: rest ∧ .bare d ∉ letters u ∧ .bare '\\' ∉ letters u := by
  constructor
  · exact of_upTo?_eq_some hd
  · rintro ⟨rfl, hbare, hopen⟩
    exact upTo?_append hd hbare hopen rest

end UpTo

end PatternLoom.Text
