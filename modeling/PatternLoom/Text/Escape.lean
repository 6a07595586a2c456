import PatternLoom.Text.Basic

/-!
# Escaping

A text matches itself once every meta-character carries a backslash. Inside a bracketed class only
the closing bracket needs one. Reading an escaped text takes a backslash together with its successor.
-/

namespace PatternLoom.Text

set_option autoImplicit false

/-- The characters with a meaning of their own outside a class. The angle brackets are not among
them: bare they are literals, while behind a backslash they assert word boundaries. -/
def metaCharacters : List Char :=
  ['^', '[', ']', '.', '$', '{', '}', '*', '(', '\\', '+', ')', '|', '/', '?']

def classCharacters : List Char := [']']

def isMeta (c : Char) : Bool := metaCharacters.contains c

def escapeWith (special : List Char) : Text → Text
  | [] => []
  | c :: rest =>
    if special.contains c then '\\' :: c :: escapeWith special rest
    else c :: escapeWith special rest

/-- The pattern that matches exactly `t`. -/
def escapeLiteral (t : Text) : Text := escapeWith metaCharacters t

/-- The class body that lists the characters of `t`, brackets included. -/
def escapeClass (t : Text) : Text := escapeWith classCharacters t

/-- Reads an escaped text: a backslash stands for its successor, any other character for itself.
A backslash at the very end is read as itself. -/
def unescape : Text → Text
  | [] => []
  | ['\\'] => ['\\']
  | '\\' :: c :: rest => c :: unescape rest
  | c :: rest => c :: unescape rest

@[simp] theorem escapeWith_append (special : List Char) (s t : Text) :
    escapeWith special (s ++ t) = escapeWith special s ++ escapeWith special t := by
  induction s with
  | nil => rfl
  | cons c s ih => simp only [escapeWith, List.cons_append, ih]; split <;> simp

theorem escapeLiteral_append (s t : Text) :
    escapeLiteral (s ++ t) = escapeLiteral s ++ escapeLiteral t :=
  escapeWith_append metaCharacters s t

theorem isMeta_backslash : isMeta '\\' = true := by decide

theorem ne_of_isMeta {c d : Char} (hc : isMeta c = false) (hd : isMeta d = true) : c ≠ d := by
  rintro rfl
  exact absurd (hc.symm.trans hd) Bool.false_ne_true

theorem escapeLiteral_cons (c : Char) (t : Text) :
    escapeLiteral (c :: t) = escapeLiteral [c] ++ escapeLiteral t :=
  escapeLiteral_append [c] t

theorem escapeLiteral_of_isMeta {c : Char} (h : isMeta c = true) (t : Text) :
    escapeLiteral (c :: t) = '\\' :: c :: escapeLiteral t := by
  rw [isMeta] at h
  rw [escapeLiteral, escapeWith, if_pos h]
  rfl

theorem escapeLiteral_of_not_isMeta {c : Char} (h : isMeta c = false) (t : Text) :
    escapeLiteral (c :: t) = c :: escapeLiteral t := by
  rw [isMeta, Bool.eq_false_iff] at h
  rw [escapeLiteral, escapeWith, if_neg h]
  rfl

theorem escapeLiteral_eq_self {t : Text} (h : ∀ c ∈ t, isMeta c = false) : escapeLiteral t = t := by
  induction t with
  | nil => rfl
  | cons c t ih =>
    obtain ⟨hc, ht⟩ := List.forall_mem_cons.mp h
    rw [escapeLiteral_of_not_isMeta hc, ih ht]

theorem escapeClass_of_ne {c : Char} (h : c ≠ ']') (t : Text) :
    escapeClass (c :: t) = c :: escapeClass t := by
  have hc : ¬classCharacters.contains c = true := by simpa [classCharacters] using h
  rw [escapeClass, escapeWith, if_neg hc]
  rfl

theorem escapeClass_of_not_mem {t : Text} (h : ']' ∉ t) : escapeClass t = t := by
  induction t with
  | nil => rfl
  | cons c t ih =>
    have hc : c ≠ ']' := fun hc => h (hc ▸ List.mem_cons_self)
    rw [escapeClass_of_ne hc, ih fun hmem => h (List.mem_cons_of_mem c hmem)]

theorem escapeClass_bracket (t : Text) : escapeClass (']' :: t) = '\\' :: ']' :: escapeClass t := rfl

theorem length_le_length_escapeWith (special : List Char) (t : Text) :
    t.length ≤ (escapeWith special t).length := by
  induction t with
  | nil => exact Nat.le_refl _
  | cons c t ih =>
    rw [escapeWith]
    split <;> simp only [List.length_cons] <;> omega

end PatternLoom.Text
