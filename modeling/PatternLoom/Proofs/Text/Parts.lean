import Mathlib.Computability.Language
import PatternLoom.Proofs.Text.EscapedForm
import PatternLoom.Proofs.Text.Occurrence

/-!
# Parts between occurrences

A text falls into parts between the leftmost occurrences of a key. An escaped text falls into the
escaped parts: the escaped key is never found across a pair of backslash and character. When every
occurrence may stay or be left out, what remains of the text are its deletions.
-/

namespace PatternLoom.Text

set_option autoImplicit false

variable {key t : Text}

theorem parts_nil (hkey : key ≠ []) : parts key [] = [[]] := by
  obtain ⟨k, key, rfl⟩ := List.exists_cons_of_ne_nil hkey
  rw [parts]

theorem parts_append (hkey : key ≠ []) (rest : Text) :
    parts key (key ++ rest) = [] :: parts key rest := by
  obtain ⟨k, key, rfl⟩ := List.exists_cons_of_ne_nil hkey
  have hfound : afterFront? (k :: key) (k :: (key ++ rest)) = some rest :=
    afterFront?_eq_some_iff.mpr rfl
  rw [List.cons_append, parts]
  split
  · rename_i rest' heq
    rw [hfound] at heq
    rw [Option.some.inj heq]
  · rename_i heq
    rw [hfound] at heq
    cases heq

theorem exists_parts (key t : Text) : ∃ part more, parts key t = part :: more := by
  rw [parts.eq_def]
  split
  · exact ⟨_, _, rfl⟩
  · split
    · exact ⟨_, _, rfl⟩
    · split
      · exact ⟨_, _, rfl⟩
      · split <;> exact ⟨_, _, rfl⟩

/-- Where the key does not begin, the first character belongs to the first part. -/
theorem parts_cons (hkey : key ≠ []) {c : Char} (h : ¬key <+: c :: t) :
    ∃ part more, parts key t = part :: more ∧ parts key (c :: t) = (c :: part) :: more := by
  obtain ⟨part, more, hparts⟩ := exists_parts key t
  obtain ⟨k, key, rfl⟩ := List.exists_cons_of_ne_nil hkey
  refine ⟨part, more, hparts, ?_⟩
  rw [parts]
  split
  · rename_i rest heq
    exact absurd ⟨rest, (afterFront?_eq_some_iff.mp heq).symm⟩ h
  · rw [hparts]

section Escape

theorem escapeLiteral_ne_nil (h : t ≠ []) : escapeLiteral t ≠ [] := by
  obtain ⟨c, t, rfl⟩ := List.exists_cons_of_ne_nil h
  cases hc : isMeta c with
  | true => simp [escapeLiteral_of_isMeta hc]
  | false => simp [escapeLiteral_of_not_isMeta hc]

/-- The first character of an escaped text is a backslash or not a meta-character. -/
theorem eq_backslash_of_head {c : Char} {rest : Text} (hc : isMeta c = true)
    (h : escapeLiteral t = c :: rest) :
    c = '\\' ∧ ∃ d t', isMeta d = true ∧ t = d :: t' ∧ rest = d :: escapeLiteral t' := by
  cases t with
  | nil => cases h
  | cons d t =>
    cases hd : isMeta d with
    | true =>
      rw [escapeLiteral_of_isMeta hd] at h
      obtain ⟨rfl, rfl⟩ := List.cons.inj h
      exact ⟨rfl, d, t, hd, rfl, rfl⟩
    | false =>
      rw [escapeLiteral_of_not_isMeta hd] at h
      rw [(List.cons.inj h).1, hc] at hd
      cases hd

theorem escapeLiteral_prefix_iff : escapeLiteral key <+: escapeLiteral t ↔ key <+: t := by
  constructor
  · rintro ⟨rest, hrest⟩
    obtain ⟨t', rfl, -⟩ := exists_of_escapeLiteral_eq_append hrest.symm
    exact List.prefix_append key t'
  · rintro ⟨t', rfl⟩
    rw [escapeLiteral_append]
    exact List.prefix_append _ _

/-- An escaped key found in the middle of a pair consists of backslashes at least as far as the text
does, so that it has been found at the beginning of the pair before. -/
theorem prefix_of_escapeLiteral_prefix_cons {d : Char} (hd : isMeta d = true)
    (h : escapeLiteral key <+: d :: escapeLiteral t) : key <+: d :: t := by
  induction key generalizing d t with
  | nil => exact List.nil_prefix
  | cons k key ih =>
    cases hk : isMeta k with
    | false =>
      rw [escapeLiteral_of_not_isMeta hk, List.cons_prefix_cons] at h
      rw [h.1, hd] at hk
      cases hk
    | true =>
      rw [escapeLiteral_of_isMeta hk, List.cons_prefix_cons] at h
      obtain ⟨rfl, rest, hrest⟩ := h
      obtain ⟨rfl, e, t', he, rfl, heq⟩ := eq_backslash_of_head hk hrest.symm
      rw [List.cons_prefix_cons]
      exact ⟨rfl, ih he ⟨rest, heq⟩⟩

/-- The parts of an escaped text between escaped keys are the escaped parts. -/
theorem parts_escapeLiteral (hkey : key ≠ []) (t : Text) :
    parts (escapeLiteral key) (escapeLiteral t) = (parts key t).map escapeLiteral := by
  have hkey' := escapeLiteral_ne_nil hkey
  induction hn : t.length using Nat.strong_induction_on generalizing t with
  | h n ih =>
    by_cases hfound : key <+: t
    · obtain ⟨rest, rfl⟩ := hfound
      have hpos := List.length_pos_iff.mpr hkey
      rw [List.length_append] at hn
      rw [escapeLiteral_append, parts_append hkey', parts_append hkey,
        ih rest.length (by omega) rest rfl]
      rfl
    · cases t with
      | nil =>
        have hnil : escapeLiteral [] = [] := rfl
        rw [parts_nil hkey, hnil, parts_nil hkey', List.map_singleton, hnil]
      | cons c t =>
        have hlater := ih t.length (by rw [← hn, List.length_cons]; omega) t rfl
        obtain ⟨part, more, hparts, hcons⟩ := parts_cons hkey hfound
        have hnot := escapeLiteral_prefix_iff.not.mpr hfound
        rw [hcons, List.map_cons]
        rw [hparts, List.map_cons] at hlater
        cases hc : isMeta c with
        | true =>
          have hmiddle : ¬escapeLiteral key <+: c :: escapeLiteral t :=
            fun h => hfound (prefix_of_escapeLiteral_prefix_cons hc h)
          rw [escapeLiteral_of_isMeta hc] at hnot ⊢
          obtain ⟨part₁, more₁, hparts₁, hcons₁⟩ := parts_cons hkey' hmiddle
          obtain ⟨part₂, more₂, hparts₂, hcons₂⟩ := parts_cons hkey' hnot
          rw [hlater] at hparts₁
          rw [hcons₁] at hparts₂
          obtain ⟨rfl, rfl⟩ := List.cons.inj hparts₁
          obtain ⟨rfl, rfl⟩ := List.cons.inj hparts₂
          rw [hcons₂, escapeLiteral_of_isMeta hc]
        | false =>
          rw [escapeLiteral_of_not_isMeta hc] at hnot ⊢
          obtain ⟨part₁, more₁, hparts₁, hcons₁⟩ := parts_cons hkey' hnot
          rw [hlater] at hparts₁
          obtain ⟨rfl, rfl⟩ := List.cons.inj hparts₁
          rw [hcons₁, escapeLiteral_of_not_isMeta hc]

end Escape

section Deletion

/-- What remains of a text, which starts at `offset`, when `length` characters from each of some
offsets on are deleted. -/
def withoutFrom (length : Nat) (offsets : List Nat) (offset : Nat) : Text → Text
  | [] => []
  | c :: t =>
    if offsets.any fun o => o ≤ offset && offset < o + length then
      withoutFrom length offsets (offset + 1) t
    else c :: withoutFrom length offsets (offset + 1) t

/-- A text without the `length` characters from each of some offsets on. -/
def without (length : Nat) (offsets : List Nat) (t : Text) : Text :=
  withoutFrom length offsets 0 t

variable {length offset : Nat} {offsets : List Nat}

theorem withoutFrom_append (s t : Text) :
    withoutFrom length offsets offset (s ++ t) =
      withoutFrom length offsets offset s ++ withoutFrom length offsets (offset + s.length) t := by
  induction s generalizing offset with
  | nil => rfl
  | cons c s ih =>
    have hoffset : offset + 1 + s.length = offset + (c :: s).length := by
      rw [List.length_cons]
      omega
    rw [List.cons_append, withoutFrom, withoutFrom, ih, hoffset]
    split <;> rfl

/-- Before all of the offsets nothing is deleted. -/
theorem withoutFrom_of_le (h : ∀ o ∈ offsets, offset + t.length ≤ o) :
    withoutFrom length offsets offset t = t := by
  induction t generalizing offset with
  | nil => rfl
  | cons c t ih =>
    rw [List.length_cons] at h
    have hkept : ¬(offsets.any fun o => o ≤ offset && offset < o + length) = true := by
      rw [List.any_eq_true]
      rintro ⟨o, ho, hcovers⟩
      have hle := h o ho
      simp only [Bool.and_eq_true, decide_eq_true_eq] at hcovers
      omega
    rw [withoutFrom, if_neg hkept, ih]
    intro o ho
    have hle := h o ho
    omega

theorem withoutFrom_eq_nil {o : Nat} (ho : o ∈ offsets) (hle : o ≤ offset)
    (hend : offset + t.length ≤ o + length) : withoutFrom length offsets offset t = [] := by
  induction t generalizing offset with
  | nil => rfl
  | cons c t ih =>
    rw [List.length_cons] at hend
    have hcovers : (offsets.any fun o => o ≤ offset && offset < o + length) = true := by
      rw [List.any_eq_true]
      refine ⟨o, ho, ?_⟩
      simp only [Bool.and_eq_true, decide_eq_true_eq]
      omega
    rw [withoutFrom, if_pos hcovers]
    exact ih (by omega) (by omega)

/-- What has been deleted before a text makes no difference to it. -/
theorem withoutFrom_cons {o : Nat} (h : o + length ≤ offset) :
    withoutFrom length (o :: offsets) offset t = withoutFrom length offsets offset t := by
  induction t generalizing offset with
  | nil => rfl
  | cons c t ih =>
    have hpast : (decide (o ≤ offset) && decide (offset < o + length)) = false := by
      simp only [Bool.and_eq_false_iff, decide_eq_false_iff_not]
      omega
    rw [withoutFrom, withoutFrom, List.any_cons, hpast, Bool.false_or, ih (by omega)]

theorem withoutFrom_kept {s : Text} (h : ∀ o ∈ offsets, offset + s.length ≤ o) :
    withoutFrom length offsets offset (s ++ t) =
      s ++ withoutFrom length offsets (offset + s.length) t := by
  rw [withoutFrom_append, withoutFrom_of_le h]

theorem withoutFrom_deleted (s t : Text) :
    withoutFrom s.length (offset :: offsets) offset (s ++ t) =
      withoutFrom s.length offsets (offset + s.length) t := by
  rw [withoutFrom_append, withoutFrom_eq_nil List.mem_cons_self le_rfl le_rfl,
    withoutFrom_cons le_rfl, List.nil_append]

/-- The texts made of parts with a key between them, when each of the keys may be left out. -/
def choices (key : Text) : List Text → Language Char
  | [] => 1
  | [part] => {part}
  | part :: next :: more => {part} * ((1 + {key}) * choices key (next :: more))

theorem mem_singleton_mul {u w : Text} {l : Language Char} :
    w ∈ ({u} : Language Char) * l ↔ ∃ v ∈ l, w = u ++ v := by
  rw [Language.mem_mul]
  constructor
  · rintro ⟨u', hu, v, hv, rfl⟩
    obtain rfl : u' = u := hu
    exact ⟨v, hv, rfl⟩
  · rintro ⟨v, hv, rfl⟩
    exact ⟨u, rfl, v, hv, rfl⟩

theorem mem_optional_mul {w : Text} {l : Language Char} :
    w ∈ (1 + {key}) * l ↔ w ∈ l ∨ ∃ v ∈ l, w = key ++ v := by
  rw [add_mul, one_mul, Language.mem_add, mem_singleton_mul]

theorem mem_choices_cons_iff {c : Char} {part : Text} {more : List Text} {w : Text} :
    w ∈ choices key ((c :: part) :: more) ↔ ∃ v ∈ choices key (part :: more), w = c :: v := by
  cases more with
  | nil =>
    constructor
    · intro h
      obtain rfl : w = c :: part := h
      exact ⟨part, rfl, rfl⟩
    · rintro ⟨v, hv, rfl⟩
      obtain rfl : v = part := hv
      rfl
  | cons next more =>
    rw [choices, choices, mem_singleton_mul]
    constructor
    · rintro ⟨v, hv, rfl⟩
      exact ⟨part ++ v, mem_singleton_mul.mpr ⟨v, hv, rfl⟩, rfl⟩
    · rintro ⟨v, hv, rfl⟩
      obtain ⟨u, hu, rfl⟩ := mem_singleton_mul.mp hv
      exact ⟨u, hu, rfl⟩

theorem occurrencesFrom_append (hkey : key ≠ []) (rest : Text) :
    occurrencesFrom key 0 offset (key ++ rest) =
      offset :: occurrencesFrom key 0 (offset + key.length) rest := by
  obtain ⟨k, key, rfl⟩ := List.exists_cons_of_ne_nil hkey
  have hfront : k :: key <+: k :: (key ++ rest) := List.prefix_append (k :: key) rest
  rw [List.cons_append, occurrencesFrom, if_pos hfront, List.length_cons, Nat.add_sub_cancel,
    occurrencesFrom_skip (by rw [List.length_append]; omega), List.drop_left, Nat.add_right_comm]
  rfl

/-- The texts made of the parts of a text are those that are left when some of the leftmost occurrences
are deleted. -/
theorem mem_choices_parts_iff (hkey : key ≠ []) {w : Text} :
    w ∈ choices key (parts key t) ↔ ∃ chosen, chosen.Sublist (occurrencesFrom key 0 offset t) ∧
      w = withoutFrom key.length chosen offset t := by
  induction hn : t.length using Nat.strong_induction_on generalizing t offset w with
  | h n ih =>
    by_cases hfound : key <+: t
    · obtain ⟨rest, rfl⟩ := hfound
      have hpos := List.length_pos_iff.mpr hkey
      rw [List.length_append] at hn
      have hrest {v : Text} : v ∈ choices key (parts key rest) ↔
          ∃ chosen, chosen.Sublist (occurrencesFrom key 0 (offset + key.length) rest) ∧
            v = withoutFrom key.length chosen (offset + key.length) rest :=
        ih rest.length (by omega) rfl
      have hlater {chosen : List Nat}
          (h : chosen.Sublist (occurrencesFrom key 0 (offset + key.length) rest)) :
          ∀ o ∈ chosen, offset + key.length ≤ o := by
        intro o ho
        exact (of_mem_occurrencesFrom (h.subset ho)).1
      obtain ⟨part, more, hparts⟩ := exists_parts key rest
      rw [parts_append hkey, hparts, choices, mem_singleton_mul, occurrencesFrom_append hkey]
      rw [hparts] at hrest
      constructor
      · rintro ⟨v, hv, rfl⟩
        rcases mem_optional_mul.mp hv with hv | ⟨u, hu, rfl⟩
        · obtain ⟨chosen, hchosen, rfl⟩ := hrest.mp hv
          exact ⟨offset :: chosen, hchosen.cons_cons offset, (withoutFrom_deleted key rest).symm⟩
        · obtain ⟨chosen, hchosen, rfl⟩ := hrest.mp hu
          exact ⟨chosen, hchosen.cons offset, (withoutFrom_kept (hlater hchosen)).symm⟩
      · rintro ⟨chosen, hchosen, rfl⟩
        refine ⟨_, mem_optional_mul.mpr ?_, rfl⟩
        rcases List.sublist_cons_iff.mp hchosen with hkeep | ⟨others, rfl, hothers⟩
        · rw [withoutFrom_kept (hlater hkeep)]
          exact Or.inr ⟨_, hrest.mpr ⟨chosen, hkeep, rfl⟩, rfl⟩
        · rw [withoutFrom_deleted]
          exact Or.inl (hrest.mpr ⟨others, hothers, rfl⟩)
    · cases t with
      | nil =>
        have hnone : occurrencesFrom key 0 offset [] = [] :=
          if_neg fun h => hkey (List.prefix_nil.mp h)
        rw [parts_nil hkey, hnone]
        constructor
        · intro h
          obtain rfl : w = [] := h
          exact ⟨[], List.nil_sublist _, rfl⟩
        · rintro ⟨chosen, -, rfl⟩
          rfl
      | cons c t =>
        have hlength : t.length < n := by
          rw [← hn, List.length_cons]
          omega
        have hrest {v : Text} : v ∈ choices key (parts key t) ↔
            ∃ chosen, chosen.Sublist (occurrencesFrom key 0 (offset + 1) t) ∧
              v = withoutFrom key.length chosen (offset + 1) t :=
          ih t.length hlength rfl
        have hnone : occurrencesFrom key 0 offset (c :: t) = occurrencesFrom key 0 (offset + 1) t :=
          if_neg hfound
        have hkept {chosen : List Nat}
            (h : chosen.Sublist (occurrencesFrom key 0 (offset + 1) t)) :
            withoutFrom key.length chosen offset (c :: t) =
              c :: withoutFrom key.length chosen (offset + 1) t := by
          apply withoutFrom_kept (s := [c])
          intro o ho
          exact (of_mem_occurrencesFrom (h.subset ho)).1
        obtain ⟨part, more, hparts, hcons⟩ := parts_cons hkey hfound
        rw [hcons, mem_choices_cons_iff, ← hparts, hnone]
        constructor
        · rintro ⟨v, hv, rfl⟩
          obtain ⟨chosen, hchosen, rfl⟩ := hrest.mp hv
          exact ⟨chosen, hchosen, (hkept hchosen).symm⟩
        · rintro ⟨chosen, hchosen, rfl⟩
          rw [hkept hchosen]
          exact ⟨_, hrest.mpr ⟨chosen, hchosen, rfl⟩, rfl⟩

end Deletion

end PatternLoom.Text
