import PatternLoom.Builder.Basic
import PatternLoom.Proofs.Text.Bytes

/-!
# Cutting a span out of a pattern

A pattern is cut in front of a span and behind it, by offsets of characters. The cuts can also be found
in the UTF-8 form, by walking over the bytes of the characters and adding start and length in 64 bits:
no character is split.
-/

namespace PatternLoom

set_option autoImplicit false

namespace Text

/-- The byte offsets where characters begin, and where the last one ends. -/
def byteOffsets (offset : Nat) : Text → List Nat
  | [] => [offset]
  | c :: t => offset :: byteOffsets (offset + c.utf8Size) t

/-- The byte offset of a character. The end of the text counts as one more character. -/
def byteOffset? (t : Text) (index : Nat) : Option Nat := (byteOffsets 0 t)[index]?

variable {t : Text}

theorem getElem?_byteOffsets (offset : Nat) {i : Nat} (hi : i ≤ t.length) :
    (byteOffsets offset t)[i]? = some (offset + byteLength (t.take i)) := by
  induction t generalizing offset i with
  | nil =>
    obtain rfl := Nat.le_zero.mp hi
    rfl
  | cons c t ih =>
    cases i with
    | zero => rfl
    | succ i =>
      have hrest := ih (offset + c.utf8Size) (Nat.le_of_succ_le_succ hi)
      rw [byteOffsets, List.getElem?_cons_succ, hrest, List.take_succ_cons, byteLength_cons,
        Nat.add_assoc]

theorem length_byteOffsets (offset : Nat) (t : Text) :
    (byteOffsets offset t).length = t.length + 1 := by
  induction t generalizing offset with
  | nil => rfl
  | cons c t ih => rw [byteOffsets, List.length_cons, ih, List.length_cons]

theorem byteOffset?_of_le {i : Nat} (hi : i ≤ t.length) :
    byteOffset? t i = some (byteLength (t.take i)) := by
  rw [byteOffset?, getElem?_byteOffsets 0 hi, Nat.zero_add]

theorem byteOffset?_of_lt {i : Nat} (hi : t.length < i) : byteOffset? t i = none := by
  apply List.getElem?_eq_none
  rw [length_byteOffsets]
  omega

theorem length_le_byteLength (t : Text) : t.length ≤ byteLength t := by
  induction t with
  | nil => exact Nat.le_refl 0
  | cons c t ih =>
    have hc := c.utf8Size_pos
    rw [List.length_cons, byteLength_cons]
    omega

end Text

namespace Optional

open Text (byteLength byteOffset? sliceBytes)

/-- A pattern in three parts: `start` characters, then `length` characters or as many as are left, and
the rest. -/
structure Cut (p : Text) (start length : Nat) (front middle back : Text) : Prop where
  whole : front ++ middle ++ back = p
  front : front.length = start
  middle : middle.length = min length (p.length - start)

variable {p : Text} {start length : Nat}

theorem cut_take_drop (hstart : start ≤ p.length) (length : Nat) :
    Cut p start length (p.take start) ((p.drop start).take length) (p.drop (start + length)) where
  whole := by rw [List.append_assoc, ← List.drop_drop, List.take_append_drop, List.take_append_drop]
  front := by rw [List.length_take, Nat.min_eq_left hstart]
  middle := by rw [List.length_take, List.length_drop]

namespace Cut

variable {front middle back : Text}

theorem start_le (h : Cut p start length front middle back) : start ≤ p.length := by
  rw [← h.whole, List.length_append, List.length_append, h.front]
  omega

theorem eq_take_drop (h : Cut p start length front middle back) :
    front = p.take start ∧ middle = (p.drop start).take length ∧ back = p.drop (start + length) := by
  have hstart := h.start_le
  have hcut := cut_take_drop hstart length
  have hwhole := h.whole.trans hcut.whole.symm
  have hlength : (front ++ middle).length = (p.take start ++ (p.drop start).take length).length := by
    rw [List.length_append, List.length_append, h.front, h.middle, hcut.front, hcut.middle]
  obtain ⟨hfirst, hback⟩ := List.append_inj hwhole hlength
  obtain ⟨hfront, hmiddle⟩ := List.append_inj hfirst (h.front.trans hcut.front.symm)
  exact ⟨hfront, hmiddle, hback⟩

end Cut

theorem spanIn_eq_ok_iff {r : Text} : spanIn p start length = .ok r ↔
    ∃ front middle back, Cut p start length front middle back ∧ r = front ++ group middle ++ back := by
  constructor
  · intro h
    rw [spanIn] at h
    split at h
    · rename_i hstart
      cases h
      exact ⟨_, _, _, cut_take_drop hstart length, rfl⟩
    · cases h
  · rintro ⟨front, middle, back, hcut, rfl⟩
    obtain ⟨hfront, hmiddle, hback⟩ := hcut.eq_take_drop
    rw [spanIn, if_pos hcut.start_le, hfront, hmiddle, hback]

theorem spanIn_eq_error_iff {err : PatternError} : spanIn p start length = .error err ↔
    p.length < start ∧ err = .indexOutOfRange start length p.length := by
  rw [spanIn]
  split
  · rename_i hstart
    simp [Nat.not_lt.mpr hstart]
  · rename_i hstart
    simp [Nat.not_le.mp hstart, eq_comm]

/-- The sum of two numbers, or the largest number of 64 bits when the sum needs more. -/
def saturatingAdd (a b : Nat) : Nat := min (a + b) (Nat.pow 2 64 - 1)

/-- The span cut out of the UTF-8 form of a pattern, between byte offsets that are found by walking over
the characters. -/
def spanInBytes (p : Text) (start length : Nat) : Except PatternError Text :=
  match byteOffset? p start with
  | none => .error (.indexOutOfRange start length p.length)
  | some headEnd =>
    let tailStart := (byteOffset? p (saturatingAdd start length)).getD (byteLength p)
    .ok (sliceBytes p 0 headEnd ++ group (sliceBytes p headEnd tailStart) ++
      sliceBytes p tailStart (byteLength p))

/-- A character behind the end of the text has the end of the text as its offset. -/
theorem getD_byteOffset? (p : Text) (i : Nat) :
    (byteOffset? p i).getD (byteLength p) = byteLength (p.take i) := by
  rcases Nat.lt_or_ge p.length i with hi | hi
  · rw [Text.byteOffset?_of_lt hi, Option.getD_none, List.take_of_length_le (Nat.le_of_lt hi)]
  · rw [Text.byteOffset?_of_le hi, Option.getD_some]

theorem take_saturatingAdd (hp : p.length < Nat.pow 2 64) (start length : Nat) :
    p.take (saturatingAdd start length) = p.take (min (start + length) p.length) := by
  have hbound : min (saturatingAdd start length) p.length = min (start + length) p.length := by
    rw [saturatingAdd]
    omega
  rw [← hbound, List.take_eq_take_min]

theorem spanInBytes_eq_spanIn (hp : byteLength p < Nat.pow 2 64) (start length : Nat) :
    spanInBytes p start length = spanIn p start length := by
  rcases Nat.lt_or_ge p.length start with hstart | hstart
  · rw [spanInBytes, Text.byteOffset?_of_lt hstart, spanIn, if_neg (Nat.not_le.mpr hstart)]
  · have hsize := Text.length_le_byteLength p
    rw [spanInBytes, Text.byteOffset?_of_le hstart]
    dsimp only
    rw [getD_byteOffset?, take_saturatingAdd (by omega)]
    have hstop : min (start + length) p.length ≤ p.length := Nat.min_le_right _ _
    generalize hmin : min (start + length) p.length = stop at hstop
    have hfront : sliceBytes p 0 (byteLength (p.take start)) = p.take start :=
      Text.sliceBytes_take (Nat.zero_le _) hstart
    rw [hfront, Text.sliceBytes_take hstart hstop, Text.sliceBytes_rest hstop]
    apply Eq.symm
    apply spanIn_eq_ok_iff.mpr
    refine ⟨_, _, _, ⟨?_, ?_, ?_⟩, rfl⟩
    · apply Text.take_append_slice_append_drop
      omega
    · rw [List.length_take, Nat.min_eq_left hstart]
    · rw [Text.slice, List.length_drop, List.length_take]
      omega

variable {b : Builder}

theorem run_of_spanIn_ok {r : Text} (h : spanIn b.bare start length = .ok r) :
    ((Step.optionalSubstring start length).run b).builder.fragments = [r] ∧
      ((Step.optionalSubstring start length).run b).error = none := by
  rw [Step.run, h]
  exact ⟨rfl, rfl⟩

theorem run_of_spanIn_error {err : PatternError} (h : spanIn b.bare start length = .error err) :
    ((Step.optionalSubstring start length).run b).builder = b ∧
      ((Step.optionalSubstring start length).run b).error = some err := by
  rw [Step.run, h]
  exact ⟨rfl, rfl⟩

/-- A span can be made optional exactly if it begins in the pattern or at its end. The pattern is cut in
three then, the middle part being as long as the span, or reaching to the end if that is nearer, and put
together with the middle part in a group; otherwise the error tells the span and the length of the
pattern. Cutting the UTF-8 form with sums that stop at the largest number of 64 bits comes to the same.
A builder keeps the rewritten pattern as its only fragment, or all its fragments if there is none. -/
theorem span_cut :
    (∀ (p : Text) (start length : Nat),
      ((∃ r, spanIn p start length = .ok r) ↔ start ≤ p.length) ∧
      (∀ r, spanIn p start length = .ok r ↔
        ∃ front middle back, Cut p start length front middle back ∧
          r = front ++ (['(', '?', ':'] ++ middle ++ [')', '?']) ++ back) ∧
      ∀ err, spanIn p start length = .error err →
        err = .indexOutOfRange start length p.length) ∧
    (∀ p start length, byteLength p < Nat.pow 2 64 →
      spanInBytes p start length = spanIn p start length) ∧
    ∀ (b : Builder) (start length : Nat),
      let after := (Step.optionalSubstring start length).run b
      (∀ r, spanIn b.bare start length = .ok r →
        after.builder.fragments = [r] ∧ after.error = none) ∧
      ∀ err, spanIn b.bare start length = .error err →
        after.builder = b ∧ after.error = some err := by
  refine ⟨?_, fun p start length hp => spanInBytes_eq_spanIn hp start length, ?_⟩
  · intro p start length
    refine ⟨?_, fun r => spanIn_eq_ok_iff, fun err herr => (spanIn_eq_error_iff.mp herr).2⟩
    constructor
    · rintro ⟨r, hr⟩
      obtain ⟨front, middle, back, hcut, -⟩ := spanIn_eq_ok_iff.mp hr
      exact hcut.start_le
    · intro hstart
      exact ⟨_, spanIn_eq_ok_iff.mpr ⟨_, _, _, cut_take_drop hstart length, rfl⟩⟩
  · intro b start length
    exact ⟨fun r hr => run_of_spanIn_ok hr, fun err herr => run_of_spanIn_error herr⟩

/-- A span from the second of four characters, of one to four bytes, that is longer than any text, and
one that begins behind the end. -/
theorem span_cut_overlong :
    let b : Builder := ⟨[['a', 'é'], ['∀', '𝒳']]⟩
    let r : Text := ['a', '(', '?', ':', 'é', '∀', '𝒳', ')', '?']
    let err : PatternError := .indexOutOfRange 5 1 4
    byteLength b.bare < Nat.pow 2 64 ∧
      spanInBytes b.bare 1 18446744073709551615 = .ok r ∧
      ((Step.optionalSubstring 1 18446744073709551615).run b).builder.fragments = [r] ∧
      (¬∃ r, spanIn b.bare 5 1 = .ok r) ∧ spanIn b.bare 5 1 = .error err ∧
      ((Step.optionalSubstring 5 1).run b).builder = b := by
  intro b r err
  obtain ⟨hspan, hbytes, hbuilder⟩ := span_cut
  have hsize : byteLength b.bare < Nat.pow 2 64 := by decide
  have hr : spanIn b.bare 1 18446744073709551615 = .ok r := by
    apply ((hspan b.bare 1 18446744073709551615).2.1 r).mpr
    exact ⟨['a'], ['é', '∀', '𝒳'], [], ⟨rfl, rfl, rfl⟩, rfl⟩
  have hout : ¬∃ r, spanIn b.bare 5 1 = .ok r := by
    intro h
    have hle := (hspan b.bare 5 1).1.mp h
    exact absurd hle (by decide)
  have herr : spanIn b.bare 5 1 = .error err := rfl
  refine ⟨hsize, (hbytes _ _ _ hsize).trans hr, ?_, hout, herr, ?_⟩
  · exact ((hbuilder b 1 18446744073709551615).1 r hr).1
  · exact ((hbuilder b 5 1).2 err herr).1

end Optional

end PatternLoom
