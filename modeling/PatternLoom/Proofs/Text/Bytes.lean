import Mathlib.Data.List.Basic
import PatternLoom.Text.Basic

/-!
# Byte offsets

Matches report byte offsets of the UTF-8 form. Every character takes a byte at least, so the offsets of
characters can be read back from those of bytes.
-/

namespace PatternLoom.Text

set_option autoImplicit false

/-- The byte offset is an end of the text or lies between two of its characters. -/
def IsBoundary (t : Text) (offset : Nat) : Prop := ∃ pre, pre <+: t ∧ byteLength pre = offset

/-- The number of characters that begin before a byte offset. -/
def charOffset : Text → Nat → Nat
  | [], _ => 0
  | c :: t, offset => if offset = 0 then 0 else charOffset t (offset - c.utf8Size) + 1

/-- The characters from a byte offset up to another. -/
def sliceBytes (t : Text) (start stop : Nat) : Text :=
  slice t (charOffset t start) (charOffset t stop)

variable {t : Text} {i j : Nat}

theorem isBoundary_take (t : Text) (i : Nat) : t.IsBoundary (byteLength (t.take i)) :=
  ⟨t.take i, List.take_prefix i t, rfl⟩

theorem byteLength_take_add (t : Text) (h : i ≤ j) :
    byteLength (t.take j) = byteLength (t.take i) + byteLength (slice t i j) := by
  have hsplit : t.take j = t.take i ++ slice t i j := by
    have htake : t.take i = (t.take j).take i := by rw [List.take_take, Nat.min_eq_left h]
    rw [slice, htake, List.take_append_drop]
  rw [← byteLength_append, ← hsplit]

theorem byteLength_take_le (t : Text) (i : Nat) : byteLength (t.take i) ≤ byteLength t := by
  have h := congrArg byteLength (List.take_append_drop i t)
  rw [byteLength_append] at h
  omega

theorem byteLength_take_mono (t : Text) (h : i ≤ j) :
    byteLength (t.take i) ≤ byteLength (t.take j) := by
  rw [byteLength_take_add t h]
  omega

theorem byteLength_pos (h : t ≠ []) : 0 < byteLength t := by
  cases t with
  | nil => exact absurd rfl h
  | cons c t =>
    have hc := c.utf8Size_pos
    rw [byteLength_cons]
    omega

theorem byteLength_take_lt (h : i < j) (hj : j ≤ t.length) :
    byteLength (t.take i) < byteLength (t.take j) := by
  have hne : slice t i j ≠ [] := by
    apply List.ne_nil_of_length_pos
    rw [slice, List.length_drop, List.length_take]
    omega
  have hpos := byteLength_pos hne
  rw [byteLength_take_add t (Nat.le_of_lt h)]
  omega

/-- As many characters begin before a boundary as stand before it. -/
theorem charOffset_byteLength_take (hi : i ≤ t.length) : charOffset t (byteLength (t.take i)) = i := by
  induction t generalizing i with
  | nil => exact (Nat.le_zero.mp hi).symm
  | cons c t ih =>
    cases i with
    | zero => rfl
    | succ i =>
      have hc := c.utf8Size_pos
      rw [List.take_succ_cons, byteLength_cons, charOffset, if_neg (by omega), Nat.add_sub_cancel_left,
        ih (Nat.le_of_succ_le_succ hi)]

theorem sliceBytes_take (hi : i ≤ t.length) (hj : j ≤ t.length) :
    sliceBytes t (byteLength (t.take i)) (byteLength (t.take j)) = slice t i j := by
  rw [sliceBytes, charOffset_byteLength_take hi, charOffset_byteLength_take hj]

theorem sliceBytes_rest (hi : i ≤ t.length) :
    sliceBytes t (byteLength (t.take i)) (byteLength t) = t.drop i := by
  have hslice := sliceBytes_take hi (Nat.le_refl t.length)
  rwa [List.take_length, slice, List.take_length] at hslice

theorem isBoundary_iff {offset : Nat} :
    t.IsBoundary offset ↔ byteLength (t.take (charOffset t offset)) = offset := by
  constructor
  · rintro ⟨pre, hpre, rfl⟩
    rw [List.prefix_iff_eq_take.mp hpre, charOffset_byteLength_take (List.IsPrefix.length_le hpre)]
  · intro h
    exact h ▸ isBoundary_take t (charOffset t offset)

instance (t : Text) (offset : Nat) : Decidable (t.IsBoundary offset) :=
  decidable_of_iff _ isBoundary_iff.symm

/-- The slice of a text between two byte offsets. There is one only if both are boundaries and do not
stand the wrong way round. -/
def sliceBytes? (t : Text) (start stop : Nat) : Option Text :=
  if start ≤ stop ∧ t.IsBoundary start ∧ t.IsBoundary stop then some (sliceBytes t start stop) else none

theorem sliceBytes?_take (hij : i ≤ j) (hj : j ≤ t.length) :
    sliceBytes? t (byteLength (t.take i)) (byteLength (t.take j)) = some (slice t i j) := by
  rw [sliceBytes?, sliceBytes_take (Nat.le_trans hij hj) hj]
  exact if_pos ⟨byteLength_take_mono t hij, isBoundary_take t i, isBoundary_take t j⟩

theorem sliceBytes?_rest (hi : i ≤ t.length) :
    sliceBytes? t (byteLength (t.take i)) (byteLength t) = some (t.drop i) := by
  have hslice := sliceBytes?_take hi (Nat.le_refl t.length)
  rwa [List.take_length, slice, List.take_length] at hslice

theorem sliceBytes?_backwards (hji : j < i) (hi : i ≤ t.length) :
    sliceBytes? t (byteLength (t.take i)) (byteLength (t.take j)) = none :=
  if_neg fun h => Nat.not_lt.mpr h.1 (byteLength_take_lt hji hi)

/-- Characters of one, two, three and four bytes. -/
example : sliceBytes? ['a', 'é', '∀', '𝒳'] 1 6 = some ['é', '∀'] := by decide

end PatternLoom.Text
