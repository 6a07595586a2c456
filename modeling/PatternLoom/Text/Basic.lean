/-!
# Texts

A text is a list of Unicode characters. Offsets and lengths count characters; the byte offsets that
matches report are a view of them, computed from the UTF-8 length of what lies before.
-/

namespace PatternLoom

set_option autoImplicit false

abbrev Text := List Char

namespace Text

def byteLength : Text → Nat
  | [] => 0
  | c :: t => c.utf8Size + byteLength t

/-- The characters from offset `start` up to offset `stop`. -/
def slice (t : Text) (start stop : Nat) : Text :=
  (t.take stop).drop start

def joinWith (separator : Text) (parts : List Text) : Text :=
  (parts.intersperse separator).flatten

@[simp] theorem byteLength_nil : byteLength [] = 0 := rfl

@[simp] theorem byteLength_cons (c : Char) (t : Text) :
    byteLength (c :: t) = c.utf8Size + byteLength t := rfl

@[simp] theorem byteLength_append (s t : Text) :
    byteLength (s ++ t) = byteLength s + byteLength t := by
  induction s with
  | nil => exact (Nat.zero_add _).symm
  | cons c s ih => rw [List.cons_append, byteLength_cons, byteLength_cons, ih, Nat.add_assoc]

theorem take_append_slice_append_drop (t : Text) {start stop : Nat} (h : start ≤ stop) :
    t.take start ++ slice t start stop ++ t.drop stop = t := by
  have : t.take start = (t.take stop).take start := by
    rw [List.take_take, Nat.min_eq_left h]
  rw [slice, this, List.take_append_drop, List.take_append_drop]

end Text

end PatternLoom
