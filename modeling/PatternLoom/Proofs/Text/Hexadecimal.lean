import PatternLoom.Text.Hexadecimal

/-!
# Hexadecimal numerals are read back

The four digits of a number below `2 ^ 16` have that number as their value, in either case.
-/

namespace PatternLoom.Text

set_option autoImplicit false

theorem hexDigit_mod (n : Nat) : hexDigit (n % 16) = hexDigit n := by
  rw [hexDigit, hexDigit, Nat.mod_mod]

theorem hexValue?_hexDigit (n : Nat) : hexValue? (hexDigit n) = some (n % 16) := by
  have h : ∀ d < 16, hexValue? (hexDigit d) = some d := by decide
  rw [← hexDigit_mod]
  exact h (n % 16) (by omega)

theorem hexValue?_toUpper_hexDigit (n : Nat) :
    hexValue? (hexDigit n).toUpper = some (n % 16) := by
  have h : ∀ d < 16, hexValue? (hexDigit d).toUpper = some d := by decide
  rw [← hexDigit_mod]
  exact h (n % 16) (by omega)

/-- `form` is a way to write each digit. -/
theorem hexNumber?_map_hexQuad {form : Char → Char}
    (hform : ∀ n, hexValue? (form (hexDigit n)) = some (n % 16)) {n : Nat} (hn : n < 0x10000) :
    hexNumber? 0 ((hexQuad n).map form) = some n := by
  simp only [hexQuad, List.map_cons, List.map_nil, hexNumber?, hform, Option.some.injEq]
  omega

theorem hexNumber?_hexQuad {n : Nat} (hn : n < 0x10000) : hexNumber? 0 (hexQuad n) = some n := by
  rw [← List.map_id (hexQuad n)]
  exact hexNumber?_map_hexQuad hexValue?_hexDigit hn

theorem takeHex?_append (digits rest : Text) :
    takeHex? digits.length (digits ++ rest) = (hexNumber? 0 digits).map fun n => (n, rest) := by
  rw [takeHex?, if_neg (by rw [List.length_append]; omega), List.take_left, List.drop_left]

theorem scalar?_toNat (c : Char) : scalar? c.toNat = some c := by
  have hvalid : c.toNat.isValidChar := c.valid
  rw [scalar?, if_pos hvalid, Char.ofNat_toNat]

end PatternLoom.Text
