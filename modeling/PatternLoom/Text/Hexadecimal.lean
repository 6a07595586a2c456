import PatternLoom.Text.Basic

/-!
# Hexadecimal numerals

Digits and numerals to the base sixteen, and the characters that scalar values stand for.
-/

namespace PatternLoom.Text

set_option autoImplicit false

def hexDigit (n : Nat) : Char :=
  if n % 16 < 10 then Char.ofNat (0x30 + n % 16) else Char.ofNat (0x57 + n % 16)

def hexadecimal (n : Nat) : Text :=
  if n < 16 then [hexDigit n] else hexadecimal (n / 16) ++ [hexDigit n]

def hexQuad (n : Nat) : Text :=
  [hexDigit (n / 4096), hexDigit (n / 256), hexDigit (n / 16), hexDigit n]

def hexValue? (c : Char) : Option Nat :=
  if '0' ≤ c ∧ c ≤ '9' then some (c.toNat - 0x30)
  else if 'a' ≤ c ∧ c ≤ 'f' then some (c.toNat - 0x57)
  else if 'A' ≤ c ∧ c ≤ 'F' then some (c.toNat - 0x37)
  else none

def isHexDigit (c : Char) : Bool := (hexValue? c).isSome

def hexNumber? (value : Nat) : Text → Option Nat
  | [] => some value
  | c :: rest =>
    match hexValue? c with
    | some d => hexNumber? (value * 16 + d) rest
    | none => none

/-- The value of the first `width` characters, which must all be hexadecimal digits, and the rest. -/
def takeHex? (width : Nat) (t : Text) : Option (Nat × Text) :=
  if t.length < width then none
  else (hexNumber? 0 (t.take width)).map fun n => (n, t.drop width)

/-- The character with a scalar value; surrogates and numbers beyond the last scalar have none. -/
def scalar? (n : Nat) : Option Char :=
  if n.isValidChar then some (Char.ofNat n) else none

end PatternLoom.Text
