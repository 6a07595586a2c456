import PatternLoom.Text.Basic

/-!
# Decimal numerals

Writing a natural number in decimal and reading one back.
-/

namespace PatternLoom.Text

set_option autoImplicit false

def digitChar (n : Nat) : Char := Char.ofNat (0x30 + n % 10)

def digitValue? (c : Char) : Option Nat :=
  if '0' ≤ c ∧ c ≤ '9' then some (c.toNat - 0x30) else none

def ofNat (n : Nat) : Text :=
  if n < 10 then [digitChar n] else ofNat (n / 10) ++ [digitChar n]

def digitsValue? (value : Nat) : Text → Option Nat
  | [] => some value
  | c :: rest =>
    match digitValue? c with
    | some d => digitsValue? (value * 10 + d) rest
    | none => none

/-- The value of a numeral: one digit or more, leading zeros allowed. -/
def toNat? : Text → Option Nat
  | [] => none
  | t@(_ :: _) => digitsValue? 0 t

/-- The value of a numeral with an optional plus sign, if it is below `bound`. -/
def toNatBelow? (bound : Nat) (t : Text) : Option Nat :=
  let digits := match t with
    | '+' :: rest => rest
    | _ => t
  match toNat? digits with
  | some n => if n < bound then some n else none
  | none => none

/-- The value of the digits at the front of a text, if it is below `bound`, and what follows them. -/
def takeNatBelow? (bound : Nat) (t : Text) : Option (Nat × Text) :=
  match toNat? (t.takeWhile Char.isDigit) with
  | some n => if n < bound then some (n, t.dropWhile Char.isDigit) else none
  | none => none

end PatternLoom.Text
