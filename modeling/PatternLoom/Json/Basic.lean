import PatternLoom.Text.Decimal
import PatternLoom.Text.Hexadecimal

/-!
# JSON values

A value keeps its numerals and strings as they are written. A string is a sequence of characters and
of `\u` units; it spells a text only if every surrogate unit stands in a pair. Objects keep their
members in order, repetitions included.
-/

namespace PatternLoom

set_option autoImplicit false

inductive JsonUnit where
  /-- A character that stands for itself, or is written as a short escape. -/
  | plain (c : Char)
  /-- A UTF-16 code unit, written with four hexadecimal digits. -/
  | code (unit : Nat)
deriving DecidableEq, Repr

inductive Json where
  | null
  | boolean (b : Bool)
  | number (numeral : Text)
  | string (units : List JsonUnit)
  | array (items : List Json)
  | object (members : List (List JsonUnit × Json))
deriving Repr

namespace JsonUnit

def isHigh (unit : Nat) : Bool := 0xD800 ≤ unit && unit < 0xDC00

def isLow (unit : Nat) : Bool := 0xDC00 ≤ unit && unit < 0xE000

/-- The text that a string spells, if no surrogate stands alone. -/
def text? : List JsonUnit → Option Text
  | [] => some []
  | .plain c :: rest => (text? rest).map (c :: ·)
  | .code high :: .code low :: rest =>
    if isHigh high && isLow low then
      (text? rest).map (Char.ofNat (0x10000 + (high - 0xD800) * 0x400 + (low - 0xDC00)) :: ·)
    else if isHigh high || isLow high then none
    else (text? (.code low :: rest)).map (Char.ofNat high :: ·)
  | .code unit :: rest =>
    if isHigh unit || isLow unit then none else (text? rest).map (Char.ofNat unit :: ·)

end JsonUnit

namespace Json

def ofText (t : Text) : Json := .string (t.map .plain)

def ofNat (n : Nat) : Json := .number (Text.ofNat n)

/-- A size: a number below `2 ^ 64` written without sign, fraction and exponent. -/
def size? : Json → Option Nat
  | .number numeral =>
    match Text.toNat? numeral with
    | some n => if n < Nat.pow 2 64 then some n else none
    | none => none
  | _ => none

def character? : Json → Option Char
  | .string units =>
    match JsonUnit.text? units with
    | some [c] => some c
    | _ => none
  | _ => none

end Json

end PatternLoom
