import PatternLoom.Pattern.Property
import PatternLoom.Text.Hexadecimal

/-!
# Escape sequences

What a backslash and the characters after it stand for, inside and outside of a bracketed class.
Every reader takes the text after the backslash and returns what is left.
-/

namespace PatternLoom

set_option autoImplicit false

inductive EscapeSequence where
  | literal (c : Char)
  | members (s : CharClass)
deriving DecidableEq, Repr

namespace EscapeSequence

/-- A scalar value in exactly `width` hexadecimal digits, or in one to eight between braces. -/
def readScalar? (width : Nat) (t : Text) : Option (Char × Text) :=
  match Text.takeHex? width t with
  | some (n, rest) => (Text.scalar? n).map (·, rest)
  | none =>
    match t with
    | '\x7b' :: t =>
      let digits := t.takeWhile Text.isHexDigit
      match t.drop digits.length with
      | '\x7d' :: rest =>
        if digits.isEmpty ∨ digits.length > 8 then none
        else ((Text.hexNumber? 0 digits).bind Text.scalar?).map (·, rest)
      | _ => none
    | _ => none

def readProperty? : Text → Option (CharClass × Text)
  | '\x7b' :: t =>
    match t.dropWhile (· != '\x7d') with
    | '\x7d' :: rest => (CharClass.ofPropertyName? (t.takeWhile (· != '\x7d'))).map (·, rest)
    | _ => none
  | c :: rest => (CharClass.ofPropertyName? [c]).map (·, rest)
  | [] => none

/-- The escape sequences that mean the same inside and outside of a class. -/
def read? : Text → Option (EscapeSequence × Text)
  | [] => none
  | 'd' :: t => some (.members .digit, t)
  | 'D' :: t => some (.members (.compl .digit), t)
  | 's' :: t => some (.members .blank, t)
  | 'S' :: t => some (.members (.compl .blank), t)
  | 'w' :: t => some (.members .word, t)
  | 'W' :: t => some (.members (.compl .word), t)
  | 'h' :: t => some (.members CharClass.hexDigits, t)
  | 'H' :: t => some (.members (.compl CharClass.hexDigits), t)
  | 'a' :: t => some (.literal '\x07', t)
  | 'e' :: t => some (.literal '\x1b', t)
  | 'f' :: t => some (.literal '\x0c', t)
  | 'n' :: t => some (.literal '\n', t)
  | 'r' :: t => some (.literal '\r', t)
  | 't' :: t => some (.literal '\t', t)
  | 'v' :: t => some (.literal '\x0b', t)
  | 'x' :: t => (readScalar? 2 t).map fun (c, rest) => (.literal c, rest)
  | 'u' :: t => (readScalar? 4 t).map fun (c, rest) => (.literal c, rest)
  | 'U' :: t => (readScalar? 8 t).map fun (c, rest) => (.literal c, rest)
  | 'p' :: t => (readProperty? t).map fun (s, rest) => (.members s, rest)
  | 'P' :: t => (readProperty? t).map fun (s, rest) => (.members (.compl s), rest)
  | c :: t =>
    if 0x20 ≤ c.toNat ∧ c.toNat < 0x80 ∧ c.isAlphanum = false then some (.literal c, t) else none

end EscapeSequence

end PatternLoom
