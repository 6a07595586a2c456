import PatternLoom.Json.Basic

/-!
# Reading JSON

The grammar is strict: four blanks, no comments, no trailing commas, no leading zeros, no control
characters in strings, and nothing but blanks after the value. Nesting has no limit.

Every reader takes a text and returns what it read and what is left. The recursion of values is
bounded by a count that twice the length of the text always suffices for: every second step consumes
a character.
-/

namespace PatternLoom.Json

set_option autoImplicit false

def isBlank (c : Char) : Bool := c == ' ' || c == '\n' || c == '\t' || c == '\r'

def skipBlanks (t : Text) : Text := t.dropWhile isBlank

def shortEscape? : Char → Option Char
  | '"' => some '"'
  | '\\' => some '\\'
  | '/' => some '/'
  | 'b' => some '\x08'
  | 'f' => some '\x0c'
  | 'n' => some '\n'
  | 'r' => some '\r'
  | 't' => some '\t'
  | _ => none

/-- The units of a string up to its closing quote. -/
def readUnits? : Text → Option (List JsonUnit × Text)
  | [] => none
  | '"' :: rest => some ([], rest)
  | '\\' :: 'u' :: a :: b :: c :: d :: rest =>
    match Text.hexNumber? 0 [a, b, c, d], readUnits? rest with
    | some unit, some (units, rest) => some (.code unit :: units, rest)
    | _, _ => none
  | '\\' :: e :: rest =>
    match shortEscape? e, readUnits? rest with
    | some c, some (units, rest) => some (.plain c :: units, rest)
    | _, _ => none
  | c :: rest =>
    if c = '\\' ∨ c.toNat < 0x20 then none
    else (readUnits? rest).map fun (units, rest) => (.plain c :: units, rest)

def readDigits? (t : Text) : Option (Text × Text) :=
  match t.takeWhile Char.isDigit with
  | [] => none
  | digits => some (digits, t.dropWhile Char.isDigit)

/-- The integer part of a numeral: a single zero, or digits that do not start with one. -/
def readInteger? : Text → Option (Text × Text)
  | '0' :: rest => some (['0'], rest)
  | t => readDigits? t

def readFraction? : Text → Option (Text × Text)
  | '.' :: rest => (readDigits? rest).map fun (digits, rest) => ('.' :: digits, rest)
  | t => some ([], t)

def readExponent? : Text → Option (Text × Text)
  | e :: rest =>
    if e = 'e' ∨ e = 'E' then
      let (sign, rest) := match rest with
        | '+' :: rest => (['+'], rest)
        | '-' :: rest => (['-'], rest)
        | _ => ([], rest)
      (readDigits? rest).map fun (digits, rest) => (e :: sign ++ digits, rest)
    else some ([], e :: rest)
  | [] => some ([], [])

/-- A numeral: an integer part, which may follow a minus sign, a fraction and an exponent. -/
def readNumeral? (t : Text) : Option (Text × Text) := do
  let (sign, t) := match t with
    | '-' :: rest => (['-'], rest)
    | _ => ([], t)
  let (whole, t) ← readInteger? t
  let (fraction, t) ← readFraction? t
  let (exponent, t) ← readExponent? t
  some (sign ++ whole ++ fraction ++ exponent, t)

mutual

def readValue? : Nat → Text → Option (Json × Text)
  | 0, _ => none
  | bound + 1, t =>
    match skipBlanks t with
    | 'n' :: 'u' :: 'l' :: 'l' :: rest => some (.null, rest)
    | 't' :: 'r' :: 'u' :: 'e' :: rest => some (.boolean true, rest)
    | 'f' :: 'a' :: 'l' :: 's' :: 'e' :: rest => some (.boolean false, rest)
    | '"' :: rest => (readUnits? rest).map fun (units, rest) => (.string units, rest)
    | '[' :: rest =>
      match skipBlanks rest with
      | ']' :: rest => some (.array [], rest)
      | rest => (readItems? bound rest).map fun (items, rest) => (.array items, rest)
    | '\x7b' :: rest =>
      match skipBlanks rest with
      | '\x7d' :: rest => some (.object [], rest)
      | rest => (readMembers? bound rest).map fun (members, rest) => (.object members, rest)
    | t => (readNumeral? t).map fun (numeral, rest) => (.number numeral, rest)

def readItems? : Nat → Text → Option (List Json × Text)
  | 0, _ => none
  | bound + 1, t =>
    match readValue? bound t with
    | none => none
    | some (item, rest) =>
      match skipBlanks rest with
      | ']' :: rest => some ([item], rest)
      | ',' :: rest => (readItems? bound rest).map fun (items, rest) => (item :: items, rest)
      | _ => none

def readMembers? : Nat → Text → Option (List (List JsonUnit × Json) × Text)
  | 0, _ => none
  | bound + 1, t =>
    match skipBlanks t with
    | '"' :: rest =>
      match readUnits? rest with
      | none => none
      | some (key, rest) =>
        match skipBlanks rest with
        | ':' :: rest =>
          match readValue? bound rest with
          | none => none
          | some (value, rest) =>
            match skipBlanks rest with
            | '\x7d' :: rest => some ([(key, value)], rest)
            | ',' :: rest =>
              (readMembers? bound rest).map fun (members, rest) => ((key, value) :: members, rest)
            | _ => none
        | _ => none
    | _ => none

end

/-- The value that a whole text is, blanks around it apart. -/
def read? (t : Text) : Option Json :=
  match readValue? (2 * t.length + 2) t with
  | some (value, rest) => if skipBlanks rest = [] then some value else none
  | none => none

end PatternLoom.Json
