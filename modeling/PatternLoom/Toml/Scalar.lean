import PatternLoom.Text.Decimal
import PatternLoom.Text.Hexadecimal
import PatternLoom.Toml.Basic

/-!
# TOML scalars

The four kinds of strings, integers to four bases, reals, and dates and times. Every reader takes a
text and returns what it read and what is left.
-/

namespace PatternLoom.Toml

set_option autoImplicit false

def isBlank (c : Char) : Bool := c == ' ' || c == '\t'

def skipBlanks (t : Text) : Text := t.dropWhile isBlank

def afterLineEnd? : Text → Option Text
  | '\n' :: rest => some rest
  | '\r' :: '\n' :: rest => some rest
  | _ => none

/-- A character that strings and comments may hold: any but the control characters, tabs apart. -/
def isPlain (c : Char) : Bool := c == '\t' || (0x20 ≤ c.toNat && c.toNat != 0x7F)

/-! ## Strings -/

def readEscape? : Text → Option (Char × Text)
  | 'b' :: rest => some ('\x08', rest)
  | 't' :: rest => some ('\t', rest)
  | 'n' :: rest => some ('\n', rest)
  | 'f' :: rest => some ('\x0c', rest)
  | 'r' :: rest => some ('\r', rest)
  | '"' :: rest => some ('"', rest)
  | '\\' :: rest => some ('\\', rest)
  | 'u' :: rest => do
    let (n, rest) ← Text.takeHex? 4 rest
    (Text.scalar? n).map (·, rest)
  | 'U' :: rest => do
    let (n, rest) ← Text.takeHex? 8 rest
    (Text.scalar? n).map (·, rest)
  | _ => none

/-- A string with escapes up to its closing quote; `bound` is more than the length of the text. -/
def readBasic? : Nat → Text → Option (Text × Text)
  | 0, _ => none
  | bound + 1, t =>
    match t with
    | '"' :: rest => some ([], rest)
    | '\\' :: rest => do
      let (c, rest) ← readEscape? rest
      let (more, rest) ← readBasic? bound rest
      some (c :: more, rest)
    | c :: rest =>
      if isPlain c then (readBasic? bound rest).map fun (more, rest) => (c :: more, rest) else none
    | [] => none

def readLiteral? (t : Text) : Option (Text × Text) :=
  let body := t.takeWhile fun c => isPlain c && c != '\''
  match t.drop body.length with
  | '\'' :: rest => some (body, rest)
  | _ => none

/-- The text after a backslash that continues a string on a later line: blanks and line ends are
skipped, of which the first must be a line end. -/
def afterContinuation? (t : Text) : Option Text :=
  (afterLineEnd? (skipBlanks t)).map skipLines
where
  skipLines : Text → Text
    | '\r' :: '\n' :: rest => skipLines rest
    | c :: rest => if isBlank c || c == '\n' then skipLines rest else c :: rest
    | [] => []

/-- What closes a string of several lines: three quotes, before which one or two belong to it. -/
def readClosing? (quote : Char) : Text → Option (Text × Text)
  | a :: b :: c :: rest =>
    if a = quote ∧ b = quote ∧ c = quote then
      let extra := (rest.take 2).takeWhile (· == quote)
      some (extra, rest.drop extra.length)
    else none
  | _ => none

def readLongBasic? : Nat → Text → Option (Text × Text)
  | 0, _ => none
  | bound + 1, t =>
    match readClosing? '"' t with
    | some closing => some closing
    | none =>
      match t with
      | '\\' :: rest =>
        match afterContinuation? rest with
        | some rest => readLongBasic? bound rest
        | none => do
          let (c, rest) ← readEscape? rest
          let (more, rest) ← readLongBasic? bound rest
          some (c :: more, rest)
      | c :: rest =>
        match afterLineEnd? t with
        | some rest => (readLongBasic? bound rest).map fun (more, rest) => ('\n' :: more, rest)
        | none =>
          if isPlain c then (readLongBasic? bound rest).map fun (more, rest) => (c :: more, rest)
          else none
      | [] => none

def readLongLiteral? : Nat → Text → Option (Text × Text)
  | 0, _ => none
  | bound + 1, t =>
    match readClosing? '\'' t with
    | some closing => some closing
    | none =>
      match t with
      | c :: rest =>
        match afterLineEnd? t with
        | some rest => (readLongLiteral? bound rest).map fun (more, rest) => ('\n' :: more, rest)
        | none =>
          if isPlain c then (readLongLiteral? bound rest).map fun (more, rest) => (c :: more, rest)
          else none
      | [] => none

def skipLineEnd (t : Text) : Text := (afterLineEnd? t).getD t

def readShortString? : Text → Option (Text × Text)
  | '"' :: rest => readBasic? (rest.length + 1) rest
  | '\'' :: rest => readLiteral? rest
  | _ => none

/-- A string of any kind. A line end right after three opening quotes does not count. -/
def readString? : Text → Option (Text × Text)
  | '"' :: '"' :: '"' :: rest => readLongBasic? (rest.length + 1) (skipLineEnd rest)
  | '\'' :: '\'' :: '\'' :: rest => readLongLiteral? (rest.length + 1) (skipLineEnd rest)
  | t => readShortString? t

/-! ## Numbers -/

/-- The digits at the front of a text. A single underscore may stand between two of them. -/
def splitDigits (isDigit : Char → Bool) : Text → Text × Text
  | '_' :: d :: rest =>
    if isDigit d then
      let (digits, rest) := splitDigits isDigit rest
      (d :: digits, rest)
    else ([], '_' :: d :: rest)
  | d :: rest =>
    if isDigit d then
      let (digits, rest) := splitDigits isDigit rest
      (d :: digits, rest)
    else ([], d :: rest)
  | [] => ([], [])

def readDigits? (isDigit : Char → Bool) : Text → Option (Text × Text)
  | d :: rest =>
    if isDigit d then
      let (digits, rest) := splitDigits isDigit rest
      some (d :: digits, rest)
    else none
  | [] => none

def readSign : Text → Bool × Text
  | '-' :: rest => (true, rest)
  | '+' :: rest => (false, rest)
  | t => (false, t)

def readWhole? : Text → Option (Text × Text)
  | '0' :: rest => some (['0'], rest)
  | t => readDigits? Char.isDigit t

def digitsValue (base : Nat) (digits : Text) : Nat :=
  digits.foldl (fun value d => value * base + (Text.hexValue? d).getD 0) 0

def readUnsigned? (base : Nat) (isDigit : Char → Bool) (t : Text) : Option (Toml × Text) := do
  let (digits, rest) ← readDigits? isDigit t
  let n := digitsValue base digits
  if n < Nat.pow 2 63 then some (.integer n, rest) else none

def readInteger? : Text → Option (Toml × Text)
  | '0' :: 'x' :: rest => readUnsigned? 16 Text.isHexDigit rest
  | '0' :: 'o' :: rest => readUnsigned? 8 (fun c => '0' ≤ c && c ≤ '7') rest
  | '0' :: 'b' :: rest => readUnsigned? 2 (fun c => c == '0' || c == '1') rest
  | t => do
    let (negative, t) := readSign t
    let (digits, rest) ← readWhole? t
    let n := digitsValue 10 digits
    if negative then if n ≤ Nat.pow 2 63 then some (.integer (-n), rest) else none
    else if n < Nat.pow 2 63 then some (.integer n, rest) else none

/-- The least magnitude that a real of 64 bits rounds to infinity. -/
def realBound : Nat := Nat.pow 2 1024 - Nat.pow 2 970

/-- The number with some digits, of which the last has the weight `10 ^ exponent`, is too large for a
real of 64 bits. With 308 digits before the point it is not, with 310 it is. -/
def isTooLarge (digits : Text) (exponent : Int) : Bool :=
  let significant := digits.dropWhile (· == '0')
  let m := digitsValue 10 significant
  let size : Int := significant.length + exponent
  if significant.isEmpty || size < 309 then false
  else if 309 < size then true
  else if exponent < 0 then realBound * Nat.pow 10 exponent.natAbs ≤ m
  else realBound ≤ m * Nat.pow 10 exponent.natAbs

def readExponent? : Text → Option (Int × Text)
  | e :: rest =>
    if e = 'e' ∨ e = 'E' then do
      let (negative, rest) := readSign rest
      let (digits, rest) ← readDigits? Char.isDigit rest
      let n := digitsValue 10 digits
      some (if negative then -(n : Int) else n, rest)
    else none
  | [] => none

/-- A real: a decimal integer with a fraction, an exponent or both, or one of the words for infinity
and for what is not a number. A positive real must be small enough to have a value. -/
def readReal? (t : Text) : Option (Toml × Text) :=
  let (negative, t) := readSign t
  match t with
  | 'i' :: 'n' :: 'f' :: rest => some (.real, rest)
  | 'n' :: 'a' :: 'n' :: rest => some (.real, rest)
  | t => do
    let (whole, t) ← readWhole? t
    let (fraction, exponent, rest) ← match t with
      | '.' :: t => do
        let (fraction, t) ← readDigits? Char.isDigit t
        match readExponent? t with
        | some (exponent, rest) => some (fraction, exponent, rest)
        | none => some (fraction, 0, t)
      | t => (readExponent? t).map fun (exponent, rest) => ([], exponent, rest)
    if !negative && isTooLarge (whole ++ fraction) (exponent - fraction.length) then none
    else some (.real, rest)

/-! ## Dates and times -/

def readField? (width low high : Nat) (t : Text) : Option (Nat × Text) :=
  let digits := t.take width
  if digits.length = width ∧ digits.all Char.isDigit then
    let n := digitsValue 10 digits
    if low ≤ n ∧ n ≤ high then some (n, t.drop width) else none
  else none

def after? (mark : Char) : Text → Option Text
  | c :: rest => if c = mark then some rest else none
  | [] => none

def monthLength (year month : Nat) : Nat :=
  if month = 2 then
    if year % 4 = 0 ∧ (year % 100 ≠ 0 ∨ year % 400 = 0) then 29 else 28
  else if month = 4 ∨ month = 6 ∨ month = 9 ∨ month = 11 then 30
  else 31

def afterDate? (t : Text) : Option Text := do
  let (year, t) ← readField? 4 0 9999 t
  let (month, t) ← readField? 2 1 12 (← after? '-' t)
  let (_, t) ← readField? 2 1 (monthLength year month) (← after? '-' t)
  some t

/-- The text after the time of a day, which may have a fraction and end on a leap second. -/
def afterTime? (t : Text) : Option Text := do
  let (_, t) ← readField? 2 0 23 t
  let (_, t) ← readField? 2 0 59 (← after? ':' t)
  let (_, t) ← readField? 2 0 60 (← after? ':' t)
  match t with
  | '.' :: fraction =>
    let rest := fraction.dropWhile Char.isDigit
    some (if rest.length < fraction.length then rest else t)
  | _ => some t

def afterOffset? : Text → Option Text
  | [] => some []
  | c :: rest =>
    if c = 'Z' ∨ c = 'z' then some rest
    else if c = '+' ∨ c = '-' then do
      let (_, t) ← readField? 2 0 23 rest
      let (_, t) ← readField? 2 0 59 (← after? ':' t)
      some t
    else some (c :: rest)

def readMoment? (t : Text) : Option (Toml × Text) :=
  match afterDate? t with
  | none => (afterTime? t).map fun rest => (.moment, rest)
  | some t =>
    match t with
    | c :: rest =>
      if c = 'T' ∨ c = 't' ∨ c = ' ' then
        match afterTime? rest with
        | some rest => (afterOffset? rest).map fun rest => (.moment, rest)
        | none => some (.moment, t)
      else some (.moment, t)
    | [] => some (.moment, [])

/-- A moment, a real or an integer, in this order of preference. -/
def readNumber? (t : Text) : Option (Toml × Text) :=
  ((readMoment? t).or (readReal? t)).or (readInteger? t)

end PatternLoom.Toml
