import PatternLoom.Toml.Scalar

/-!
# Reading TOML

A document is a sequence of lines: keys with their values, headers of tables, and comments. Values may
nest; arrays may spread over lines, tables between braces may not.

The recursion of values is bounded by a count that twice the length of the text suffices for, and
nesting has a limit of its own.
-/

namespace PatternLoom.Toml

set_option autoImplicit false

/-- Arrays and tables between braces nest at most so deep, and dotted keys have at most so many
parts. -/
def nestingLimit : Nat := 79

def skipComment : Text → Text
  | '#' :: rest => rest.dropWhile isPlain
  | t => t

def afterLine? (t : Text) : Option Text :=
  match skipComment (skipBlanks t) with
  | [] => some []
  | t => afterLineEnd? t

/-- The text without blanks, line ends and comments at its front; a comment goes to the end of its
line. -/
def skipLines (inComment : Bool) : Text → Text
  | [] => []
  | '\n' :: rest => skipLines false rest
  | '\r' :: '\n' :: rest => skipLines false rest
  | c :: rest =>
    if inComment then if isPlain c then skipLines true rest else c :: rest
    else if c = '#' then skipLines true rest
    else if isBlank c then skipLines false rest
    else c :: rest

/-! ## Keys -/

def isBareKey (c : Char) : Bool := c.isAlphanum || c == '-' || c == '_'

def readKeyPart? (t : Text) : Option (Text × Text) :=
  match readShortString? t with
  | some key => some key
  | none =>
    match t.takeWhile isBareKey with
    | [] => none
    | key => some (key, t.dropWhile isBareKey)

def readKeyParts? : Nat → Text → Option (List Text × Text)
  | 0, _ => none
  | bound + 1, t =>
    match readKeyPart? (skipBlanks t) with
    | none => none
    | some (part, rest) =>
      match skipBlanks rest with
      | '.' :: rest => (readKeyParts? bound rest).map fun (parts, rest) => (part :: parts, rest)
      | rest => some ([part], rest)

/-- A key: the path of its tables and its last part. -/
def readKey? (t : Text) : Option ((List Text × Text) × Text) :=
  match readKeyParts? nestingLimit t with
  | some (parts, rest) =>
    match parts.getLast? with
    | some key => some ((parts.dropLast, key), rest)
    | none => none
  | none => none

/-! ## Values -/

mutual

/-- A value. `depth` is how deep it may nest. -/
def readValue? : Nat → Nat → Text → Option (Toml × Text)
  | 0, _, _ => none
  | bound + 1, depth, t =>
    match t with
    | [] => none
    | c :: rest =>
      if c = '[' then
        match depth with
        | 0 => none
        | depth + 1 => (readItems? bound depth rest).map fun (items, rest) => (.array items, rest)
      else if c = '\x7b' then
        match depth with
        | 0 => none
        | depth + 1 =>
          match skipBlanks rest with
          | '\x7d' :: rest => some (.table .inline [], rest)
          | rest =>
            (readMembers? bound depth [] rest).map fun (entries, rest) =>
              (.table .inline entries, rest)
      else if c = '"' ∨ c = '\'' then
        (readString? (c :: rest)).map fun (t, rest) => (.text t, rest)
      else
        match c :: rest with
        | 't' :: 'r' :: 'u' :: 'e' :: rest => some (.boolean true, rest)
        | 'f' :: 'a' :: 'l' :: 's' :: 'e' :: rest => some (.boolean false, rest)
        | t => readNumber? t

/-- The values of an array up to its closing bracket, before which a comma may stand. -/
def readItems? : Nat → Nat → Text → Option (List Toml × Text)
  | 0, _, _ => none
  | bound + 1, depth, t =>
    match skipLines false t with
    | ']' :: rest => some ([], rest)
    | t =>
      match readValue? bound depth t with
      | none => none
      | some (item, rest) =>
        match skipLines false rest with
        | ']' :: rest => some ([item], rest)
        | ',' :: rest => (readItems? bound depth rest).map fun (items, rest) => (item :: items, rest)
        | _ => none

def readMembers? : Nat → Nat → Entries → Text → Option (Entries × Text)
  | 0, _, _, _ => none
  | bound + 1, depth, entries, t =>
    match readKey? t with
    | some ((path, key), '=' :: rest) =>
      match readValue? bound depth (skipBlanks rest) with
      | none => none
      | some (value, rest) =>
        match entries.assign? .inline path key value with
        | none => none
        | some entries =>
          match skipBlanks rest with
          | '\x7d' :: rest => some (entries, rest)
          | ',' :: rest => readMembers? bound depth entries rest
          | _ => none
    | _ => none

end

/-! ## Documents -/

structure Document where
  entries : Entries := []
  path : List Text := []

namespace Document

def assign? (d : Document) (path : List Text) (key : Text) (value : Toml) : Option Document :=
  (d.entries.alterPassed (fun inner => inner.assign? .opened path key value) d.path).map
    fun entries => { d with entries }

def openTable? (d : Document) (path : List Text) (key : Text) : Option Document :=
  (d.entries.openTable? path key).map fun entries => { entries, path := path ++ [key] }

def openRow? (d : Document) (path : List Text) (key : Text) : Option Document :=
  (d.entries.openRow? path key).map fun entries => { entries, path := path ++ [key] }

end Document

def readLine? (d : Document) : Text → Option (Document × Text)
  | '[' :: '[' :: rest =>
    match readKey? rest with
    | some ((path, key), ']' :: ']' :: rest) => do
      let rest ← afterLine? rest
      (d.openRow? path key).map (·, rest)
    | _ => none
  | '[' :: rest =>
    match readKey? rest with
    | some ((path, key), ']' :: rest) => do
      let rest ← afterLine? rest
      (d.openTable? path key).map (·, rest)
    | _ => none
  | t =>
    match afterLine? t with
    | some rest => some (d, rest)
    | none =>
      match readKey? t with
      | some ((path, key), '=' :: rest) => do
        let t := skipBlanks rest
        let (value, rest) ← readValue? (2 * t.length + 2) nestingLimit t
        let rest ← afterLine? rest
        (d.assign? path key value).map (·, rest)
      | _ => none

/-- The document after the remaining lines; `bound` is more than the length of the text. -/
def readLines? : Nat → Document → Text → Option Document
  | 0, _, _ => none
  | bound + 1, d, t =>
    match skipBlanks t with
    | [] => some d
    | t =>
      match readLine? d t with
      | none => none
      | some (d, rest) => readLines? bound d rest

/-- The entries of the document that a whole text is. A byte order mark at its front does not count. -/
def read? (t : Text) : Option Entries :=
  let t := match t with
    | '\ufeff' :: rest => rest
    | _ => t
  (readLines? (t.length + 1) {} t).map (·.entries)

end PatternLoom.Toml
