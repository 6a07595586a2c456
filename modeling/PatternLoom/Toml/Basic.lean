import PatternLoom.Text.Basic

/-!
# TOML documents

A document is a table. How a table came about decides what may be added to it: a table that has its
own header is never opened again, and a table that dotted keys made takes no header. The two ways to
add to a document are `assign`, for a key and its value, and `openTable` and `openRow`, for headers.
-/

namespace PatternLoom

set_option autoImplicit false

inductive TableOrigin where
  /-- It is the document, or has its own header. -/
  | opened
  /-- It stands in the path of a header. -/
  | passed
  /-- It stands in the path of a dotted key. -/
  | dotted
  /-- It is written between braces. -/
  | inline
deriving DecidableEq, Repr

/-- A TOML value. Only texts and integers keep what they stand for. -/
inductive Toml where
  | text (t : Text)
  | integer (n : Int)
  | real
  | boolean (b : Bool)
  | moment
  | array (items : List Toml)
  | table (origin : TableOrigin) (entries : List (Text × Toml))
  /-- An array of tables, each with a header in double brackets, the latest first. -/
  | rows (latest : List (Text × Toml)) (earlier : List (List (Text × Toml)))
deriving Repr

abbrev Entries := List (Text × Toml)

namespace Toml

def size? : Toml → Option Nat
  | .integer (.ofNat n) => some n
  | _ => none

def character? : Toml → Option Char
  | .text [c] => some c
  | _ => none

end Toml

namespace Entries

def put (key : Text) (value : Toml) : Entries → Entries
  | [] => []
  | (k, v) :: rest => if k = key then (k, value) :: rest else (k, v) :: put key value rest

def add? (key : Text) (value : Toml) (entries : Entries) : Option Entries :=
  if (entries.lookup key).isSome then none else some (entries ++ [(key, value)])

/-- Changes the table at the end of a path of dotted keys. Tables that are missing are made. The path
may go on from the latest row of an array of tables and through tables that headers have passed, but
not through tables with a header or braces of their own. -/
def alterDotted (change : TableOrigin → Entries → Option Entries) (origin : TableOrigin)
    (entries : Entries) : List Text → Option Entries
  | [] => change origin entries
  | key :: path =>
    match entries.lookup key with
    | none =>
      (alterDotted change .dotted [] path).map fun inner => entries ++ [(key, .table .dotted inner)]
    | some (.table .opened _) | some (.table .inline _) => none
    | some (.table origin inner) =>
      (alterDotted change origin inner path).map fun inner => entries.put key (.table origin inner)
    | some (.rows latest earlier) =>
      (alterDotted change .opened latest path).map fun latest => entries.put key (.rows latest earlier)
    | some _ => none

/-- Gives a value to a key at the end of a path. The last table of the path must have been made by
dotted keys, and the key must be new. -/
def assign? (origin : TableOrigin) (entries : Entries) (path : List Text) (key : Text)
    (value : Toml) : Option Entries :=
  alterDotted
    (fun origin inner => if path ≠ [] ∧ origin ≠ .dotted then none else inner.add? key value)
    origin entries path

/-- Changes the table at the end of the path of a header. Tables that are missing are made. -/
def alterPassed (change : Entries → Option Entries) (entries : Entries) :
    List Text → Option Entries
  | [] => change entries
  | key :: path =>
    match entries.lookup key with
    | none =>
      (alterPassed change [] path).map fun inner => entries ++ [(key, .table .passed inner)]
    | some (.table .inline _) => none
    | some (.table origin inner) =>
      (alterPassed change inner path).map fun inner => entries.put key (.table origin inner)
    | some (.rows latest earlier) =>
      (alterPassed change latest path).map fun latest => entries.put key (.rows latest earlier)
    | some _ => none

/-- Opens the table of a header: a new one, or one that other headers have passed. -/
def openTable? (entries : Entries) (path : List Text) (key : Text) : Option Entries :=
  alterPassed (fun inner =>
    match inner.lookup key with
    | none => some (inner ++ [(key, .table .opened [])])
    | some (.table .passed entries) => some (inner.put key (.table .opened entries))
    | some _ => none) entries path

def openRow? (entries : Entries) (path : List Text) (key : Text) : Option Entries :=
  alterPassed (fun inner =>
    match inner.lookup key with
    | none => some (inner ++ [(key, .rows [] [])])
    | some (.rows latest earlier) => some (inner.put key (.rows [] (latest :: earlier)))
    | some _ => none) entries path

end Entries

end PatternLoom
