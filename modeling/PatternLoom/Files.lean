import PatternLoom.Error

/-!
# Files

What can be read below a directory, and what goes wrong when a path does not lead to a file of text.
-/

namespace PatternLoom

set_option autoImplicit false

inductive FileNode where
  | file (bytes : ByteArray)
  | directory

/-- The files and directories below a directory, by the names on the way to them. The directories on
the way to an entry exist too, and of two entries with the same names the last counts. -/
abbrev FileTree := List (List Text × FileNode)

namespace FileTree

/-- The names in a path: its parts between slashes. Empty parts are kept; they lead from a directory
to itself. -/
def names (path : Text) : List Text :=
  match path with
  | [] => [[]]
  | '/' :: rest => [] :: names rest
  | c :: rest =>
    match names rest with
    | [] => [[c]]
    | name :: more => (c :: name) :: more

/-- The longest name that a directory can hold, in bytes. -/
def nameLimit : Nat := 255

def pathLimit : Nat := 4095

def node? (tree : FileTree) (place : List Text) : Option FileNode :=
  match tree.reverse.lookup place with
  | some node => some node
  | none => if tree.any fun (names, _) => place.isPrefixOf names then some .directory else none

/-- What names lead to from a place where `node` stands. Only a directory leads further. -/
def walk (tree : FileTree) (place : List Text) (node : FileNode) :
    List Text → Except FileFault FileNode
  | [] => .ok node
  | name :: more =>
    match node with
    | .file _ => .error .notDirectory
    | .directory =>
      if name = [] ∨ name = ['.'] then walk tree place .directory more
      else if name = ['.', '.'] then
        if place = [] then .error .notFound else walk tree place.dropLast .directory more
      else if nameLimit < Text.byteLength name then .error .nameTooLong
      else
        match tree.node? (place ++ [name]) with
        | none => .error .notFound
        | some node => walk tree (place ++ [name]) node more

/-- What a path leads to. Only the files below the directory are known, so an absolute path leads to
nothing. -/
def resolve (tree : FileTree) (path : Text) : Except FileFault FileNode :=
  if path.contains '\x00' then .error .badPath
  else if pathLimit < Text.byteLength path then .error .nameTooLong
  else
    match path with
    | [] => .error .notFound
    | '/' :: _ => .error .notFound
    | _ => walk tree [] .directory (names path)

def readText (tree : FileTree) (path : Text) : Except FileFault Text :=
  match tree.resolve path with
  | .error fault => .error fault
  | .ok .directory => .error .isDirectory
  | .ok (.file bytes) =>
    match String.fromUTF8? bytes with
    | some s => .ok s.toList
    | none => .error .notUtf8

end FileTree

end PatternLoom
