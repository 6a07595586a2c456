import PatternLoom.Pattern.Match

/-!
# Replacement templates

In a template `$name` and `${name}` stand for groups, by number or by name, and `$$` for a dollar
sign. A dollar sign that introduces none of these stands for itself.
-/

namespace PatternLoom.Template

set_option autoImplicit false

inductive Piece where
  | literal (c : Char)
  | group (name : Text)
deriving DecidableEq, Repr

/-- The reference after a dollar sign: a name between braces, or the longest name that stands there. -/
def readReference? (t : Text) : Option (Text × Text) :=
  let braced := match t with
    | '\x7b' :: rest => Reader.readName? '\x7d' rest
    | _ => none
  braced.or <|
    match t.takeWhile Reader.isNameCharacter with
    | [] => none
    | name => some (name, t.drop name.length)

/-- The parts of a template. The number `fuel` bounds the parts still to be read; every part takes a
character at least. -/
def readPieces : Nat → Text → List Piece
  | 0, _ => []
  | _ + 1, [] => []
  | fuel + 1, c :: t =>
    if c = '$' then
      match t with
      | '$' :: rest => .literal '$' :: readPieces fuel rest
      | _ =>
        match readReference? t with
        | some (name, rest) => .group name :: readPieces fuel rest
        | none => .literal '$' :: readPieces fuel t
    else .literal c :: readPieces fuel t

def read (t : Text) : List Piece := readPieces t.length t

/-- The group that a reference means: the one of that name, else the one of that number. -/
def resolve? (caps : Captures) (name : Text) : Option Match :=
  (caps.name? name).or ((Text.toNatBelow? sizeBound name).bind caps.get?)

/-- What a part stands for. A group that does not exist or took no part stands for nothing. -/
def expandPiece (caps : Captures) : Piece → Text
  | .literal c => [c]
  | .group name => ((resolve? caps name).map (·.text)).getD []

def expand (template : Text) (caps : Captures) : Text :=
  (read template).flatMap (expandPiece caps)

end PatternLoom.Template
