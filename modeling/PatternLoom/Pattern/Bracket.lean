import PatternLoom.Pattern.EscapeSequence

/-!
# Bracketed classes

A class such as `[^a-z\d&&[b-y]]` is read in two passes. The first finds its closing bracket, with
nested brackets counted and escape sequences resolved; the second reads the items between, joined by
the set operations `&&`, `--` and `~~`, which associate to the left.
-/

namespace PatternLoom.Bracket

set_option autoImplicit false

/-- A character of a class body that may have a meaning, or an escape sequence that has been read. -/
inductive Piece where
  | bare (c : Char)
  | escaped (e : EscapeSequence)
deriving DecidableEq, Repr

def skipVerbose : Text → Text
  | [] => []
  | '#' :: t => skipComment t
  | c :: t => if c = ' ' ∨ c = '\r' ∨ c = '\n' ∨ c = '\t' then skipVerbose t else c :: t
where
  skipComment : Text → Text
    | [] => []
    | '\n' :: t => skipVerbose t
    | _ :: t => skipComment t

/-- The pieces of a class body up to the bracket that closes `depth` open ones, and what follows. The
number `fuel` bounds the pieces still to be read. -/
def readPieces (verbose : Bool) : Nat → Nat → Text → Option (List Piece × Text)
  | 0, _, _ => none
  | fuel + 1, depth, t =>
    match if verbose then skipVerbose t else t with
    | [] => none
    | '\\' :: 'b' :: rest =>
      (readPieces verbose fuel depth rest).map fun (ps, u) => (.escaped (.literal '\x08') :: ps, u)
    | '\\' :: rest =>
      match EscapeSequence.read? rest with
      | some (e, rest) =>
        (readPieces verbose fuel depth rest).map fun (ps, u) => (.escaped e :: ps, u)
      | none => none
    | '[' :: rest =>
      (readPieces verbose fuel (depth + 1) rest).map fun (ps, u) => (.bare '[' :: ps, u)
    | ']' :: rest =>
      if depth ≤ 1 then some ([.bare ']'], rest)
      else (readPieces verbose fuel (depth - 1) rest).map fun (ps, u) => (.bare ']' :: ps, u)
    | c :: rest =>
      (readPieces verbose fuel depth rest).map fun (ps, u) => (.bare c :: ps, u)

inductive SetOp where
  | inter
  | diff
  | symmDiff
deriving DecidableEq, Repr

def SetOp.apply : SetOp → CharClass → CharClass → CharClass
  | .inter => .inter
  | .diff => .diff
  | .symmDiff => .symmDiff

/-- A class body in the course of reading: whether it is negated, the operation that waits for its
right operand, and the items of the current operand, latest first. -/
structure Body where
  negated : Bool
  pending : Option (CharClass × SetOp)
  items : List CharClass

namespace Body

def folded (anyCase : Bool) (s : CharClass) : CharClass :=
  if anyCase then .anyCase s else s

def operand (anyCase : Bool) (b : Body) : CharClass :=
  let right := CharClass.unions b.items.reverse
  match b.pending with
  | none => right
  | some (left, op) => op.apply (folded anyCase left) (folded anyCase right)

def finish (anyCase : Bool) (b : Body) : CharClass :=
  let s := folded anyCase (b.operand anyCase)
  if b.negated then .compl s else s

def push (b : Body) (s : CharClass) : Body := { b with items := s :: b.items }

def operate (anyCase : Bool) (b : Body) (op : SetOp) : Body :=
  { b with pending := some (b.operand anyCase, op), items := [] }

end Body

def openHyphens (b : Body) : List Piece → Body × List Piece
  | .bare '-' :: rest => openHyphens (b.push (.one '-')) rest
  | rest => (b, rest)

/-- The start of a body after its opening bracket: a caret negates, hyphens at the front are literal,
and so is a closing bracket that would make the class empty. -/
def openBody (pieces : List Piece) : Body × List Piece :=
  let (negated, pieces) := match pieces with
    | .bare '^' :: rest => (true, rest)
    | _ => (false, pieces)
  let (b, pieces) := openHyphens ⟨negated, none, []⟩ pieces
  match b.items, pieces with
  | [], .bare ']' :: rest => (b.push (.one ']'), rest)
  | _, _ => (b, pieces)

def bareText? : List Piece → Option Text
  | [] => some []
  | .bare c :: rest => (bareText? rest).map (c :: ·)
  | .escaped _ :: _ => none

def readAsciiClass? (anyCase : Bool) : List Piece → Option (CharClass × List Piece)
  | .bare ':' :: rest =>
    let (negated, rest) := match rest with
      | .bare '^' :: r => (true, r)
      | _ => (false, rest)
    let name := rest.takeWhile (· != .bare ':')
    match rest.drop name.length with
    | .bare ':' :: .bare ']' :: rest =>
      match (bareText? name).bind CharClass.ofAsciiName? with
      | some s =>
        let s := Body.folded anyCase s
        some (if negated then .compl s else s, rest)
      | none => none
    | _ => none
  | _ => none

def readOperand? : List Piece → Option (EscapeSequence × List Piece)
  | [] => none
  | .bare c :: rest => some (.literal c, rest)
  | .escaped e :: rest => some (e, rest)

/-- An item: a literal, a class, or a range between two literals. A hyphen makes a range unless a
closing bracket or another hyphen follows it. -/
def readItem? (pieces : List Piece) : Option (CharClass × List Piece) := do
  let (first, rest) ← readOperand? pieces
  let alone := match first with
    | .literal c => CharClass.one c
    | .members s => s
  match rest with
  | [] => none
  | .bare '-' :: [] => none
  | .bare '-' :: .bare ']' :: _ => some (alone, rest)
  | .bare '-' :: .bare '-' :: _ => some (alone, rest)
  | .bare '-' :: rest =>
    match first, ← readOperand? rest with
    | .literal lo, (.literal hi, rest) => if lo ≤ hi then some (.range lo hi, rest) else none
    | _, _ => none
  | _ => some (alone, rest)

/-- The class whose body has been read up to `b`, and the pieces after its closing bracket. -/
def readBody (anyCase : Bool) : Nat → Body → List Piece → Option (CharClass × List Piece)
  | 0, _, _ => none
  | fuel + 1, b, pieces =>
    match pieces with
    | [] => none
    | .bare ']' :: rest => some (b.finish anyCase, rest)
    | .bare '&' :: .bare '&' :: rest => readBody anyCase fuel (b.operate anyCase .inter) rest
    | .bare '-' :: .bare '-' :: rest => readBody anyCase fuel (b.operate anyCase .diff) rest
    | .bare '~' :: .bare '~' :: rest => readBody anyCase fuel (b.operate anyCase .symmDiff) rest
    | .bare '[' :: rest =>
      match readAsciiClass? anyCase rest with
      | some (s, rest) => readBody anyCase fuel (b.push s) rest
      | none =>
        let (inner, rest) := openBody rest
        match readBody anyCase fuel inner rest with
        | some (s, rest) => readBody anyCase fuel (b.push s) rest
        | none => none
    | _ =>
      match readItem? pieces with
      | some (s, rest) => readBody anyCase fuel (b.push s) rest
      | none => none

/-- The class after an opening bracket, and the text after its closing bracket. A closing bracket
right after the opening one (or after the caret) is a literal. -/
def read? (anyCase verbose : Bool) (t : Text) : Option (CharClass × Text) := do
  let (caret, t) := match t with
    | '^' :: rest => ([Piece.bare '^'], rest)
    | _ => ([], t)
  let (bracket, t) := match t with
    | ']' :: rest => ([Piece.escaped (.literal ']')], rest)
    | _ => ([], t)
  let (pieces, rest) ← readPieces verbose (t.length + 1) 1 t
  let (b, pieces) := openBody (caret ++ bracket ++ pieces)
  let (s, left) ← readBody anyCase (pieces.length + 1) b pieces
  if left.isEmpty then some (s, rest) else none

end PatternLoom.Bracket
