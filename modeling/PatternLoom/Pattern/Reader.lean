import PatternLoom.Pattern.Bracket
import PatternLoom.Pattern.Regex
import PatternLoom.Text.Decimal
import PatternLoom.Unicode.Alphanumeric

/-!
# Reading patterns

A pattern is read from left to right with a stack of the groups that are still open. One step reads
an atom, a quantifier, a bar or a bracket; `read?` repeats the step to the end of the pattern.
-/

namespace PatternLoom

set_option autoImplicit false

structure Flags where
  anyCase : Bool := false
  multiLine : Bool := false
  dotAll : Bool := false
  swapGreed : Bool := false
  verbose : Bool := false
deriving DecidableEq, Repr

/-- Sizes, counts and group numbers lie below this bound. -/
def sizeBound : Nat := Nat.pow 2 64

inductive GroupKind where
  | root
  | plain
  | capture (group : Nat)
  | ahead (positive : Bool)
  | behind (positive : Bool)
  | atomic
  | condition
  | branches (condition : Regex)
deriving DecidableEq, Repr

/-- An open group: the flags to go back to, its finished alternatives and the elements of the current
one, both latest first. -/
structure OpenGroup where
  kind : GroupKind
  outer : Flags
  finished : List Regex := []
  elements : List Regex := []
deriving DecidableEq, Repr

structure Reader where
  /-- Length of the whole pattern in bytes. -/
  size : Nat
  flags : Flags := {}
  groups : Nat := 0
  /-- Group names, the latest first. -/
  names : List (Text × Nat) := []
  /-- Groups that back-references and conditions mention. -/
  references : List Nat := []
  /-- A group has been referred to by its bare number. -/
  numbered : Bool := false
  current : OpenGroup
  enclosing : List OpenGroup := []
  /-- The element read last, while a quantifier may still follow it. -/
  atom : Option Regex := none
deriving DecidableEq, Repr

namespace OpenGroup

/-- One more element; the empty pattern leaves no trace. -/
def push (g : OpenGroup) (p : Regex) : OpenGroup :=
  if p = .empty then g else { g with elements := p :: g.elements }

def branch (g : OpenGroup) : Regex := .ofElements g.elements.reverse

def alternatives (g : OpenGroup) : List Regex := (g.branch :: g.finished).reverse

def body (g : OpenGroup) : Regex :=
  match g.alternatives with
  | [] => .empty
  | p :: ps => .ofAlternatives p ps

end OpenGroup

namespace Reader

def start (size : Nat) : Reader :=
  { size, current := { kind := .root, outer := {} } }

def settle (r : Reader) : Reader :=
  match r.atom with
  | none => r
  | some p => { r with atom := none, current := r.current.push p }

def offer (r : Reader) (p : Regex) : Reader :=
  { r.settle with atom := some p }

def offerLiteral (r : Reader) (c : Char) : Reader :=
  r.offer (.literal r.flags.anyCase c)

/-- Comments `(?#…)`, and the blanks and line comments of verbose mode, separate the parts of a
pattern. A comment must be closed. The number `fuel` bounds the parts still to be skipped. -/
def skipBlanks? (verbose : Bool) : Nat → Text → Option Text
  | 0, t => some t
  | fuel + 1, t =>
    match if verbose then Bracket.skipVerbose t else t with
    | '(' :: '?' :: '#' :: rest => (closeComment? rest).bind (skipBlanks? verbose fuel)
    | rest => some rest
where
  /-- The text after the bracket that closes a comment; a backslash protects its successor. -/
  closeComment? : Text → Option Text
    | [] => none
    | ')' :: rest => some rest
    | '\\' :: _ :: rest => closeComment? rest
    | _ :: rest => closeComment? rest

def skip? (r : Reader) (t : Text) : Option Text :=
  skipBlanks? r.flags.verbose (t.length + 1) t

def readBounds? (r : Reader) (t : Text) : Option (Nat × Option Nat × Text) := do
  let t ← r.skip? t
  let (lo, t) ← match t with
    | ',' :: _ => some (0, t)
    | _ => Text.takeNatBelow? sizeBound t
  match ← r.skip? t with
  | '\x7d' :: rest => some (lo, some lo, rest)
  | ',' :: t =>
    let t ← r.skip? t
    let (hi, t) := match Text.takeNatBelow? sizeBound t with
      | some (hi, rest) => (some hi, rest)
      | none => (none, t)
    match ← r.skip? t with
    | '\x7d' :: rest => some (lo, hi, rest)
    | _ => none
  | _ => none

def quantify? (r : Reader) (lo : Nat) (hi : Option Nat) (t : Text) : Option (Reader × Text) := do
  let p ← r.atom
  if p.isRepeatable then
    let t ← r.skip? t
    let (lazyMark, t) := match t with
      | '?' :: rest => (true, rest)
      | _ => (false, t)
    let repeated := Regex.iterate lo hi (lazyMark == r.flags.swapGreed) p
    let (repeated, t) := match t with
      | '+' :: rest => (Regex.atomic repeated, rest)
      | _ => (repeated, t)
    some ({ r with atom := none, current := r.current.push repeated }, t)
  else none

def openGroup (r : Reader) (kind : GroupKind) (flags : Flags) : Option Reader :=
  let r := r.settle
  if r.enclosing.length + 2 > 64 then none
  else some { r with
    flags
    current := { kind, outer := r.flags }
    enclosing := r.current :: r.enclosing }

def openCapture (r : Reader) : Option Reader :=
  { r with groups := r.groups + 1 }.openGroup (.capture (r.groups + 1)) r.flags

def isNameCharacter (c : Char) : Bool := Unicode.isAlphanumeric c || c == '_'

def readName? (close : Char) (t : Text) : Option (Text × Text) :=
  let name := t.takeWhile isNameCharacter
  match name, t.drop name.length with
  | _ :: _, c :: rest => if c = close then some (name, rest) else none
  | _, _ => none

/-- A named capture group opens. A name that is used again names the later group. -/
def openNamed (r : Reader) (close : Char) (t : Text) : Option (Reader × Text) := do
  let (name, rest) ← readName? close t
  let names := (name, r.groups + 1) :: r.names.filter (·.1 ≠ name)
  let r ← { r with names }.openCapture
  some (r, rest)

def refer? (r : Reader) (group : Nat) : Option (Reader × Regex) :=
  if group ≤ r.groups then
    some ({ r with references := group :: r.references }, .backref group r.flags.anyCase)
  else none

/-- A reference by number. The number has to be smaller than half the length of the pattern. -/
def referNumbered? (r : Reader) (t : Text) : Option (Reader × Regex × Text) := do
  let (group, rest) ← Text.takeNatBelow? sizeBound t
  if group < r.size / 2 then
    let (r, p) ← { r with numbered := true }.refer? group
    some (r, p, rest)
  else none

/-- A reference by how many groups back the group was opened, and the character that closes it. -/
def referBack? (r : Reader) (close : Char) (t : Text) : Option (Reader × Regex × Text) := do
  let (back, rest) ← Text.takeNatBelow? sizeBound t
  match rest with
  | c :: rest =>
    if c = close ∧ 0 < back ∧ back ≤ r.groups then do
      let (r, p) ← r.refer? (r.groups + 1 - back)
      some (r, p, rest)
    else none
  | [] => none

def referNamed? (r : Reader) (close : Char) (t : Text) : Option (Reader × Regex × Text) := do
  let (name, rest) ← readName? close t
  let group ← match r.names.find? (·.1 == name) with
    | some (_, group) => some group
    | none => Text.toNat? name
  let (r, p) ← r.refer? group
  some (r, p, rest)

def asCondition : Regex → Regex
  | .backref group _ => .groupSet group
  | p => p

/-- A conditional group opens: `(?(1)…)`, `(?(<name>)…)` or `(?(…)…)`. -/
def openConditional (r : Reader) (t : Text) : Option (Reader × Text) := do
  let asked := match t with
    | '<' :: rest => some (r.referNamed? '>' rest)
    | '\'' :: rest => some (r.referNamed? '\'' rest)
    | c :: _ => if c.isDigit then some (r.referNumbered? t) else none
    | [] => none
  match asked with
  | none => some (← r.openGroup .condition r.flags, t)
  | some reference =>
    match ← reference with
    | (r, p, ')' :: rest) => some (← r.openGroup (.branches p) r.flags, rest)
    | _ => none

/-- Inline flags up to the bracket or colon that ends them; `negate` after a hyphen, `any` once some
flag, or a blank of the verbose mode, has been read. -/
def readFlags? (flags : Flags) (negate any : Bool) : Text → Option (Flags × Char × Text)
  | 'i' :: t => readFlags? { flags with anyCase := !negate } negate true t
  | 'm' :: t => readFlags? { flags with multiLine := !negate } negate true t
  | 's' :: t => readFlags? { flags with dotAll := !negate } negate true t
  | 'U' :: t => readFlags? { flags with swapGreed := !negate } negate true t
  | 'x' :: t => readFlags? { flags with verbose := !negate } negate true t
  | 'u' :: t => if negate then none else readFlags? flags negate true t
  | '-' :: t => if negate then none else readFlags? flags true any t
  | ')' :: t => if any then some (flags, ')', t) else none
  | ':' :: t => if negate && !any then none else some (flags, ':', t)
  | c :: t =>
    if flags.verbose && (c == ' ' || c == '\r' || c == '\n' || c == '\t') then
      readFlags? flags negate true t
    else none
  | [] => none

def openBracket? (r : Reader) (t : Text) : Option (Reader × Text) := do
  match ← r.skip? t with
  | '?' :: '=' :: t => some (← r.openGroup (.ahead true) r.flags, t)
  | '?' :: '!' :: t => some (← r.openGroup (.ahead false) r.flags, t)
  | '?' :: '<' :: '=' :: t => some (← r.openGroup (.behind true) r.flags, t)
  | '?' :: '<' :: '!' :: t => some (← r.openGroup (.behind false) r.flags, t)
  | '?' :: '<' :: t => r.settle.openNamed '>' t
  | '?' :: '\'' :: t => r.settle.openNamed '\'' t
  | '?' :: 'P' :: '<' :: t => r.settle.openNamed '>' t
  | '?' :: 'P' :: '=' :: t =>
    let (r, p, t) ← r.settle.referNamed? ')' t
    some (r.offer p, t)
  | '?' :: '>' :: t => some (← r.openGroup .atomic r.flags, t)
  | '?' :: '(' :: t => r.settle.openConditional t
  | '?' :: t =>
    let (flags, mark, t) ← readFlags? r.flags false false t
    if mark = ':' then some (← r.openGroup .plain flags, t)
    else some ({ r.offer .empty with flags }, t)
  | t => some (← r.openCapture, t)

/-- Names and bare numbers may not both refer to groups. -/
def referencesAgree (r : Reader) (g : OpenGroup) : Bool :=
  !g.finished.isEmpty || !r.numbered || r.names.isEmpty

/-- A conditional group between its branches. A reference without branches asks whether the group has
matched; any other condition needs something to choose. -/
def conditional? (condition : Regex) (g : OpenGroup) : Option Regex :=
  match g.alternatives with
  | [.empty] =>
    match condition with
    | .backref group _ => some (.groupSet group)
    | _ => none
  | yes :: no =>
    let no := match no with
      | [] => Regex.empty
      | p :: ps => .ofAlternatives p ps
    if yes = .empty ∧ no = .empty then some (asCondition condition)
    else some (.choose (asCondition condition) yes no)
  | [] => none

def closeBracket? (r : Reader) : Option Reader := do
  let r := r.settle
  match r.enclosing with
  | [] => none
  | outer :: enclosing =>
    let g := r.current
    if r.referencesAgree g then
      let back := { r with flags := g.outer, current := outer, enclosing }
      match g.kind with
      | .root => none
      | .plain => some (back.offer g.body)
      | .capture group => some (back.offer (.capture group g.body))
      | .ahead positive => some (back.offer (.ahead positive g.body))
      | .behind positive => some (back.offer (.behind positive g.body))
      | .atomic => some (back.offer (.atomic g.body))
      | .condition =>
        some { r with current := { kind := .branches g.body, outer := g.outer } }
      | .branches condition => some (back.offer (← conditional? condition g))
    else none

/-- A line break, of which the pair of carriage return and line feed is the first choice. -/
def lineBreak : Regex :=
  .atomic (.alt (.ofElements [.literal false '\r', .literal false '\n'])
    (.chars (.unions [.range '\n' '\r', .one '\u0085', .range '\u2028' '\u2029'])))

def readEscape? (r : Reader) (t : Text) : Option (Reader × Text) :=
  match t with
  | 'A' :: t => some (r.offer (.anchor .textStart), t)
  | 'z' :: t => some (r.offer (.anchor .textEnd), t)
  | 'Z' :: t =>
    let newLines := Regex.iterate 0 none true (.literal false '\n')
    some (r.offer (.ahead true (.ofElements [newLines, .anchor .textEnd])), t)
  | 'b' :: '\x7b' :: _ => none
  | 'b' :: t => some (r.offer (.anchor .wordBoundary), t)
  | 'B' :: t => some (r.offer (.anchor .notWordBoundary), t)
  | '<' :: t => some (r.offer (.anchor .wordStart), t)
  | '>' :: t => some (r.offer (.anchor .wordEnd), t)
  | 'K' :: t => some (r.offer .keepOut, t)
  | 'G' :: t => some (r.offer .searchStart, t)
  | 'N' :: t => some (r.offer (.chars (.compl (.one '\n'))), t)
  | 'R' :: t => some (r.offer lineBreak, t)
  | 'O' :: t => some (r.offer (.chars .anything), t)
  | 'k' :: '<' :: '-' :: t => (r.settle.referBack? '>' t).map fun (r, p, t) => (r.offer p, t)
  | 'k' :: '\'' :: '-' :: t => (r.settle.referBack? '\'' t).map fun (r, p, t) => (r.offer p, t)
  | 'k' :: '<' :: t => (r.settle.referNamed? '>' t).map fun (r, p, t) => (r.offer p, t)
  | 'k' :: '\'' :: t => (r.settle.referNamed? '\'' t).map fun (r, p, t) => (r.offer p, t)
  | c :: _ =>
    if c.isDigit then (r.settle.referNumbered? t).map fun (r, p, t) => (r.offer p, t)
    else match EscapeSequence.read? t with
      | some (.literal c, t) => some (r.offerLiteral c, t)
      | some (.members s, t) =>
        some (r.offer (.chars (if r.flags.anyCase then .anyCase s else s)), t)
      | none => none
  | [] => none

def step? (r : Reader) (c : Char) (t : Text) : Option (Reader × Text) :=
  match c with
  | '|' =>
    let r := r.settle
    let g := r.current
    some ({ r with current := { g with finished := g.branch :: g.finished, elements := [] } }, t)
  | ')' => r.closeBracket?.map (·, t)
  | '(' => r.openBracket? t
  | '?' => r.quantify? 0 (some 1) t
  | '*' => r.quantify? 0 none t
  | '+' => r.quantify? 1 none t
  | '\x7b' =>
    match r.atom, r.readBounds? t with
    | some _, some (lo, hi, t) => r.quantify? lo hi t
    | _, _ => some (r.offerLiteral c, t)
  | '.' =>
    some (r.offer (.chars (if r.flags.dotAll then .anything else .compl (.one '\n'))), t)
  | '^' => some (r.offer (.anchor (if r.flags.multiLine then .lineStart else .textStart)), t)
  | '$' => some (r.offer (.anchor (if r.flags.multiLine then .lineEnd else .textEnd)), t)
  | '[' =>
    (Bracket.read? r.flags.anyCase r.flags.verbose t).map fun (s, t) => (r.offer (.chars s), t)
  | '\\' => r.readEscape? t
  | c => some (r.offerLiteral c, t)

/-- Reads to the end of the pattern. The number `fuel` bounds the steps still to be made; every step
takes a character at least. -/
def run? : Nat → Reader → Text → Option Reader
  | 0, r, t => if t.isEmpty then some r else none
  | fuel + 1, r, t =>
    match r.skip? t with
    | none => none
    | some [] => some r
    | some (c :: rest) => (r.step? c rest).bind fun (r, rest) => run? fuel r rest

end Reader

structure Pattern where
  regex : Regex
  groups : Nat
  names : List (Text × Nat)
  references : List Nat
deriving DecidableEq, Repr

def Pattern.read? (t : Text) : Option Pattern := do
  let r ← Reader.run? (t.length + 1) (Reader.start (Text.byteLength t)) t
  let r := r.settle
  if r.enclosing.isEmpty && r.referencesAgree r.current then
    some ⟨r.current.body, r.groups, r.names, r.references⟩
  else none

end PatternLoom
