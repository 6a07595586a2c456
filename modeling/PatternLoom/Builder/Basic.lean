import PatternLoom.Builder.Optional
import PatternLoom.Builder.Word
import PatternLoom.Event
import PatternLoom.Text.Escape

/-!
# Builders

A builder is a stack of fragments; the bare pattern is their concatenation. Producers append one
fragment. Modifiers change the last fragment, or exchange all of them for a single one. Programs of
builder steps are data, so that a sub-pattern can be given by a program of its own, which is run on a
fresh builder.
-/

namespace PatternLoom

set_option autoImplicit false

structure Builder where
  fragments : List Text := []
deriving DecidableEq, Repr

mutual

inductive Step where
  | raw (pattern : Text)
  /-- A text appended so that it matches itself. -/
  | symbols (t : Text)
  | token (k : Token)
  | count (bounds : List Nat)
  /-- Two ends of a range, meant for a class. -/
  | range (start stop : Text)
  | word (w : Word)
  | words (w : Word)
  /-- One character of a class. -/
  | group (body : SubPattern)
  /-- What follows must be preceded by a pattern. -/
  | behind (pattern : SubPattern)
  /-- What precedes must be followed by a pattern. -/
  | after (pattern : SubPattern)
  | captureWith (pattern : SubPattern)
  | capture
  /-- The last fragment gets a question mark. -/
  | optional
  | optionalSymbols (key : SubPattern)
  | optionalSubstring (start length : Nat)
  | release

inductive SubPattern where
  | literal (t : Text)
  /-- A callback: a program for a fresh builder, with the result it returns instead of the bare
  pattern, if any. -/
  | callback (program : List Step) (result : Option Text)
  | built (program : List Step)

end

/-- What a run leaves behind besides its result: the errors of the steps that failed inside
sub-patterns, and the events, both in order. -/
structure Trail where
  errors : List PatternError := []
  events : List Event := []
deriving DecidableEq, Repr

def Trail.append (a b : Trail) : Trail := ⟨a.errors ++ b.errors, a.events ++ b.events⟩

namespace Builder

def new : Builder := {}

def bare (b : Builder) : Text := b.fragments.flatten

def size (b : Builder) : Nat := b.fragments.length

def isEmpty (b : Builder) : Bool := b.fragments.isEmpty

def push (b : Builder) (fragment : Text) : Builder := ⟨b.fragments ++ [fragment]⟩

def collapse (pattern : Text) : Builder := ⟨[pattern]⟩

def modifyLast? (b : Builder) (f : Text → Text) : Option (Builder × Text × Text) :=
  match b.fragments.getLast? with
  | none => none
  | some fragment => some (⟨b.fragments.dropLast ++ [f fragment]⟩, fragment, f fragment)

@[simp] theorem bare_new : new.bare = [] := rfl

@[simp] theorem bare_push (b : Builder) (fragment : Text) :
    (b.push fragment).bare = b.bare ++ fragment := by
  simp [bare, push]

@[simp] theorem bare_collapse (pattern : Text) : (collapse pattern).bare = pattern := by
  simp [bare, collapse]

@[simp] theorem size_push (b : Builder) (fragment : Text) :
    (b.push fragment).size = b.size + 1 := by
  simp [size, push]

end Builder

/-- What a step does: the builder it leaves, its own error, and its trail. A step that fails leaves
the builder as it was. -/
structure StepResult where
  builder : Builder
  error : Option PatternError := none
  trail : Trail := {}
deriving DecidableEq, Repr

namespace StepResult

/-- The trail with the error of the step itself, as seen by an enclosing program. -/
def collected (r : StepResult) : Trail :=
  r.trail.append ⟨r.error.toList, []⟩

end StepResult

def fieldText (t : Text) : String := String.ofList t

mutual

def Step.run (b : Builder) : Step → StepResult
  | .raw pattern => { builder := b.push pattern }
  | .symbols t => { builder := b.push (Text.escapeLiteral t) }
  | .token k => { builder := b.push k.text }
  | .count bounds =>
    { builder := b.push
        (['\x7b'] ++ Text.joinWith [','] (bounds.map Text.ofNat) ++ ['\x7d']) }
  | .range start stop => { builder := b.push (start ++ ['-'] ++ stop) }
  | .word w => { builder := b.push w.fragment }
  | .words w => { builder := b.push w.runFragment }
  | .group body =>
    let (t, trail) := body.evaluate
    { builder := b.push (['['] ++ Text.escapeClass t ++ [']']), trail }
  | .behind pattern =>
    let (t, trail) := pattern.evaluate
    { builder := b.push (['(', '?', '<', '='] ++ t ++ [')']), trail }
  | .after pattern =>
    let (t, trail) := pattern.evaluate
    { builder := b.push (['(', '?', '='] ++ t ++ [')']), trail }
  | .captureWith pattern =>
    let (t, trail) := pattern.evaluate
    { builder := b.push (['('] ++ t ++ [')']), trail }
  | .capture =>
    match b.modifyLast? fun fragment => ['('] ++ fragment ++ [')'] with
    | none => { builder := b, error := some (.precedingFragmentRequired .capture) }
    | some (b, old, _) =>
      { builder := b,
        trail := ⟨[], [⟨.trace, "capturing last fragment", [("fragment", fieldText old)]⟩]⟩ }
  | .optional =>
    match b.modifyLast? fun fragment => fragment ++ ['?'] with
    | none => { builder := b, error := some (.precedingFragmentRequired .optional) }
    | some (b, _, fresh) =>
      { builder := b,
        trail := ⟨[], [⟨.trace, "made last fragment optional",
          [("fragment", fieldText fresh)]⟩]⟩ }
  | .optionalSymbols key =>
    let (t, trail) := key.evaluate
    let pattern := Optional.occurrencesIn b.bare t
    let event : Event := ⟨.trace, "made symbols optional",
      [("token", fieldText t), ("pattern", fieldText pattern)]⟩
    { builder := .collapse pattern, trail := trail.append ⟨[], [event]⟩ }
  | .optionalSubstring start length =>
    match Optional.spanIn b.bare start length with
    | .error e => { builder := b, error := some e }
    | .ok pattern =>
      let event : Event := ⟨.trace, "made substring optional",
        [("start", fieldText (Text.ofNat start)), ("length", fieldText (Text.ofNat length)),
          ("pattern", fieldText pattern)]⟩
      { builder := .collapse pattern, trail := ⟨[], [event]⟩ }
  | .release =>
    { builder := .new,
      trail := ⟨[], [⟨.trace, "releasing pattern",
        [("fragments", fieldText (Text.ofNat b.size))]⟩]⟩ }

def SubPattern.evaluate : SubPattern → Text × Trail
  | .literal t => (t, {})
  | .callback program result =>
    let (b, trail) := runProgram .new program
    (result.getD b.bare, trail)
  | .built program =>
    let (b, trail) := runProgram .new program
    (b.bare, trail)

/-- Runs the steps of a program one after the other. A step that fails does not stop the program. -/
def runProgram (b : Builder) : List Step → Builder × Trail
  | [] => (b, {})
  | step :: rest =>
    let r := step.run b
    let (b, trail) := runProgram r.builder rest
    (b, r.collected.append trail)

end

namespace SubPattern

def isCallback : SubPattern → Bool
  | .callback .. => true
  | .literal _ | .built _ => false

/-- The form of a sub-pattern in diagnostics: a callback shows nothing of its inside. -/
def describe (p : SubPattern) : Text :=
  if p.isCallback then "Builder(<fn>)".toList
  else "Literal(".toList ++ Text.quoted p.evaluate.1 ++ [')']

end SubPattern

end PatternLoom
