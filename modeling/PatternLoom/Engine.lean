import PatternLoom.Builder.Basic
import PatternLoom.Cache
import PatternLoom.Config.Basic
import PatternLoom.Pattern.Template

/-!
# Engines

An engine compiles bare patterns, keeps them in its cache and runs them against subjects.
-/

namespace PatternLoom

set_option autoImplicit false

structure Engine where
  config : Config
  cache : Cache Program

inductive Outcome (β : Type) where
  | ok (b : β)
  | error (err : PatternError)
  /-- The request breaks off at a slice of a text that does not exist. -/
  | panicked
  /-- The request is never answered. -/
  | endless
deriving DecidableEq, Repr

namespace Outcome

variable {α β : Type}

def ofExcept : Except PatternError β → Outcome β
  | .ok b => .ok b
  | .error err => .error err

/-- What a search comes to, when it is abandoned after too many steps for its pattern or not. -/
def ofSearch (pattern : Text) : Option β → Outcome β
  | some b => .ok b
  | none => .error (.exhausted pattern)

def bind (x : Outcome α) (f : α → Outcome β) : Outcome β :=
  match x with
  | .ok a => f a
  | .error err => .error err
  | .panicked => .panicked
  | .endless => .endless

def map (f : α → β) (x : Outcome α) : Outcome β := x.bind fun a => .ok (f a)

/-- Events report on values only. -/
def events (report : β → List Event) : Outcome β → List Event
  | .ok b => report b
  | _ => []

variable {x : Outcome α} {f : α → β} {b : β} {err : PatternError} {pattern : Text}

theorem map_bind {γ : Type} (x : Outcome α) (f : α → β) (g : β → Outcome γ) :
    (x.map f).bind g = x.bind fun a => g (f a) := by
  cases x <;> rfl

theorem map_eq_ok_iff : x.map f = .ok b ↔ ∃ a, x = .ok a ∧ f a = b := by
  cases x <;> simp [map, bind]

theorem map_eq_error_iff : x.map f = .error err ↔ x = .error err := by
  cases x <;> simp [map, bind]

theorem map_eq_endless_iff : x.map f = .endless ↔ x = .endless := by
  cases x <;> simp [map, bind]

theorem ofSearch_eq_ok_iff {found : Option β} : ofSearch pattern found = .ok b ↔ found = some b := by
  cases found <;> simp [ofSearch]

theorem ofSearch_eq_error_iff {found : Option β} :
    ofSearch pattern found = .error err ↔ found = none ∧ err = .exhausted pattern := by
  cases found <;> simp [ofSearch, eq_comm]

end Outcome

/-- What a search for all matches of a pattern comes to, when `b` is made of the matches. -/
def Program.Ending.conclude {β : Type} (pattern : Text) (b : β) : Ending → Outcome β
  | .complete => .ok b
  | .exhausted => .error (.exhausted pattern)
  | .endless => .endless

namespace Program.Ending

variable {β : Type} {pattern : Text} {b b' : β} {err : PatternError} {ending : Ending}

theorem conclude_eq_ok_iff : ending.conclude pattern b = .ok b' ↔ ending = .complete ∧ b = b' := by
  cases ending <;> simp [conclude]

theorem conclude_eq_error_iff :
    ending.conclude pattern b = .error err ↔ ending = .exhausted ∧ err = .exhausted pattern := by
  cases ending <;> simp [conclude, eq_comm]

theorem conclude_eq_endless_iff : ending.conclude pattern b = .endless ↔ ending = .endless := by
  cases ending <;> simp [conclude]

end Program.Ending

structure EngineRun (β : Type) where
  result : Outcome β
  engine : Engine
  events : List Event := []

namespace Engine

def new (config : Config) : Engine := ⟨config, .new config.cacheSize⟩

def delimit (e : Engine) (pattern : Text) : Text :=
  [e.config.delimiter] ++ pattern ++ [e.config.delimiter]

def compileAnew (pattern : Text) (c : Cache Program) : CacheRun Program Program :=
  match Program.compile? pattern with
  | some g => { result := .ok g, cache := c }
  | none => { result := .error (.malformed pattern), cache := c }

def compile (e : Engine) (pattern : Text) : EngineRun (Compiled Program) :=
  let run := e.cache.getOrCompile pattern (compileAnew pattern)
  { result := .ofExcept run.result, engine := { e with cache := run.cache }, events := run.events }

def noEvents {β : Type} (_ : β) : List Event := []

def execute {β : Type} (e : Engine) (pattern : Text) (report : β → List Event)
    (run : Nat → Program → Outcome β) : EngineRun β :=
  let compiled := e.compile pattern
  let result := compiled.result.bind fun g => run e.config.backtrackLimit g.value
  { result, engine := compiled.engine, events := compiled.events ++ result.events report }

def isMatch (e : Engine) (pattern subject : Text) : EngineRun Bool :=
  e.execute pattern noEvents fun limit g =>
    .ofSearch pattern ((g.find? limit subject).map Option.isSome)

def findFirst (e : Engine) (pattern subject : Text) : EngineRun (Option Captures) :=
  e.execute pattern noEvents fun limit g =>
    .ofSearch pattern
      ((g.find? limit subject).map fun found => found.bind (Captures.ofFound? g subject))

def allCaptures (pattern subject : Text) (limit : Nat) (g : Program) : Outcome (List Captures) :=
  let findings := g.findAll limit subject
  findings.ending.conclude pattern (findings.found.filterMap (Captures.ofFound? g subject))

def findAll (e : Engine) (pattern subject : Text) : EngineRun (List Captures) :=
  e.execute pattern
    (fun all => [⟨.trace, "collected matches",
      [("pattern", fieldText pattern), ("matches", fieldText (Text.ofNat all.length))]⟩])
    (allCaptures pattern subject)

/-- A match that has been found, as a replacement needs it: its span in characters and its captures. -/
def spanned? (g : Program) (subject : Text) (found : Program.Found) :
    Option (Nat × Nat × Captures) := do
  let (start, stop) ← found.span? 0
  let caps ← Captures.ofFound? g subject found
  some (start, stop, caps)

/-- A subject with the spans of some matches exchanged for what a template makes of them; `position` is
where the rest of the subject begins. A match that begins before leaves no text to be kept in front of
it, and not even an empty one: there is no such slice. -/
def splice? (template : Text) (position : Nat) (rest : Text) :
    List (Nat × Nat × Captures) → Option Text
  | [] => some rest
  | (start, stop, caps) :: more =>
    if start < position then none
    else
      (splice? template stop (rest.drop (stop - position)) more).map fun spliced =>
        rest.take (start - position) ++ Template.expand template caps ++ spliced

/-- A subject with every match of a program replaced. The matches are replaced as they are found, so a
missing slice is met before the end of the search. -/
def replaced (pattern template subject : Text) (limit : Nat) (g : Program) : Outcome Text :=
  let findings := g.findAll limit subject
  match splice? template 0 subject (findings.found.filterMap (spanned? g subject)) with
  | some t => findings.ending.conclude pattern t
  | none => .panicked

def replace (e : Engine) (pattern template subject : Text) : EngineRun Text :=
  e.execute pattern noEvents (replaced pattern template subject)

end Engine

namespace Builder

def compile (b : Builder) (e : Engine) : EngineRun (Compiled Program) := e.compile b.bare

def isMatch (b : Builder) (e : Engine) (subject : Text) : EngineRun Bool := e.isMatch b.bare subject

def captures (b : Builder) (e : Engine) (subject : Text) : EngineRun (Option Captures) :=
  e.findFirst b.bare subject

def capturesAll (b : Builder) (e : Engine) (subject : Text) : EngineRun (List Captures) :=
  e.findAll b.bare subject

def findAllTexts (b : Builder) (e : Engine) (subject : Text) : EngineRun (List Text) :=
  let run := e.findAll b.bare subject
  { run with result := run.result.map fun all => all.map (·.whole.text) }

def findText (b : Builder) (e : Engine) (subject : Text) : EngineRun (Option Text) :=
  let run := e.findFirst b.bare subject
  { run with result := run.result.map fun caps => caps.map (·.whole.text) }

def replace (b : Builder) (e : Engine) (template subject : Text) : EngineRun Text :=
  e.replace b.bare template subject

end Builder

end PatternLoom
