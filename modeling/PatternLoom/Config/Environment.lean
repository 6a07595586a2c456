import PatternLoom.Config.Basic
import PatternLoom.Event
import PatternLoom.Text.Decimal
import PatternLoom.Text.Trim
import PatternLoom.Unicode.UpperCase

/-!
# Settings from the environment

A reader of environment variables puts its scope in front of upper-cased names, and lets overrides
take precedence over the environment of the process.
-/

namespace PatternLoom

set_option autoImplicit false

abbrev Environment := List (Text × Text)

structure Settings where
  /-- What stands in front of every variable name, separated by an underscore unless empty. -/
  scope : Text
  /-- Values that hide those of the environment, by full variable name, the latest first. -/
  overrides : List (Text × Text) := []
  environment : Environment := []
deriving DecidableEq, Repr

namespace Settings

def defaultScope : Text := "REGEX_BUILDER".toList

def upper (name : Text) : Text := name.flatMap Unicode.upperCase

def variableName (s : Settings) (name : Text) : Text :=
  if s.scope.isEmpty then upper name else s.scope ++ ['_'] ++ upper name

def override (s : Settings) (name value : Text) : Settings :=
  { s with overrides := (s.variableName name, value) :: s.overrides }

def get? (s : Settings) (name : Text) : Option Text :=
  let key := s.variableName name
  (s.overrides.lookup key).or (s.environment.lookup key)

def isSet (s : Settings) (name : Text) : Bool := (s.get? name).isSome

/-- A size: a decimal numeral below `2 ^ 64`, with an optional plus sign. -/
def readSize? (t : Text) : Option Nat := Text.toNatBelow? (Nat.pow 2 64) t

/-- An integer between `-2 ^ 63` and `2 ^ 63 - 1`, with an optional sign. -/
def readInteger? : Text → Option Int
  | '-' :: t =>
    match Text.toNat? t with
    | some n => if n ≤ Nat.pow 2 63 then some (-(n : Int)) else none
    | none => none
  | t => (Text.toNatBelow? (Nat.pow 2 63) t).map fun n => (n : Int)

def readChar? : Text → Option Char
  | [c] => some c
  | _ => none

def readBool? (t : Text) : Option Bool :=
  if t = "true".toList then some true
  else if t = "false".toList then some false
  else none

/-- The value of a variable, without blanks around it, as `read?` understands it. -/
def parse? {α : Type} (s : Settings) (name : Text) (read? : Text → Option α) : Option α :=
  (s.get? name).bind fun value => read? (Text.trim value)

end Settings

namespace Config

def backtrackLimitName : Text := "BACKTRACK_LIMIT".toList

def cacheSizeName : Text := "CACHE_SIZE".toList

def delimiterName : Text := "DELIMITER".toList

def unparsable (s : Settings) (name : Text) : Event :=
  ⟨.warn, "ignoring unparsable value", [("var", String.ofList (s.variableName name))]⟩

/-- The value of a variable, with a warning if it has one that cannot be read. -/
def readSetting {α : Type} (s : Settings) (name : Text) (read? : Text → Option α) :
    Option α × List Event :=
  match s.parse? name read? with
  | some a => (some a, [])
  | none => (none, if s.isSet name then [unparsable s name] else [])

def readDelimiter (s : Settings) : Option Char × List Event :=
  match readSetting s delimiterName Settings.readChar? with
  | (some c, events) =>
    if isValidDelimiter c then (some c, events)
    else (none, events ++ [⟨.warn, "ignoring invalid delimiter",
      [("var", String.ofList (s.variableName delimiterName)), ("delimiter", c.toString)]⟩])
  | (none, events) => (none, events)

/-- A configuration with the values that the environment sets. A value that cannot be used is reported
and leaves the field as it was. -/
def withSettings (config : Config) (s : Settings) : Config × List Event :=
  let (limit, e₁) := readSetting s backtrackLimitName Settings.readSize?
  let (size, e₂) := readSetting s cacheSizeName Settings.readSize?
  let (delimiter, e₃) := readDelimiter s
  ({ backtrackLimit := limit.getD config.backtrackLimit
     cacheSize := size.getD config.cacheSize
     delimiter := delimiter.getD config.delimiter }, e₁ ++ e₂ ++ e₃)

def ofEnvironment (environment : Environment) : Config × List Event :=
  withSettings {} { scope := Settings.defaultScope, environment }

end Config

end PatternLoom
