import PatternLoom.Config.Basic
import PatternLoom.Config.Format
import PatternLoom.Json.Reader
import PatternLoom.Json.Writer
import PatternLoom.Toml.Reader
import PatternLoom.Toml.Writer

/-!
# Configuration texts

A configuration is written with its three fields in order, and read back from a text in which each
may be missing and others may stand beside them. What is read is checked.
-/

namespace PatternLoom.Config

set_option autoImplicit false

def backtrackLimitKey : Text := "backtrack_limit".toList

def cacheSizeKey : Text := "cache_size".toList

def delimiterKey : Text := "delimiter".toList

/-! ## Reading -/

/-- The value of a field: what `read?` makes of the only entry with its key, or `preset` if there is
none. -/
def field? {α β : Type} (read? : α → Option β) (preset : β) (key : Text)
    (entries : List (Text × α)) : Option β :=
  match entries.filter (·.1 == key) with
  | [] => some preset
  | [(_, value)] => read? value
  | _ => none

def ofFields? {α : Type} (size? : α → Option Nat) (character? : α → Option Char)
    (entries : List (Text × α)) : Option Config := do
  let backtrackLimit ← field? size? ({} : Config).backtrackLimit backtrackLimitKey entries
  let cacheSize ← field? size? ({} : Config).cacheSize cacheSizeKey entries
  let delimiter ← field? character? ({} : Config).delimiter delimiterKey entries
  some { backtrackLimit, cacheSize, delimiter }

/-- The configuration that a JSON value describes: an object, or an array of up to three values in the
order of the fields. -/
def ofJson? : Json → Option Config
  | .object members => do
    let entries ← members.mapM fun (key, value) => (JsonUnit.text? key).map (·, value)
    ofFields? Json.size? Json.character? entries
  | .array items =>
    if items.length ≤ 3 then
      ofFields? Json.size? Json.character?
        ([backtrackLimitKey, cacheSizeKey, delimiterKey].zip items)
    else none
  | _ => none

def ofToml? (entries : Entries) : Option Config := ofFields? Toml.size? Toml.character? entries

def read (format : Format) (t : Text) : Except PatternError Config :=
  match format with
  | .toml =>
    match (Toml.read? t).bind ofToml? with
    | some config => .ok config
    | none => .error (.config .malformedToml)
  | .json =>
    match (Json.read? t).bind ofJson? with
    | some config => .ok config
    | none => .error (.config .malformedJson)

def parse (format : Format) (t : Text) : Except PatternError Config := do
  let config ← read format t
  config.validate
  return config

/-! ## Writing -/

def toJson (config : Config) : Json :=
  .object
    [(backtrackLimitKey.map .plain, .ofNat config.backtrackLimit),
      (cacheSizeKey.map .plain, .ofNat config.cacheSize),
      (delimiterKey.map .plain, .ofText [config.delimiter])]

def writeJson (config : Config) : Text := config.toJson.write

/-- The TOML text of a configuration, if its sizes fit into integers of the format. -/
def writeToml? (config : Config) : Option Text := do
  let limit ← Toml.writeSize? config.backtrackLimit
  let size ← Toml.writeSize? config.cacheSize
  some (Toml.writeLine backtrackLimitKey limit ++ Toml.writeLine cacheSizeKey size ++
    Toml.writeLine delimiterKey (Toml.writeChar config.delimiter))

end PatternLoom.Config
