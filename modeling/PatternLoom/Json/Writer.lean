import PatternLoom.Json.Basic

/-!
# Writing JSON

The compact form: no blanks, members in order, and in strings an escape only for quotes, backslashes
and control characters.
-/

namespace PatternLoom

set_option autoImplicit false

/-- A unit of a string as it is written. A control character has its short escape or its code. -/
def JsonUnit.write : JsonUnit → Text
  | .plain '"' => ['\\', '"']
  | .plain '\\' => ['\\', '\\']
  | .plain '\x08' => ['\\', 'b']
  | .plain '\x0c' => ['\\', 'f']
  | .plain '\n' => ['\\', 'n']
  | .plain '\r' => ['\\', 'r']
  | .plain '\t' => ['\\', 't']
  | .plain c => if c.toNat < 0x20 then ['\\', 'u'] ++ Text.hexQuad c.toNat else [c]
  | .code unit => ['\\', 'u'] ++ Text.hexQuad unit

namespace Json

def writeUnits (units : List JsonUnit) : Text := ['"'] ++ units.flatMap JsonUnit.write ++ ['"']

mutual

def write : Json → Text
  | .null => "null".toList
  | .boolean b => if b then "true".toList else "false".toList
  | .number numeral => numeral
  | .string units => writeUnits units
  | .array items => ['['] ++ writeItems items ++ [']']
  | .object members => ['\x7b'] ++ writeMembers members ++ ['\x7d']

def writeItems : List Json → Text
  | [] => []
  | [item] => write item
  | item :: items => write item ++ [','] ++ writeItems items

def writeMembers : List (List JsonUnit × Json) → Text
  | [] => []
  | [(key, value)] => writeUnits key ++ [':'] ++ write value
  | (key, value) :: members =>
    writeUnits key ++ [':'] ++ write value ++ [','] ++ writeMembers members

end

end Json

end PatternLoom
