import PatternLoom.Text.Decimal
import PatternLoom.Text.Hexadecimal
import PatternLoom.Toml.Basic

/-!
# Writing TOML

A scalar on one line per key. A character that would need an escape is written between apostrophes
where that spares it, and a line end between three quotes.
-/

namespace PatternLoom.Toml

set_option autoImplicit false

def writeChar : Char → Text
  | '"' => ['\'', '"', '\'']
  | '\\' => ['\'', '\\', '\'']
  | '\n' => ['"', '"', '"', '\n', '\n', '"', '"', '"']
  | '\x08' => ['"', '\\', 'b', '"']
  | '\t' => ['"', '\\', 't', '"']
  | '\x0c' => ['"', '\\', 'f', '"']
  | '\r' => ['"', '\\', 'r', '"']
  | c =>
    if c.toNat < 0x20 ∨ c.toNat = 0x7F then
      ['"', '\\', 'u'] ++ (Text.hexQuad c.toNat).map Char.toUpper ++ ['"']
    else ['"', c, '"']

def writeLine (key value : Text) : Text := key ++ " = ".toList ++ value ++ ['\n']

def writeSize? (n : Nat) : Option Text := if n < Nat.pow 2 63 then some (Text.ofNat n) else none

end PatternLoom.Toml
