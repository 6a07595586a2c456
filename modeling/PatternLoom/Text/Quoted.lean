import PatternLoom.Text.Hexadecimal
import PatternLoom.Unicode.Visible

/-!
# Quoted forms

A message shows a character or a text between quotes, with an escape for everything that would not
show: the usual short escapes, and `\u{…}` with lower-case hexadecimal digits for the rest.
-/

namespace PatternLoom.Text

set_option autoImplicit false

def quoteChar (quote c : Char) : Text :=
  if c = '\x00' then ['\\', '0']
  else if c = '\t' then ['\\', 't']
  else if c = '\r' then ['\\', 'r']
  else if c = '\n' then ['\\', 'n']
  else if c = '\\' ∨ c = quote then ['\\', c]
  else if Unicode.isVisible c && !Unicode.isExtender c then [c]
  else ['\\', 'u', '\x7b'] ++ hexadecimal c.toNat ++ ['\x7d']

def quotedChar (c : Char) : Text :=
  ['\''] ++ quoteChar '\'' c ++ ['\'']

def quoted (t : Text) : Text :=
  ['"'] ++ t.flatMap (quoteChar '"') ++ ['"']

end PatternLoom.Text
