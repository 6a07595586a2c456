import PatternLoom.Error
import PatternLoom.Text.Occurrence

/-!
# Optional parts

Parts of a finished pattern text become optional. Offsets and lengths count characters.
-/

namespace PatternLoom.Optional

set_option autoImplicit false

def group (pattern : Text) : Text :=
  ['(', '?', ':'] ++ pattern ++ [')', '?']

/-- Every occurrence of `key` in a pattern made optional. An empty key occurs nowhere. -/
def occurrencesIn (pattern key : Text) : Text :=
  Text.replaceAll key (group key) pattern

/-- The `length` characters from `start` on made optional; a span that reaches past the end becomes
the rest of the pattern, and one that starts after the end is an error. -/
def spanIn (pattern : Text) (start length : Nat) : Except PatternError Text :=
  if start ≤ pattern.length then
    .ok (pattern.take start ++ group ((pattern.drop start).take length) ++
      pattern.drop (start + length))
  else .error (.indexOutOfRange start length pattern.length)

end PatternLoom.Optional
