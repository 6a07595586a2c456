import PatternLoom.Error
import PatternLoom.Unicode.Alphanumeric
import PatternLoom.Unicode.Blank

/-!
# Configurations

An engine has a limit on backtracking steps, a cache size and a delimiter.
-/

namespace PatternLoom

set_option autoImplicit false

structure Config where
  backtrackLimit : Nat := 1000000
  /-- Compiled patterns that are kept; none when zero. -/
  cacheSize : Nat := 100
  delimiter : Char := '/'
deriving DecidableEq, Repr

namespace Config

/-- A delimiter is neither a letter nor a number, nor blank, nor the backslash. -/
def isValidDelimiter (c : Char) : Bool :=
  !(Unicode.isAlphanumeric c || Unicode.isBlank c || c == '\\')

def validate (config : Config) : Except PatternError Unit :=
  if isValidDelimiter config.delimiter then .ok ()
  else .error (.config (.badDelimiter config.delimiter))

end Config

end PatternLoom
