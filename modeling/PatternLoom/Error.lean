import PatternLoom.Text.Decimal
import PatternLoom.Text.Quoted

/-!
# Errors

Building fragments and escaping never fail. What can fail is a modifier that needs more than the
builder has, a pattern that is ill-formed or too hard to match, and the loading of a configuration.
Every error is a cause; `message` is its wording.
-/

namespace PatternLoom

set_option autoImplicit false

inductive Modifier where
  | capture
  | optional
deriving DecidableEq, Repr

def Modifier.name : Modifier → String
  | .capture => "capture"
  | .optional => "optional"

inductive ConfigFault where
  | unsupportedExtension (path : Text)
  | malformedToml
  | malformedJson
  | badDelimiter (c : Char)
  | other (description : Text)
deriving DecidableEq, Repr

inductive FileFault where
  | notFound
  | isDirectory
  | notDirectory
  | notUtf8
  | nameTooLong
  | badPath
  | other (description : Text)
deriving DecidableEq, Repr

inductive PatternError where
  | malformed (pattern : Text)
  | exhausted (pattern : Text)
  | precedingFragmentRequired (operation : Modifier)
  /-- A span to be made optional starts after the end of a pattern of `size` characters. -/
  | indexOutOfRange (start length size : Nat)
  | config (fault : ConfigFault)
  | io (context : Text) (fault : FileFault)
deriving DecidableEq, Repr

/-- The words for what a reader of patterns or of configuration texts found wrong. -/
structure Reasons where
  pattern : String := "the pattern is ill-formed"
  configuration : String := "the text is ill-formed"

namespace PatternError

def shownLength : Nat := 200

def snippet (pattern : Text) : String :=
  if pattern.isEmpty then "(empty pattern)"
  else if pattern.length ≤ shownLength then "'" ++ String.ofList pattern ++ "'"
  else
    "'" ++ String.ofList (pattern.take shownLength) ++ "' ... (" ++
      String.ofList (Text.ofNat (pattern.length - shownLength)) ++ " more characters)"

def number (n : Nat) : String := String.ofList (Text.ofNat n)

def configMessage (reasons : Reasons) : ConfigFault → String
  | .unsupportedExtension path =>
    "unsupported configuration file extension: " ++ String.ofList path
  | .malformedToml => "invalid TOML: " ++ reasons.configuration
  | .malformedJson => "invalid JSON: " ++ reasons.configuration
  | .badDelimiter c =>
    "delimiter " ++ String.ofList (Text.quotedChar c) ++
      " must not be alphanumeric, whitespace or a backslash"
  | .other description => String.ofList description

def fileMessage : FileFault → String
  | .notFound => "No such file or directory (os error 2)"
  | .isDirectory => "Is a directory (os error 21)"
  | .notDirectory => "Not a directory (os error 20)"
  | .notUtf8 => "stream did not contain valid UTF-8"
  | .nameTooLong => "File name too long (os error 36)"
  | .badPath => "file name contained an unexpected NUL byte"
  | .other description => String.ofList description

def message (reasons : Reasons) : PatternError → String
  | .malformed pattern =>
    "invalid pattern syntax: " ++ reasons.pattern ++ "\n\nPattern: " ++ snippet pattern ++
      "\n\nTip: raw fragments are appended verbatim. Check that:\n" ++
      "- every start_capture() has a matching end_capture()\n" ++
      "- literal text goes through symbols() so meta-characters are escaped\n" ++
      "- look-behind bodies have a bounded length"
  | .exhausted pattern =>
    "pattern execution failed for " ++ snippet pattern ++
      ": Error executing regex: Max limit for backtracking count exceeded"
  | .precedingFragmentRequired operation =>
    operation.name ++ "() requires a preceding fragment, but the pattern is empty"
  | .indexOutOfRange start length size =>
    "substring start " ++ number start ++ " (length " ++ number length ++ ") is outside the " ++
      number size ++ "-character pattern"
  | .config fault => "configuration error: " ++ configMessage reasons fault
  | .io context fault => String.ofList context ++ ": " ++ fileMessage fault

def isMalformed : PatternError → Bool
  | .malformed _ => true
  | _ => false

def isUsage : PatternError → Bool
  | .precedingFragmentRequired _ | .indexOutOfRange .. => true
  | _ => false

def pattern? : PatternError → Option Text
  | .malformed pattern | .exhausted pattern => some pattern
  | _ => none

/-- Another error, of the matcher or of the file system, is the cause of this one. -/
def hasCause : PatternError → Bool
  | .malformed _ | .exhausted _ | .io .. => true
  | _ => false

end PatternError

end PatternLoom
