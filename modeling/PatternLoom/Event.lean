/-!
# Events

What the library reports while it works, for whoever listens.
-/

namespace PatternLoom

set_option autoImplicit false

inductive Level where
  | trace
  | debug
  | warn
deriving DecidableEq, Repr

/-- An event: its importance, what happened, and the values involved, by name. -/
structure Event where
  level : Level
  message : String
  fields : List (String × String)
deriving DecidableEq, Repr

end PatternLoom
