import PatternLoom.Builder.Token

/-!
# Words

What a word of a pattern may be: anything, a given pattern, or one of several.
-/

namespace PatternLoom

set_option autoImplicit false

inductive Word where
  | any
  | text (t : Text)
  | oneOf (alternatives : List Text)
deriving DecidableEq, Repr

namespace Word

def alternation (alternatives : List Text) : Text :=
  ['('] ++ Text.joinWith ['|'] alternatives ++ [')']

/-- The fragment for one word; without text it is any word. -/
def fragment : Word → Text
  | .oneOf alternatives => alternation alternatives
  | .text [] => Token.anyWord.text
  | .text t => t
  | .any => Token.anyWord.text

/-- The fragment for a run of words; an empty text stays empty. -/
def runFragment : Word → Text
  | .oneOf alternatives => alternation alternatives
  | .text t => t
  | .any => Token.anyWords.text

end Word

end PatternLoom
