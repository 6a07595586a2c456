import PatternLoom.Text.Basic

/-!
# Tokens

The fragments with a fixed text.
-/

namespace PatternLoom

set_option autoImplicit false

inductive Token where
  | digit
  | notDigit
  | whitespace
  | notWhitespace
  | char
  | notChar
  | hexDigit
  | octalDigit
  | newLine
  | carriageReturn
  | tab
  | verticalTab
  | formFeed
  | space
  | any
  | oneOrMore
  | zeroOrMore
  | anyWord
  | notWord
  | anyWords
  | startCapture
  | endCapture
deriving DecidableEq, Repr

def Token.text : Token → Text
  | .digit => ['\\', 'd']
  | .notDigit => ['\\', 'D']
  | .whitespace => ['\\', 's']
  | .notWhitespace => ['\\', 'S']
  | .char => ['\\', 'w']
  | .notChar => ['\\', 'W']
  | .hexDigit => ['[', '0', '-', '9', 'A', '-', 'F', 'a', '-', 'f', ']']
  | .octalDigit => ['[', '0', '-', '7', ']']
  | .newLine => ['\\', 'n']
  | .carriageReturn => ['\\', 'r']
  | .tab => ['\\', 't']
  | .verticalTab => ['\\', 'x', '0', 'B']
  | .formFeed => ['\\', 'x', '0', 'C']
  | .space => [' ']
  | .any => ['.']
  | .oneOrMore => ['+']
  | .zeroOrMore => ['*']
  | .anyWord => ['\\', 'w', '+']
  | .notWord => ['\\', 'W', '+']
  | .anyWords => ['[', '\\', 's', '\\', 'w', ']', '+', '?']
  | .startCapture => ['(']
  | .endCapture => [')']

end PatternLoom
