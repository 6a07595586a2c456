import PatternLoom.Text.Basic
import PatternLoom.Unicode.Blank

/-!
# Trimming

Blanks at either end of a text carry no meaning in a setting.
-/

namespace PatternLoom.Text

set_option autoImplicit false

def trim (t : Text) : Text :=
  ((t.dropWhile Unicode.isBlank).reverse.dropWhile Unicode.isBlank).reverse

end PatternLoom.Text
