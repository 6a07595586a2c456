import PatternLoom.Config.Text
import PatternLoom.Files

/-!
# Configuration files

A file is read in the format that its extension names.
-/

namespace PatternLoom.Config

set_option autoImplicit false

/-- The configuration in a file. The extension is looked at before the file is. -/
def load (tree : FileTree) (path : Text) : Except PatternError Config :=
  match Format.ofPath? path with
  | none => .error (.config (.unsupportedExtension path))
  | some format =>
    match tree.readText path with
    | .error fault => .error (.io ("reading engine config ".toList ++ path) fault)
    | .ok t => parse format t

end PatternLoom.Config
