import PatternLoom.Text.Basic

/-!
# Formats of configuration files

The extension of a path tells the format of a file.
-/

namespace PatternLoom

set_option autoImplicit false

inductive Format where
  | toml
  | json
deriving DecidableEq, Repr

namespace Format

/-- The format of an extension. Its letters may have either case; no character outside of ASCII has
one of these letters as its lower case. -/
def ofExtension? (extension : Text) : Option Format :=
  match extension.map Char.toLower with
  | ['t', 'o', 'm', 'l'] => some .toml
  | ['j', 's', 'o', 'n'] => some .json
  | _ => none

/-- The components of a path: what stands between slashes, without empty parts, and without the dots
that stand for the directory itself, which only count at the front of a relative path. -/
def components (path : Text) : List Text :=
  ((path.splitBy fun a b => a != '/' && b != '/').filter (· != ['/'])).filter (· != ['.'])

/-- The last component of a path, unless it stands for a directory above. -/
def fileName? (path : Text) : Option Text :=
  match (components path).getLast? with
  | some ['.', '.'] => none
  | name => name

/-- What follows the last dot of a file name, if something stands before that dot. -/
def extension? (path : Text) : Option Text := do
  let name ← fileName? path
  let extension := (name.reverse.takeWhile (· != '.')).reverse
  match name.take (name.length - extension.length) with
  | [] => none
  | ['.'] => none
  | _ => some extension

def ofPath? (path : Text) : Option Format := (extension? path).bind ofExtension?

end Format

end PatternLoom
