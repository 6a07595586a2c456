import PatternLoom.Pattern.CharClass
import PatternLoom.Text.Basic

/-!
# Named classes

Names of Unicode general categories, as in `\p{Lu}`, and of the ASCII classes, as in `[:alpha:]`.
-/

namespace PatternLoom.CharClass

set_option autoImplicit false

/-- Letter case, spaces, hyphens and underscores of a property name carry no meaning. -/
def normalizeName (name : Text) : String :=
  String.ofList ((name.filter fun c => c != ' ' && c != '-' && c != '_').map Char.toLower)

def categoriesOfName (name : String) : List Unicode.Category :=
  match name with
  | "lu" | "uppercaseletter" => [.lu]
  | "ll" | "lowercaseletter" => [.ll]
  | "lt" | "titlecaseletter" => [.lt]
  | "lm" | "modifierletter" => [.lm]
  | "lo" | "otherletter" => [.lo]
  | "lc" | "casedletter" => [.lu, .ll, .lt]
  | "l" | "letter" => [.lu, .ll, .lt, .lm, .lo]
  | "mn" | "nonspacingmark" => [.mn]
  | "mc" | "spacingmark" => [.mc]
  | "me" | "enclosingmark" => [.me]
  | "m" | "mark" | "combiningmark" => [.mn, .mc, .me]
  | "nd" | "decimalnumber" | "digit" => [.nd]
  | "nl" | "letternumber" => [.nl]
  | "no" | "othernumber" => [.no]
  | "n" | "number" => [.nd, .nl, .no]
  | "pc" | "connectorpunctuation" => [.pc]
  | "pd" | "dashpunctuation" => [.pd]
  | "ps" | "openpunctuation" => [.ps]
  | "pe" | "closepunctuation" => [.pe]
  | "pi" | "initialpunctuation" => [.pi]
  | "pf" | "finalpunctuation" => [.pf]
  | "po" | "otherpunctuation" => [.po]
  | "p" | "punct" | "punctuation" => [.pc, .pd, .ps, .pe, .pi, .pf, .po]
  | "sm" | "mathsymbol" => [.sm]
  | "sc" | "currencysymbol" => [.sc]
  | "sk" | "modifiersymbol" => [.sk]
  | "so" | "othersymbol" => [.so]
  | "s" | "symbol" => [.sm, .sc, .sk, .so]
  | "zs" | "spaceseparator" => [.zs]
  | "zl" | "lineseparator" => [.zl]
  | "zp" | "paragraphseparator" => [.zp]
  | "z" | "separator" => [.zs, .zl, .zp]
  | "cc" | "control" | "cntrl" => [.cc]
  | "cf" | "format" => [.cf]
  | "cs" | "surrogate" => [.cs]
  | "co" | "privateuse" => [.co]
  | "cn" | "unassigned" => [.cn]
  | "c" | "other" => [.cc, .cf, .cs, .co, .cn]
  | _ => []

def ofPropertyName? (name : Text) : Option CharClass :=
  match normalizeName name with
  | "any" => some .anything
  | "ascii" => some (.range '\x00' '\x7f')
  | "assigned" => some (.compl (.category .cn))
  | "whitespace" | "wspace" | "space" => some .blank
  | key =>
    match categoriesOfName key with
    | [] => none
    | categories => some (unions (categories.map .category))

def ofAsciiName? (name : Text) : Option CharClass :=
  match String.ofList name with
  | "alnum" => some (unions [.range '0' '9', .range 'A' 'Z', .range 'a' 'z'])
  | "alpha" => some (unions [.range 'A' 'Z', .range 'a' 'z'])
  | "ascii" => some (.range '\x00' '\x7f')
  | "blank" => some (unions [one '\t', one ' '])
  | "cntrl" => some (unions [.range '\x00' '\x1f', one '\x7f'])
  | "digit" => some (.range '0' '9')
  | "graph" => some (.range '!' '~')
  | "lower" => some (.range 'a' 'z')
  | "print" => some (.range ' ' '~')
  | "punct" => some (unions [.range '!' '/', .range ':' '@', .range '[' '\x60', .range '\x7b' '~'])
  | "space" => some (unions [.range '\t' '\r', one ' '])
  | "upper" => some (.range 'A' 'Z')
  | "word" => some (unions [.range '0' '9', .range 'A' 'Z', one '_', .range 'a' 'z'])
  | "xdigit" => some (unions [.range '0' '9', .range 'A' 'F', .range 'a' 'f'])
  | _ => none

def hexDigits : CharClass := unions [.range '0' '9', .range 'A' 'F', .range 'a' 'f']

end PatternLoom.CharClass
