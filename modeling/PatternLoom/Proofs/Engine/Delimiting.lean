import PatternLoom.Config.Basic
import PatternLoom.Proofs.Engine.Transparency
import PatternLoom.Proofs.Text.EscapedForm

/-!
# Delimited patterns

A reader of a delimited pattern looks for the delimiter that ends it, and takes a backslash together with
its successor on the way. It stops at the end of an escaped text if the delimiter is one of the characters
that are escaped, or none of the text. Which characters are escaped does not depend on the delimiter, so
any other delimiter in the text is taken for the end.
-/

namespace PatternLoom

set_option autoImplicit false

namespace Text

variable {d : Char} {t : Text}

theorem upTo?_escapeLiteral_iff (hd : d ≠ '\\') :
    upTo? d (escapeLiteral t ++ [d]) = some (escapeLiteral t, []) ↔ isMeta d = true ∨ d ∉ t := by
  have hopen := bare_backslash_not_mem_letters_escapeLiteral t
  calc upTo? d (escapeLiteral t ++ [d]) = some (escapeLiteral t, [])
    _ ↔ .bare d ∉ letters (escapeLiteral t) := by
      rw [upTo?_eq_some_iff hd]
      exact ⟨fun h => h.2.1, fun h => ⟨rfl, h, hopen⟩⟩
    _ ↔ isMeta d = true ∨ d ∉ t := by
      rw [bare_mem_letters_escapeLiteral_iff, not_and_or, Bool.not_eq_false]

end Text

namespace Config

theorem delimiter_ne_backslash {config : Config} (h : config.validate = .ok ()) :
    config.delimiter ≠ '\\' := by
  intro hd
  rw [validate, hd, if_neg (by decide)] at h
  cases h

end Config

namespace Engine

/-- The delimited form of an escaped text ends where a reader takes it to end exactly if the delimiter is
one of the characters that are escaped, or does not occur in the text. The pattern between the delimiters
can be told in any case. -/
theorem delimited_end (config : Config) (past : List Request) (hvalid : config.validate = .ok ())
    (t : Text) :
    let e := (Engine.new config).after past
    let d := config.delimiter
    ∃ body, e.delimit (Text.escapeLiteral t) = d :: body ∧ body.dropLast = Text.escapeLiteral t ∧
      (Text.upTo? d body = some (Text.escapeLiteral t, []) ↔ Text.isMeta d = true ∨ d ∉ t) := by
  intro e d
  obtain ⟨-, hconfig⟩ := (faithful_new config).after past
  have hd : e.config.delimiter = d := congrArg Config.delimiter hconfig
  refine ⟨Text.escapeLiteral t ++ [d], ?_, List.dropLast_concat, ?_⟩
  · rw [delimit, hd]
    rfl
  · exact Text.upTo?_escapeLiteral_iff (Config.delimiter_ne_backslash hvalid)

/-- A slash in a text is escaped, and a backslash in front of it is escaped on its own. -/
theorem delimited_end_slash :
    let config : Config := { backtrackLimit := 1, cacheSize := 0, delimiter := '/' }
    let t := ['\\', '/', 'é']
    let bare := ['\\', '\\', '\\', '/', 'é']
    config.validate = .ok () ∧ (Text.isMeta '/' = true ∨ '/' ∉ t) ∧
      ((Engine.new config).after [.clear]).delimit (Text.escapeLiteral t) = '/' :: bare ++ ['/'] ∧
        Text.upTo? '/' (bare ++ ['/']) = some (bare, []) := by
  intro config t bare
  have hvalid : config.validate = .ok () := by decide
  have hmeta : Text.isMeta '/' = true ∨ '/' ∉ t := by decide
  obtain ⟨body, hbody, -, hiff⟩ := delimited_end config [.clear] hvalid t
  have hdelimited : '/' :: body = '/' :: bare ++ ['/'] := by
    rw [← hbody]
    decide
  obtain ⟨-, rfl⟩ := List.cons.inj hdelimited
  exact ⟨hvalid, hmeta, hbody, hiff.mpr hmeta⟩

/-- A number sign may be the delimiter and is not escaped. -/
theorem delimited_end_early :
    let config : Config := { delimiter := '#' }
    config.validate = .ok () ∧
      (Engine.new config).delimit (Text.escapeLiteral ['#']) = ['#', '#', '#'] ∧
        Text.upTo? '#' ['#', '#'] = some ([], ['#']) := by
  decide

end Engine

end PatternLoom
