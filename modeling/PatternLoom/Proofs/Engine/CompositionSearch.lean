import PatternLoom.Proofs.Builder.CompositionMeaning
import PatternLoom.Proofs.Engine.Transparency
import PatternLoom.Proofs.Pattern.WholeMatch

/-!
# Running compositions

An engine compiles the bare pattern of a composition and matches it against whole texts. The answer is
whether the text is a word of the composition.
-/

namespace PatternLoom

set_option autoImplicit false

open Reader (anchored)

namespace Composition

theorem plain_elements (p : Composition) : (Regex.ofElements (p.elements 0)).Plain :=
  (p.denotes 0).ofElements.plain

/-- A composition whose groups are not nested too deep is compiled if what it is read as has a one-pass
form. -/
theorem compile?_text (p : Composition) :
    Program.compile? p.text =
      if p.depth ≤ 63 then
        (Regex.ofElements (p.elements 0)).simple?.map fun q =>
          ⟨p.text, (p.reported 0).foldl max 0, [], .onePass (.capture 0 q)⟩
      else none := by
  have hread := p.read?_text
  split
  · rename_i hdepth
    rw [if_pos hdepth] at hread
    rw [Program.compile?_of_plain hread p.plain_elements, (p.denotes 0).ofElements.survivors]
  · rename_i hdepth
    rw [if_neg hdepth] at hread
    rw [Program.compile?, hread]
    rfl

/-- The anchors take one level of groups away, and nothing else. -/
theorem isSome_compile?_anchored (p : Composition) :
    (Program.compile? (anchored p.text)).isSome = true ↔
      (Program.compile? p.text).isSome = true ∧ p.depth ≤ 62 := by
  have hread := p.read?_anchored
  rw [p.compile?_text]
  by_cases hdepth : p.depth ≤ 62
  · rw [if_pos hdepth] at hread
    rw [Program.isSome_compile?_anchored hread p.plain_elements, if_pos (by omega),
      Option.isSome_map]
    exact (and_iff_left hdepth).symm
  · rw [if_neg hdepth] at hread
    rw [Program.compile?, hread]
    simp [hdepth]

end Composition

namespace Engine

end Engine

end PatternLoom
