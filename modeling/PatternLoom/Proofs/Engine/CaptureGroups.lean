import Mathlib.Data.List.Nodup
import PatternLoom.Proofs.Engine.MatchSpans
import PatternLoom.Proofs.Pattern.GroupSpan

/-!
# Groups of a match

The spans, the texts and the names that a match reports are read off three lists, which agree: as many
groups as the program has, every one of them a part of the subject or absent, and every name that of one
group.
-/

namespace PatternLoom

set_option autoImplicit false

namespace Captures

variable {g : Program} {s n : Text} {found : Program.Found} {caps : Captures} {i : Nat} {m : Match}

/-- What a match of a program in a subject says about its groups. -/
structure Coherent (g : Program) (s : Text) (caps : Captures) : Prop where
  size : caps.size = g.groups + 1
  inhabited : caps.isEmpty = false
  whole : caps.get? 0 = some caps.whole
  beyond : ∀ i, caps.size ≤ i → caps.get? i = none
  within : ∀ i m, caps.get? i = some m → m.Within s
  named : ∀ n i, (n, i) ∈ g.names → caps.name? n = caps.get? i
  unnamed : ∀ n, (∀ i, (n, i) ∉ g.names) → caps.name? n = none
  length_texts : caps.texts.length = caps.size
  texts : ∀ i < caps.size, caps.texts[i]? = some (((caps.get? i).map (·.text)).getD [])

end Captures

namespace Engine

end Engine

end PatternLoom
