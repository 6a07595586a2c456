import PatternLoom.Proofs.Engine.LiteralSearch
import PatternLoom.Proofs.Pattern.SuccessiveSearch

/-!
# Reports of texts taken one after the other

An engine reports the texts that a program takes from a subject one after the other. A search that has
to pass over more places in a row than its budget allows makes the whole request fail.
-/

namespace PatternLoom

set_option autoImplicit false

open Text (Successive passes)

/-- The match of a text without groups, at a character offset of a subject. -/
def textAt (s : Text) (x : Nat × Text) : Captures := capturesAt x.2 s x.1

/-- The match of a text whose group one is the whole match. -/
def wordAt (s : Text) (x : Nat × Text) : Captures where
  whole := matchAt x.2 s x.1
  groups := [some (matchAt x.2 s x.1), some (matchAt x.2 s x.1)]
  names := [none, none]

variable {g : Program} {limit : Nat} {budget : Option Nat} {s : Text} {takes : Nat → Option Text}
  {found : Nat × Text → Program.Found} {captures : Nat × Text → Captures}

theorem Program.Seeks.allCaptures (hg : g.Seeks limit budget s takes found)
    (h : ∀ q w, q ≤ s.length → takes q = some w →
      Captures.ofFound? g s (found (q, w)) = some (captures (q, w))) (pattern : Text) :
    ∃ spans, Successive takes s.length 0 spans ∧
      Engine.allCaptures pattern s limit g =
        if (passes s.length 0 spans).all (within budget) then .ok (spans.map captures)
        else .error (.exhausted pattern) := by
  obtain ⟨spans, hspans, hall⟩ := hg.findAll
  have hcaptures : (spans.map found).filterMap (Captures.ofFound? g s) = spans.map captures := by
    rw [List.filterMap_map, ← List.filterMap_eq_map]
    apply List.filterMap_congr
    intro x hx
    obtain ⟨hsize, hw⟩ := hspans.takes_eq x hx
    exact h x.1 x.2 hsize hw
  refine ⟨spans, hspans, ?_⟩
  rw [Engine.allCaptures]
  split at hall
  · rw [if_pos ‹_›, hall, hcaptures]
    rfl
  · rw [if_neg ‹_›, hall]
    rfl

namespace Engine

/-- Whatever else it has been asked, an engine reports what its program takes, if the budget lasts. -/
theorem Faithful.findAll_of_seeks {e : Engine} (he : e.Faithful) {pattern : Text}
    (hcompile : Program.compile? pattern = some g)
    (hg : g.Seeks e.config.backtrackLimit budget s takes found)
    (h : ∀ q w, q ≤ s.length → takes q = some w →
      Captures.ofFound? g s (found (q, w)) = some (captures (q, w))) :
    ∃ spans, Successive takes s.length 0 spans ∧
      (e.findAll pattern s).result =
        if (passes s.length 0 spans).all (within budget) then .ok (spans.map captures)
        else .error (.exhausted pattern) := by
  rw [findAll, he.execute_of_compile? hcompile]
  exact hg.allCaptures h pattern

end Engine

end PatternLoom
