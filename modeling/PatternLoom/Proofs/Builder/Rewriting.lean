import PatternLoom.Builder.Optional
import PatternLoom.Proofs.Text.EscapedOccurrence

/-!
# Rewriting of patterns

Making every occurrence of a text optional in an escaped text comes to the same as doing so first and
escaping the parts afterwards.
-/

namespace PatternLoom.Optional

set_option autoImplicit false

open Text (Leftmost between escapeLiteral joinWith splitsPair)

/-- The leftmost occurrences of a text divide another one into parts. With both of them escaped, the
occurrences become optional and the parts stand between them, escaped. What is replaced in the escaped
text begins and ends with a pair of backslash and character, never inside of one. -/
theorem escaped_occurrences (t k : Text) (hk : k ≠ []) :
    let g := group (escapeLiteral k)
    let rewritten := occurrencesIn (escapeLiteral t) (escapeLiteral k)
    (∃ offsets, Leftmost k t offsets) ∧ ∀ offsets, Leftmost k t offsets →
      let parts := between k.length 0 t offsets
      joinWith k parts = t ∧ rewritten = joinWith g (parts.map escapeLiteral) ∧
        ∃ found, Leftmost (escapeLiteral k) (escapeLiteral t) found ∧
          rewritten = joinWith g (between (escapeLiteral k).length 0 (escapeLiteral t) found) ∧
          ∀ o ∈ found, splitsPair (escapeLiteral t) o = false ∧
            splitsPair (escapeLiteral t) (o + (escapeLiteral k).length) = false := by
  intro g rewritten
  refine ⟨⟨_, Text.leftmost_occurrences k t⟩, fun offsets h => ?_⟩
  have hparts := h.parts_eq hk
  have hfound := h.escaped hk
  refine ⟨?_, ?_, offsets.map (Text.escapedPlace t), hfound, ?_, ?_⟩
  · rw [← hparts, Text.joinWith_parts hk]
  · rw [← hparts, ← Text.parts_escapeLiteral hk]
    rfl
  · rw [← hfound.parts_eq (Text.escapeLiteral_ne_nil hk)]
    rfl
  · refine List.forall_mem_map.mpr fun o ho => ?_
    rw [← Text.escapedPlace_add_length (h.occurs o ho).2]
    exact ⟨Text.splitsPair_escapedPlace t o, Text.splitsPair_escapedPlace t _⟩

/-- Of three backslashes the first two become optional, and the third one keeps its own. -/
theorem escaped_occurrences_backslashes :
    let k : Text := ['\\', '\\']
    let t : Text := ['\\', '\\', '\\']
    k ≠ [] ∧ Leftmost k t [0] ∧
      occurrencesIn (escapeLiteral t) (escapeLiteral k) =
        ['(', '?', ':', '\\', '\\', '\\', '\\', ')', '?', '\\', '\\'] := by
  intro k t
  have hk : k ≠ [] := by decide
  have hleftmost : Leftmost k t [0] := Text.leftmost_occurrences k t
  obtain ⟨-, h⟩ := escaped_occurrences t k hk
  obtain ⟨-, hrewritten, -⟩ := h [0] hleftmost
  exact ⟨hk, hleftmost, hrewritten⟩

end PatternLoom.Optional
