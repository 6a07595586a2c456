import PatternLoom.Proofs.Pattern.GroupReading
import PatternLoom.Proofs.Pattern.Search

/-!
# Matching a whole text

A plain pattern between the anchors of a text is compiled when the pattern alone is. It matches a text
if the text is one of its words, and nowhere inside of a text.
-/

namespace PatternLoom

set_option autoImplicit false

open Reader (anchoredElements traces)

namespace Simple

/-- The end of a text, as the last element of a sequence. -/
def toEnd : Simple := .seq (.anchor .textEnd) .empty

variable {s : Place}

theorem exists_walk_toEnd_iff : (∃ u, Walk none toEnd s u) ↔ s.ahead = [] := by
  constructor
  · rintro ⟨u, h⟩
    cases h with
    | seq h _ =>
      cases h with
      | anchor h => simpa [Anchor.holds, Place.site] using h
  · intro h
    exact ⟨s, .seq (.anchor (by simp [Anchor.holds, Place.site, h])) .empty⟩

theorem exists_walk_whole_iff {q : Simple} {l : Language Char} (hq : q.Spells l) :
    (∃ u, Walk none (.seq q toEnd) s u) ↔ s.ahead ∈ l := by
  constructor
  · rintro ⟨u, h⟩
    cases h with
    | seq h hend =>
      obtain ⟨w, hw, hs, -⟩ := hq.sound h
      rw [exists_walk_toEnd_iff.mp ⟨u, hend⟩, List.append_nil] at hs
      exact hs ▸ hw
  · intro h
    obtain ⟨t, hwalk, ht⟩ := hq.complete none h (List.append_nil _).symm
    obtain ⟨u, hend⟩ := exists_walk_toEnd_iff.mpr ht
    exact ⟨u, .seq hwalk hend⟩

theorem exists_walk_textStart_iff {q : Simple} :
    (∃ u, Walk none (.seq (.anchor .textStart) q) s u) ↔
      s.before = none ∧ ∃ u, Walk none q s u := by
  constructor
  · rintro ⟨u, h⟩
    cases h with
    | seq h hq =>
      cases h with
      | anchor h => exact ⟨by simpa [Anchor.holds, Place.site] using h, u, hq⟩
  · rintro ⟨h, u, hq⟩
    exact ⟨u, .seq (.anchor (by simp [Anchor.holds, Place.site, h])) hq⟩

theorem exists_walk_capture_iff {g : Nat} {q : Simple} :
    (∃ u, Walk none (.capture g q) s u) ↔
      ∃ u, Walk none q (s.withSlots (s.slots.openAt g s.offset)) u := by
  constructor
  · rintro ⟨u, h⟩
    cases h with
    | capture h => exact ⟨_, h⟩
  · rintro ⟨u, h⟩
    exact ⟨_, .capture h⟩

end Simple

namespace Regex

theorem isHard_anchored {r : Regex} (hr : r.Plain) :
    (ofElements (anchoredElements r)).isHard [] = false := by
  refine ofElements_induction (P := fun p => p.isHard [] = false) rfl ?_ fun p hp => ?_
  · intro p q hp hq
    rw [isHard, hp, hq, Bool.or_self]
  · unfold anchoredElements traces at hp
    split at hp
    · simp only [List.nil_append, List.cons_append, List.mem_cons, List.not_mem_nil, or_false] at hp
      rcases hp with rfl | rfl <;> rfl
    · simp only [List.nil_append, List.cons_append, List.mem_cons, List.not_mem_nil, or_false] at hp
      rcases hp with rfl | rfl | rfl
      · rfl
      · exact hr.isHard
      · rfl

/-- The one-pass form of a pattern between anchors. The empty pattern has left no trace between them. -/
theorem simple?_anchored (r : Regex) :
    (ofElements (anchoredElements r)).simple? =
      if r = .empty then some (.seq (.anchor .textStart) .toEnd)
      else r.simple?.map fun q => .seq (.anchor .textStart) (.seq q .toEnd) := by
  unfold anchoredElements traces
  split
  · rfl
  · cases h : r.simple? with
    | none => simp [ofElements, simple?, h]
    | some q => simp [ofElements, simple?, h, Simple.toEnd]

theorem isSome_simple?_anchored (r : Regex) :
    (ofElements (anchoredElements r)).simple?.isSome = r.simple?.isSome := by
  rw [simple?_anchored]
  split
  · rename_i h
    rw [h]
    rfl
  · exact Option.isSome_map

/-- Between anchors, a plain pattern walks over a whole text if that is one of its words. -/
theorem exists_walk_anchored_iff {r : Regex} (hr : r.Plain) {p : Simple}
    (h : (ofElements (anchoredElements r)).simple? = some p) {s : Simple.Place} :
    (∃ u, Simple.Walk none p s u) ↔ s.before = none ∧ s.ahead ∈ r.language := by
  rw [simple?_anchored] at h
  split at h
  · rename_i hempty
    obtain rfl := Option.some.inj h
    rw [Simple.exists_walk_textStart_iff, Simple.exists_walk_toEnd_iff, hempty]
    exact Iff.rfl
  · obtain ⟨q, hq, rfl⟩ := Option.map_eq_some_iff.mp h
    rw [Simple.exists_walk_textStart_iff, Simple.exists_walk_whole_iff (hr.spells hq)]

end Regex

namespace Program

variable {t : Text} {r : Regex} {groups : Nat}

theorem isSome_compile?_anchored
    (hread : Pattern.read? t = some ⟨.ofElements (anchoredElements r), groups, [], []⟩)
    (hr : r.Plain) : (compile? t).isSome = r.simple?.isSome := by
  rw [compile?_of_easy hread (Regex.isHard_anchored hr), Option.isSome_map,
    Regex.isSome_simple?_anchored]

/-- The program of a plain pattern between anchors finds a match in its words and in no other text. -/
theorem find?_anchored
    (hread : Pattern.read? t = some ⟨.ofElements (anchoredElements r), groups, [], []⟩)
    (hr : r.Plain) {g : Program} (hg : compile? t = some g) (limit : Nat) (w : Text) :
    ∃ found, g.find? limit w = some found ∧ (found.isSome = true ↔ w ∈ r.language) := by
  rw [compile?_of_easy hread (Regex.isHard_anchored hr)] at hg
  obtain ⟨p, hp, rfl⟩ := Option.map_eq_some_iff.mp hg
  refine ⟨_, rfl, ?_⟩
  rw [isSome_searchOnePass_iff]
  constructor
  · rintro ⟨pre, post, hsplit, h⟩
    obtain ⟨hbefore, hw⟩ :=
      (Regex.exists_walk_anchored_iff hr hp).mp (Simple.exists_walk_capture_iff.mp h)
    -- the anchor at the front holds nowhere but at the start of the text
    have hpre : pre = [] := by simpa [Simple.Place.withSlots, Cursor.start] using hbefore
    have hpost : post = w := by simpa [hpre, Cursor.start] using hsplit.symm
    exact hpost ▸ hw
  · intro hw
    refine ⟨[], w, rfl, Simple.exists_walk_capture_iff.mpr ?_⟩
    exact (Regex.exists_walk_anchored_iff hr hp).mpr ⟨rfl, hw⟩

end Program

end PatternLoom
