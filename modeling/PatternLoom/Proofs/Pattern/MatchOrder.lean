import PatternLoom.Proofs.Pattern.Literal
import PatternLoom.Proofs.Pattern.WholeSpan

/-!
# Matches found one after the other

A search for all matches goes on where the match before ended, or one character further if that match
was empty. The ends of the matches are in order therefore. Unless the pattern has `\K` inside of a
look-behind, the matches do not overlap.
-/

namespace PatternLoom

set_option autoImplicit false

/-- Where the search goes on after a match, if it does. -/
def Cursor.after? (c : Cursor) (start stop : Nat) : Option Cursor :=
  if start = stop then
    match (c.forwardTo stop).ahead with
    | [] => none
    | d :: ahead => some ⟨d :: (c.forwardTo stop).behind, ahead⟩
  else some (c.forwardTo stop)

namespace Cursor.Spans

variable {behind : Bool} {c : Cursor} {start stop : Nat}

theorem offset_forwardTo (h : c.Spans behind start stop) : (c.forwardTo stop).offset = stop := by
  have hstart := h.offset_le
  have hstop := h.stop_le
  rw [length_text] at hstop
  rw [forwardTo, Program.offset_forward (by omega)]
  omega

/-- The search goes on in the same text, behind the match. -/
theorem of_after? (h : c.Spans behind start stop) {d : Cursor} (hd : c.after? start stop = some d) :
    d.text = c.text ∧ d.offset = if start = stop then stop + 1 else stop := by
  have hoffset := h.offset_forwardTo
  have htext : (c.forwardTo stop).text = c.text := text_forward _ _
  unfold after? at hd
  split at hd
  · rename_i heq
    split at hd
    · cases hd
    · rename_i e ahead hahead
      cases hd
      rw [if_pos heq]
      refine ⟨?_, congrArg (· + 1) hoffset⟩
      rw [← htext]
      simp [text, hahead]
  · rename_i hne
    cases hd
    rw [if_neg hne]
    exact ⟨htext, hoffset⟩

theorem length_ahead_lt (h : c.Spans false start stop) (hle : start ≤ stop) {d : Cursor}
    (hd : c.after? start stop = some d) : d.ahead.length < c.ahead.length := by
  obtain ⟨htext, hoffset⟩ := h.of_after? hd
  have hstart := h.onward rfl
  have hlength := congrArg List.length htext
  rw [length_text, length_text] at hlength
  split at hoffset <;> omega

end Cursor.Spans

namespace Program

variable {behind : Bool} {g : Program} {limit : Nat} {c : Cursor} {last : Option Nat} {found : Found}
  {start stop : Nat}

@[simp] theorem Findings.ending_cons (found : Found) (rest : Findings) :
    (rest.cons found).ending = rest.ending := rfl

@[simp] theorem Findings.found_cons (found : Found) (rest : Findings) :
    (rest.cons found).found = found :: rest.found := rfl

theorem searchAll_abandoned (h : g.search? limit (searchOrigin c last) c = none) (fuel : Nat) :
    g.searchAll limit (fuel + 1) c last = ⟨[], .exhausted⟩ := by
  rw [searchAll, h]

theorem searchAll_finished (h : g.search? limit (searchOrigin c last) c = some none) (fuel : Nat) :
    g.searchAll limit (fuel + 1) c last = ⟨[], .complete⟩ := by
  rw [searchAll, h]

/-- What comes after a match of a search that goes on, if it does, with some bound on its rounds. -/
def later (g : Program) (limit fuel : Nat) (c : Cursor) (start stop : Nat) : Findings :=
  match c.after? start stop with
  | none => ⟨[], .complete⟩
  | some d => g.searchAll limit fuel d (some stop)

/-- A round of the search that has found a match. An empty match at the end of the one before is
passed over. -/
theorem searchAll_of_found (h : g.search? limit (searchOrigin c last) c = some (some found))
    (hspan : found.span? 0 = some (start, stop)) (fuel : Nat) :
    g.searchAll limit (fuel + 1) c last =
      if start = stop ∧ last = some stop then g.later limit fuel c start stop
      else (g.later limit fuel c start stop).cons found := by
  rw [searchAll, h]
  simp only [hspan, later, Cursor.after?]
  by_cases heq : start = stop
  · rw [if_pos heq, if_pos heq]
    cases (c.forwardTo stop).ahead <;> simp [heq]
  · rw [if_neg heq, if_neg heq]
    simp [heq]

/-- Spans of matches found from `position` on, the match before having ended at `last`. -/
inductive Spaced (behind : Bool) (size : Nat) : Nat → Option Nat → List (Nat × Nat) → Prop where
  | nil {position : Nat} {last : Option Nat} : Spaced behind size position last []
  | cons {position start stop : Nat} {last : Option Nat} {rest : List (Nat × Nat)}
      (hle : start ≤ stop) (hposition : position ≤ stop) (hsize : stop ≤ size)
      (honward : behind = false → position ≤ start) (hfresh : start = stop → last ≠ some stop)
      (hrest : Spaced behind size (if start = stop then stop + 1 else stop) (some stop) rest) :
      Spaced behind size position last ((start, stop) :: rest)

namespace Spaced

variable {size position position' : Nat} {spans : List (Nat × Nat)}

theorem mono (h : Spaced behind size position last spans) (hle : position' ≤ position) :
    Spaced behind size position' last spans := by
  cases h with
  | nil => exact .nil
  | cons hspan hposition hsize honward hfresh hrest =>
    refine .cons hspan (hle.trans hposition) hsize ?_ hfresh hrest
    exact fun hbehind => hle.trans (honward hbehind)

theorem tail {x : Nat × Nat} (h : Spaced behind size position last (x :: spans)) :
    Spaced behind size x.2 (some x.2) spans := by
  cases h with
  | cons _ _ _ _ _ hrest =>
    apply hrest.mono
    split <;> omega

theorem bounds (h : Spaced behind size position last spans) :
    ∀ x ∈ spans, x.1 ≤ x.2 ∧ position ≤ x.2 ∧ x.2 ≤ size := by
  induction h with
  | nil => exact List.forall_mem_nil _
  | @cons position start stop last rest hle hposition hsize honward hfresh hrest ih =>
    intro x hx
    rcases List.mem_cons.mp hx with rfl | hx
    · exact ⟨hle, hposition, hsize⟩
    · obtain ⟨hx, hnext, hend⟩ := ih x hx
      split at hnext <;> omega

theorem position_le (h : Spaced false size position last spans) : ∀ x ∈ spans, position ≤ x.1 := by
  intro x hx
  induction h with
  | nil => cases hx
  | @cons position start stop last rest hle hposition hsize honward hfresh hrest ih =>
    have hstart := honward rfl
    rcases List.mem_cons.mp hx with rfl | hx
    · exact hstart
    · have hnext := ih hx
      split at hnext <;> omega

/-- Whatever the pattern, the ends of the spans are in order, and an empty span does not touch one before
it. -/
theorem pairwise_ends (h : Spaced behind size position last spans) :
    spans.Pairwise fun x y => x.2 ≤ y.2 ∧ (y.1 = y.2 → x.2 < y.2) := by
  induction h with
  | nil => exact .nil
  | @cons position start stop last rest hle hposition hsize honward hfresh hrest ih =>
    refine .cons ?_ ih
    intro y hy
    have hnext := (hrest.bounds y hy).2.1
    by_cases heq : start = stop
    · rw [if_pos heq] at hnext
      exact ⟨Nat.le_of_lt hnext, fun _ => hnext⟩
    · rw [if_neg heq] at hnext hrest
      refine ⟨hnext, fun hempty => ?_⟩
      cases hrest with
      | nil => cases hy
      | @cons _ start' stop' _ rest' _ hnext' _ _ hfresh' _ =>
        rcases List.mem_cons.mp hy with rfl | hy
        · have hlast : stop ≠ stop' := fun h => hfresh' hempty (congrArg some h)
          omega
        · have hlater := ((List.pairwise_cons.mp ih).1 y hy).2 hempty
          omega

/-- Two spans one after the other: they do not overlap, and an empty one does not touch the one
before. -/
def Follows (x y : Nat × Nat) : Prop := x.2 ≤ y.1 ∧ x.1 < y.1 ∧ x.2 < y.2

theorem pairwise (h : Spaced false size position last spans) : spans.Pairwise Follows := by
  induction h with
  | nil => exact .nil
  | @cons position start stop last rest hle hposition hsize honward hfresh hrest ih =>
    refine .cons ?_ ih
    intro y hy
    have hfirst := hrest.position_le y hy
    have hbounds := (hrest.bounds y hy).1
    by_cases heq : start = stop
    · rw [if_pos heq] at hfirst
      simp only [Follows]
      omega
    · rw [if_neg heq] at hfirst
      -- only the next span can begin where this one ends, and it is not empty then
      have hstop : stop < y.2 := by
        rw [if_neg heq] at hrest
        cases hrest with
        | nil => cases hy
        | @cons _ start' stop' _ rest' hle' hposition' _ honward' hfresh' hrest' =>
          have hstart' := honward' rfl
          have hstop' : stop < stop' := by
            rcases Nat.lt_or_ge stop stop' with hlt | hge
            · exact hlt
            · have hlast : some stop = some stop' := congrArg some (by omega)
              exact absurd hlast (hfresh' (by omega))
          rcases List.mem_cons.mp hy with rfl | hy
          · exact hstop'
          · have hlater := (hrest'.bounds y hy).2.1
            split at hlater <;> omega
      simp only [Follows]
      omega

theorem length_le (h : Spaced false size position last spans) (hposition : position ≤ size + 1) :
    spans.length ≤ size + 1 - position := by
  induction h with
  | nil => exact Nat.zero_le _
  | @cons position start stop last rest hle hposition hsize honward hfresh hrest ih =>
    have hstart := honward rfl
    rw [List.length_cons]
    by_cases heq : start = stop
    · rw [if_pos heq] at ih
      have hrest := ih (by omega)
      omega
    · rw [if_neg heq] at ih
      have hrest := ih (by omega)
      omega

end Spaced

def spans (all : List Found) : List (Nat × Nat) := all.filterMap fun found => found.span? 0

theorem spans_cons (h : found.span? 0 = some (start, stop)) (all : List Found) :
    spans (found :: all) = (start, stop) :: spans all := by
  simp only [spans, List.filterMap_cons, h]

/-- A round of a search for all matches, and what the later rounds add. -/
inductive Round (behind : Bool) (g : Program) (limit fuel : Nat) (c : Cursor) (last : Option Nat) :
    Findings → Prop where
  | abandoned (h : g.search? limit (searchOrigin c last) c = none) :
      Round behind g limit fuel c last ⟨[], .exhausted⟩
  | finished (h : g.search? limit (searchOrigin c last) c = some none) :
      Round behind g limit fuel c last ⟨[], .complete⟩
  | found {found : Found} {start stop : Nat}
      (h : g.search? limit (searchOrigin c last) c = some (some found))
      (hspan : found.span? 0 = some (start, stop)) (hle : start ≤ stop)
      (hspans : c.Spans behind start stop) :
      Round behind g limit fuel c last
        (if start = stop ∧ last = some stop then g.later limit fuel c start stop
          else (g.later limit fuel c start stop).cons found)

theorem Finds.round (hg : g.Finds behind) (limit fuel : Nat) (c : Cursor) (last : Option Nat) :
    Round behind g limit fuel c last (g.searchAll limit (fuel + 1) c last) := by
  rcases hsearch : g.search? limit (searchOrigin c last) c with _ | _ | found
  · rw [searchAll_abandoned hsearch]
    exact .abandoned hsearch
  · rw [searchAll_finished hsearch]
    exact .finished hsearch
  · obtain ⟨start, stop, hspan, hle, hspans⟩ := hg _ _ _ _ hsearch
    rw [searchAll_of_found hsearch hspan]
    exact .found hsearch hspan hle hspans

/-- A whole search: the spans it reports are in order, however it ends. -/
theorem Finds.spaced (hg : g.Finds behind) (limit fuel : Nat) (c : Cursor) (last : Option Nat) :
    Spaced behind c.text.length c.offset last (spans (g.searchAll limit fuel c last).found) := by
  induction fuel generalizing c last with
  | zero => exact .nil
  | succ fuel ih =>
    have hround := hg.round limit fuel c last
    generalize g.searchAll limit (fuel + 1) c last = all at hround ⊢
    cases hround with
    | abandoned => exact .nil
    | finished => exact .nil
    | @found found start stop hsearch hspan hle hspans =>
      have hlater : Spaced behind c.text.length (if start = stop then stop + 1 else stop) (some stop)
          (spans (g.later limit fuel c start stop).found) := by
        rw [later]
        cases hafter : c.after? start stop with
        | none => exact .nil
        | some d =>
          obtain ⟨htext, hoffset⟩ := hspans.of_after? hafter
          rw [← htext, ← hoffset]
          exact ih d (some stop)
      by_cases hpass : start = stop ∧ last = some stop
      · rw [if_pos hpass]
        rw [if_pos hpass.1, ← hpass.2] at hlater
        exact hlater.mono (hspans.offset_le.trans (Nat.le_succ _))
      · rw [if_neg hpass, Findings.found_cons, spans_cons hspan]
        refine .cons hle hspans.offset_le hspans.stop_le hspans.onward ?_ hlater
        exact fun heq hlast => hpass ⟨heq, hlast⟩

theorem Finds.spaced_findAll (hg : g.Finds behind) (limit : Nat) (s : Text) :
    Spaced behind s.length 0 none (spans (g.findAll limit s).found) :=
  hg.spaced limit (2 * (s.length + 1)) (.start s) none

/-- The first of all matches is the one that a single search finds. -/
theorem Finds.find?_of_findAll (hg : g.Finds behind) {s : Text}
    (h : (g.findAll limit s).ending = .complete) :
    g.find? limit s = some (g.findAll limit s).found.head? := by
  have horigin : searchOrigin (Cursor.start s) none = some 0 := rfl
  rw [find?]
  rw [findAll, Nat.mul_add_one] at h ⊢
  have hround := hg.round limit (2 * s.length + 1) (.start s) none
  generalize g.searchAll limit (2 * s.length + 2) (.start s) none = all at hround h ⊢
  cases hround with
  | abandoned => cases h
  | finished hsearch => exact hsearch
  | @found found start stop hsearch =>
    rw [if_neg (by simp)]
    exact hsearch

end Program

end PatternLoom
