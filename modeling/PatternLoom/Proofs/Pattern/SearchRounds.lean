import PatternLoom.Proofs.Pattern.MatchOrder

/-!
# Rounds of a search for all matches

A search for all matches makes its rounds one after the other, and no bound on them is part of the
search. With every round it comes closer to the end of the text, or else it is where it was, and then it
finds the same match for ever. So a bound that lasts for all places tells the searches that end from
those that do not. The matches of a search that does not end overlap.
-/

namespace PatternLoom

set_option autoImplicit false

/-- The rounds that a search from a place can still make before it repeats one. It can come back to a
place once: at the end of a match that was told to begin behind it. -/
def Cursor.roundsLeft (c : Cursor) (last : Option Nat) : Nat :=
  2 * c.ahead.length + if last = some c.offset then 1 else 2

theorem Cursor.roundsLeft_pos (c : Cursor) (last : Option Nat) : 0 < c.roundsLeft last := by
  rw [roundsLeft]
  split <;> omega

theorem Cursor.Spans.roundsLeft_lt {behind : Bool} {c d : Cursor} {start stop : Nat}
    (h : c.Spans behind start stop) (hle : start ≤ stop) (hd : c.after? start stop = some d)
    (last : Option Nat) :
    d.roundsLeft (some stop) < c.roundsLeft last ∨
      d = c ∧ last = some c.offset ∧ stop = c.offset ∧ start < stop := by
  obtain ⟨htext, hoffset⟩ := h.of_after? hd
  have hposition := h.offset_le
  have hlength := congrArg List.length htext
  rw [length_text, length_text] at hlength
  by_cases hrepeat : start ≠ stop ∧ stop = c.offset ∧ last = some c.offset
  · obtain ⟨hne, rfl, hlast⟩ := hrepeat
    rw [after?, if_neg hne, forwardTo_offset] at hd
    exact Or.inr ⟨(Option.some.inj hd).symm, hlast, rfl, by omega⟩
  · apply Or.inl
    rw [roundsLeft, roundsLeft]
    by_cases hempty : start = stop
    · rw [if_pos hempty] at hoffset
      have hbehind : some stop ≠ some d.offset := fun heq => by
        have := Option.some.inj heq
        omega
      rw [if_neg hbehind]
      split <;> omega
    · rw [if_neg hempty] at hoffset
      rw [hoffset, if_pos rfl]
      by_cases hlast : last = some c.offset
      · have hstop : stop ≠ c.offset := fun heq => hrepeat ⟨hempty, heq, hlast⟩
        rw [if_pos hlast]
        omega
      · rw [if_neg hlast]
        omega

namespace Program

variable {behind : Bool} {g : Program} {limit fuel : Nat} {c : Cursor} {last : Option Nat}
  {found : Found} {start stop : Nat}

theorem Findings.ending_pass (p : Prop) [Decidable p] (rest : Findings) (found : Found) :
    (if p then rest else rest.cons found).ending = rest.ending := by
  split <;> rfl

/-- The search for all matches, round by round, with no bound on the number of rounds. -/
inductive Rounds (g : Program) (limit : Nat) : Cursor → Option Nat → Findings → Prop where
  | abandoned {c : Cursor} {last : Option Nat}
      (h : g.search? limit (searchOrigin c last) c = none) : Rounds g limit c last ⟨[], .exhausted⟩
  | finished {c : Cursor} {last : Option Nat}
      (h : g.search? limit (searchOrigin c last) c = some none) : Rounds g limit c last ⟨[], .complete⟩
  | final {c : Cursor} {last : Option Nat} {found : Found} {start stop : Nat}
      (h : g.search? limit (searchOrigin c last) c = some (some found))
      (hspan : found.span? 0 = some (start, stop)) (hafter : c.after? start stop = none) :
      Rounds g limit c last
        (if start = stop ∧ last = some stop then ⟨[], .complete⟩ else ⟨[found], .complete⟩)
  | more {c d : Cursor} {last : Option Nat} {found : Found} {start stop : Nat} {rest : Findings}
      (h : g.search? limit (searchOrigin c last) c = some (some found))
      (hspan : found.span? 0 = some (start, stop)) (hafter : c.after? start stop = some d)
      (hrest : Rounds g limit d (some stop) rest) :
      Rounds g limit c last (if start = stop ∧ last = some stop then rest else rest.cons found)

/-- Rounds that end are those of a bounded search that does not come to its bound. -/
theorem Rounds.exists_searchAll {all : Findings} (h : Rounds g limit c last all) :
    (∃ fuel, g.searchAll limit fuel c last = all) ∧ all.ending ≠ .endless := by
  induction h with
  | abandoned hsearch => exact ⟨⟨1, searchAll_abandoned hsearch 0⟩, by decide⟩
  | finished hsearch => exact ⟨⟨1, searchAll_finished hsearch 0⟩, by decide⟩
  | final hsearch hspan hafter =>
    refine ⟨⟨1, ?_⟩, ?_⟩
    · rw [searchAll_of_found hsearch hspan, later, hafter]
      rfl
    · split <;> simp
  | more hsearch hspan hafter _ ih =>
    obtain ⟨⟨fuel, rfl⟩, hending⟩ := ih
    refine ⟨⟨fuel + 1, ?_⟩, ?_⟩
    · rw [searchAll_of_found hsearch hspan, later, hafter]
    · rw [Findings.ending_pass]
      exact hending

/-- A bounded search does not differ from the rounds, unless it comes to its bound. -/
theorem Rounds.eq_searchAll {all : Findings} (h : Rounds g limit c last all)
    (hending : (g.searchAll limit fuel c last).ending ≠ .endless) :
    g.searchAll limit fuel c last = all := by
  induction h generalizing fuel with
  | abandoned hsearch =>
    cases fuel with
    | zero => exact absurd rfl hending
    | succ fuel => exact searchAll_abandoned hsearch fuel
  | finished hsearch =>
    cases fuel with
    | zero => exact absurd rfl hending
    | succ fuel => exact searchAll_finished hsearch fuel
  | final hsearch hspan hafter =>
    cases fuel with
    | zero => exact absurd rfl hending
    | succ fuel =>
      rw [searchAll_of_found hsearch hspan, later, hafter]
      rfl
  | more hsearch hspan hafter _ ih =>
    cases fuel with
    | zero => exact absurd rfl hending
    | succ fuel =>
      rw [searchAll_of_found hsearch hspan, Findings.ending_pass, later, hafter] at hending
      rw [searchAll_of_found hsearch hspan, later, hafter]
      simp only [ih hending]

/-- A bounded search that does not come to its bound has made all rounds. -/
theorem Finds.rounds (hg : g.Finds behind) (h : (g.searchAll limit fuel c last).ending ≠ .endless) :
    Rounds g limit c last (g.searchAll limit fuel c last) := by
  induction fuel generalizing c last with
  | zero => exact absurd rfl h
  | succ fuel ih =>
    have hround := hg.round limit fuel c last
    generalize g.searchAll limit (fuel + 1) c last = all at hround h ⊢
    cases hround with
    | abandoned hsearch => exact .abandoned hsearch
    | finished hsearch => exact .finished hsearch
    | @found found start stop hsearch hspan hle hspans =>
      rw [Findings.ending_pass] at h
      cases hafter : c.after? start stop with
      | none =>
        rw [later, hafter]
        exact .final hsearch hspan hafter
      | some d =>
        rw [later, hafter] at h ⊢
        exact .more hsearch hspan hafter (ih h)

/-- A search that goes on where it was never ends. -/
theorem endless_of_repeat (h : g.search? limit (searchOrigin c last) c = some (some found))
    (hspan : found.span? 0 = some (start, stop)) (hafter : c.after? start stop = some c)
    (hlast : last = some stop) (fuel : Nat) :
    (g.searchAll limit fuel c last).ending = .endless := by
  induction fuel with
  | zero => rfl
  | succ fuel ih =>
    rw [searchAll_of_found h hspan, Findings.ending_pass, later, hafter, ← hlast]
    exact ih

/-- A bound that lasts for all rounds before one is repeated can be replaced by any other: a search that
comes to it comes to every bound. -/
theorem Finds.endless_of_roundsLeft_le (hg : g.Finds behind) (hfuel : c.roundsLeft last ≤ fuel)
    (h : (g.searchAll limit fuel c last).ending = .endless) (fuel' : Nat) :
    (g.searchAll limit fuel' c last).ending = .endless := by
  induction fuel generalizing c last fuel' with
  | zero => exact absurd (c.roundsLeft_pos last) (Nat.not_lt.mpr hfuel)
  | succ fuel ih =>
    have hround := hg.round limit fuel c last
    generalize g.searchAll limit (fuel + 1) c last = all at hround h
    cases hround with
    | abandoned => cases h
    | finished => cases h
    | @found found start stop hsearch hspan hle hspans =>
      rw [Findings.ending_pass] at h
      cases hafter : c.after? start stop with
      | none =>
        rw [later, hafter] at h
        cases h
      | some d =>
        rcases hspans.roundsLeft_lt hle hafter last with hless | ⟨rfl, hlast, hstop, -⟩
        · rw [later, hafter] at h
          cases fuel' with
          | zero => rfl
          | succ fuel' =>
            rw [searchAll_of_found hsearch hspan, Findings.ending_pass, later, hafter]
            exact ih (by omega) h fuel'
        · exact endless_of_repeat hsearch hspan hafter (hstop ▸ hlast) fuel'

/-- Every span begins no earlier than the one before ends, and the first one no earlier than at
`position`. -/
def Apart : Nat → List (Nat × Nat) → Prop
  | _, [] => True
  | position, x :: rest => position ≤ x.1 ∧ Apart x.2 rest

theorem apart_iff_pairwise {position : Nat} {spans : List (Nat × Nat)}
    (hle : ∀ x ∈ spans, x.1 ≤ x.2) :
    Apart position spans ↔ (∀ x ∈ spans, position ≤ x.1) ∧ spans.Pairwise fun x y => x.2 ≤ y.1 := by
  induction spans generalizing position with
  | nil => simp [Apart]
  | cons x rest ih =>
    obtain ⟨hx, hrest⟩ := List.forall_mem_cons.mp hle
    rw [Apart, ih hrest, List.forall_mem_cons, List.pairwise_cons, and_assoc]
    constructor
    · rintro ⟨hposition, hnext, hpairs⟩
      exact ⟨hposition, fun y hy => (hposition.trans hx).trans (hnext y hy), hnext, hpairs⟩
    · rintro ⟨hposition, -, hnext, hpairs⟩
      exact ⟨hposition, hnext, hpairs⟩

theorem Spaced.apart {size position : Nat} {spans : List (Nat × Nat)}
    (h : Spaced false size position last spans) : Apart position spans := by
  induction spans generalizing position last with
  | nil => trivial
  | cons x rest ih => exact ⟨h.position_le x List.mem_cons_self, ih h.tail⟩

/-- A search ends if its matches do not overlap. Only a match that begins before the end of the one
before can leave the search where it was. -/
theorem Finds.ending_of_apart (hg : g.Finds behind) {position : Nat}
    (hfuel : c.roundsLeft last ≤ fuel) (hlast : ∀ stop, last = some stop → stop ≤ position)
    (h : Apart position (spans (g.searchAll limit fuel c last).found)) :
    (g.searchAll limit fuel c last).ending ≠ .endless := by
  induction fuel generalizing c last position with
  | zero => exact absurd (c.roundsLeft_pos last) (Nat.not_lt.mpr hfuel)
  | succ fuel ih =>
    have hround := hg.round limit fuel c last
    generalize g.searchAll limit (fuel + 1) c last = all at hround h ⊢
    cases hround with
    | abandoned => decide
    | finished => decide
    | @found found start stop hsearch hspan hle hspans =>
      rw [Findings.ending_pass]
      cases hafter : c.after? start stop with
      | none =>
        simp [later, hafter]
      | some d =>
        rw [later, hafter] at h ⊢
        by_cases hpass : start = stop ∧ last = some stop
        · -- an empty match that is passed over is behind the last one that was reported
          rw [if_pos hpass] at h
          have hnext : ∀ stop', some stop = some stop' → stop' ≤ position := by
            rintro stop' ⟨⟩
            exact hlast stop hpass.2
          rcases hspans.roundsLeft_lt hle hafter last with hless | ⟨-, -, -, hlt⟩
          · exact ih (by omega) hnext h
          · omega
        · rw [if_neg hpass, Findings.found_cons, spans_cons hspan] at h
          obtain ⟨hbegin, hrest⟩ := h
          rcases hspans.roundsLeft_lt hle hafter last with hless | ⟨-, hrepeat, hstop, hlt⟩
          · refine ih (by omega) ?_ hrest
            rintro stop' ⟨⟩
            exact le_rfl
          · have hend := hlast stop (hstop ▸ hrepeat)
            omega

section

variable {s : Text}

theorem roundsLeft_start (s : Text) : (Cursor.start s).roundsLeft none = 2 * (s.length + 1) := rfl

theorem Finds.ending_findAll_of_apart (hg : g.Finds behind)
    (h : Apart 0 (spans (g.findAll limit s).found)) : (g.findAll limit s).ending ≠ .endless :=
  hg.ending_of_apart (roundsLeft_start s).le nofun h

theorem Finds.ending_findAll (hg : g.Finds false) (limit : Nat) (s : Text) :
    (g.findAll limit s).ending ≠ .endless :=
  hg.ending_findAll_of_apart (hg.spaced_findAll limit s).apart

/-- What is said of a search that ends is what its rounds come to, and a search that is said never to
end makes rounds without end. -/
theorem Finds.rounds_findAll_iff (hg : g.Finds behind) {all : Findings} :
    Rounds g limit (.start s) none all ↔
      g.findAll limit s = all ∧ (g.findAll limit s).ending ≠ .endless := by
  constructor
  · intro h
    obtain ⟨⟨fuel, hfuel⟩, hending⟩ := h.exists_searchAll
    have hends : (g.findAll limit s).ending ≠ .endless := by
      intro hendless
      have hall := hg.endless_of_roundsLeft_le (roundsLeft_start s).le hendless fuel
      exact hending (hfuel ▸ hall)
    exact ⟨h.eq_searchAll hends, hends⟩
  · rintro ⟨rfl, hends⟩
    exact hg.rounds hends

end

end Program

end PatternLoom
