import PatternLoom.Proofs.Pattern.MatchOrder
import PatternLoom.Proofs.Text.Succession

/-!
# Searches that take texts one after the other

When every search of a program finds the text that is taken first at or after a place, the search for
all matches takes texts one after the other. A search by backtracking gives up one place after the
other, at the cost of one step each; it is abandoned when the places it has to pass over are more than
its budget.
-/

namespace PatternLoom

set_option autoImplicit false

open Text (Next Successive passed passes)

theorem Cursor.drop_text (c : Cursor) : c.text.drop c.offset = c.ahead := by
  rw [text, offset, ← List.length_reverse, List.drop_left]

theorem Cursor.take_text (c : Cursor) : c.text.take c.offset = c.behind.reverse := by
  rw [text, offset, ← List.length_reverse, List.take_left]

/-- The budget, if there is one, lasts for some number of steps. -/
def within (budget : Option Nat) (steps : Nat) : Bool := budget.all (steps ≤ ·)

theorem within_passed_here (budget : Option Nat) (size start : Nat) (w : Text) :
    within budget (passed size start (some (start, w))) = true := by
  cases budget with
  | none => rfl
  | some budget => simp [within, passed]

namespace Program

variable {g : Program} {limit : Nat} {budget : Option Nat} {s : Text} {takes : Nat → Option Text}
  {found : Nat × Text → Found}

/-- Every search of a program in a subject finds the text that is taken first, unless the budget does
not last for the places that are passed over. What is found has the span of the text for group zero. -/
structure Seeks (g : Program) (limit : Nat) (budget : Option Nat) (s : Text)
    (takes : Nat → Option Text) (found : Nat × Text → Found) : Prop where
  search : ∀ origin c, c.text = s → ∃ next, Next takes s.length c.offset next ∧
    g.search? limit origin c =
      if within budget (passed s.length c.offset next) then some (next.map found) else none
  span : ∀ q w, (found (q, w)).span? 0 = some (q, q + w.length)
  proper : ∀ q w, takes q = some w → w ≠ [] ∧ q + w.length ≤ s.length

/-- The search for all matches takes texts one after the other, if the budget lasts in every round. -/
theorem Seeks.searchAll (hg : g.Seeks limit budget s takes found) {fuel : Nat} {c : Cursor}
    (hs : c.text = s) (hfuel : c.ahead.length < fuel) (last : Option Nat) :
    ∃ spans, Successive takes s.length c.offset spans ∧
      if (passes s.length c.offset spans).all (within budget) then
        g.searchAll limit fuel c last = ⟨spans.map found, .complete⟩
      else (g.searchAll limit fuel c last).ending = .exhausted := by
  induction fuel generalizing c last with
  | zero => exact absurd hfuel (Nat.not_lt_zero _)
  | succ fuel ih =>
    obtain ⟨next, hnext, hsearch⟩ := hg.search (searchOrigin c last) c hs
    cases hnext with
    | missing h =>
      refine ⟨[], .ended (.missing h), ?_⟩
      rw [passes, List.all_cons, List.all_nil, Bool.and_true]
      by_cases hwithin : within budget (passed s.length c.offset none) = true
      · rw [if_pos hwithin] at hsearch ⊢
        exact searchAll_finished hsearch fuel
      · rw [if_neg hwithin] at hsearch ⊢
        rw [searchAll_abandoned hsearch fuel]
    | @found q w hle hsize hbefore hw =>
      obtain ⟨hne, hlength⟩ := hg.proper q w hw
      have hpos := List.length_pos_iff.mpr hne
      -- what is taken has characters, so the next round starts further on
      have hspan : c.Spans false q (q + w.length) := ⟨by omega, by rw [hs]; exact hlength, fun _ => hle⟩
      have hoffset := hspan.offset_forwardTo
      have hafter : c.after? q (q + w.length) = some (c.forwardTo (q + w.length)) :=
        if_neg (by omega)
      have hshorter := hspan.length_ahead_lt (Nat.le_add_right _ _) hafter
      have htext : (c.forwardTo (q + w.length)).text = s := (Cursor.text_forward _ _).trans hs
      obtain ⟨spans, hspans, hrest⟩ := ih htext (by omega) (some (q + w.length))
      rw [hoffset] at hspans hrest
      refine ⟨(q, w) :: spans, .next (.found hle hsize hbefore hw) hspans, ?_⟩
      rw [passes, List.all_cons]
      by_cases hwithin : within budget (passed s.length c.offset (some (q, w))) = true
      · rw [if_pos hwithin] at hsearch
        have hround : g.searchAll limit (fuel + 1) c last =
            (g.searchAll limit fuel (c.forwardTo (q + w.length)) (some (q + w.length))).cons
              (found (q, w)) := by
          rw [searchAll_of_found hsearch (hg.span q w), if_neg (by omega), later, hafter]
        rw [hround, hwithin, Bool.true_and]
        split at hrest
        · rw [if_pos ‹_›, hrest]
          rfl
        · rw [if_neg ‹_›]
          exact hrest
      · rw [if_neg hwithin] at hsearch
        rw [Bool.eq_false_iff.mpr hwithin, Bool.false_and, if_neg Bool.false_ne_true,
          searchAll_abandoned hsearch fuel]

theorem Seeks.findAll (hg : g.Seeks limit budget s takes found) :
    ∃ spans, Successive takes s.length 0 spans ∧
      if (passes s.length 0 spans).all (within budget) then
        g.findAll limit s = ⟨spans.map found, .complete⟩
      else (g.findAll limit s).ending = .exhausted :=
  hg.searchAll (c := Cursor.start s) rfl (show s.length < 2 * (s.length + 1) by omega) none

theorem next_here {c : Cursor} (hs : c.text = s) {w : Text} (hw : takes c.offset = some w) :
    Next takes s.length c.offset (some (c.offset, w)) := by
  have hlength := c.length_text
  rw [hs] at hlength
  exact .here (by omega) hw

theorem next_last {behind : Text} (hs : (Cursor.mk behind []).text = s)
    (hw : takes (Cursor.mk behind []).offset = none) :
    Next takes s.length (Cursor.mk behind []).offset none := by
  have hlength := Cursor.length_text ⟨behind, []⟩
  rw [hs] at hlength
  exact .last (Nat.le_of_eq hlength) hw

theorem text_step {behind ahead : Text} {d : Char} (hs : (Cursor.mk behind (d :: ahead)).text = s) :
    (Cursor.mk (d :: behind) ahead).text = s := by
  rw [← hs]
  simp [Cursor.text]

/-- What the attempts of a one-pass pattern take from a subject. -/
def OnePassTakes (p : Simple) (slots : Slots) (s : Text) (takes : Nat → Option Text)
    (found : Nat × Text → Found) : Prop :=
  ∀ c : Cursor, c.text = s →
    (p.matchAt? c.behind.head? c.offset slots c.ahead none).map (·.slots) =
      (takes c.offset).map fun w => found (c.offset, w)

theorem OnePassTakes.search_here {p : Simple} {slots : Slots}
    (hp : OnePassTakes p slots s takes found) {c : Cursor} (hs : c.text = s) {w : Text}
    (hw : takes c.offset = some w) :
    searchOnePass p slots c.behind c.ahead = some (found (c.offset, w)) := by
  have hhere := hp c hs
  rw [hw, Option.map_some] at hhere
  obtain ⟨hit, hhit, hslots⟩ := Option.map_eq_some_iff.mp hhere
  have hhit' : p.matchAt? c.behind.head? c.behind.length slots c.ahead none = some hit := hhit
  obtain ⟨behind, ahead⟩ := c
  cases ahead with
  | nil => rw [searchOnePass, hhit', Option.map_some, hslots]
  | cons d ahead =>
    rw [searchOnePass, hhit']
    exact congrArg some hslots

theorem OnePassTakes.matchAt?_eq_none {p : Simple} {slots : Slots}
    (hp : OnePassTakes p slots s takes found) {c : Cursor} (hs : c.text = s)
    (hw : takes c.offset = none) :
    p.matchAt? c.behind.head? c.behind.length slots c.ahead none = none := by
  have hhere := hp c hs
  rw [hw, Option.map_none, Option.map_eq_none_iff] at hhere
  exact hhere

/-- A one-pass pattern is tried at one place after the other, without a budget. -/
theorem OnePassTakes.exists_next {p : Simple} {slots : Slots}
    (hp : OnePassTakes p slots s takes found) (c : Cursor) (hs : c.text = s) :
    ∃ next, Next takes s.length c.offset next ∧
      searchOnePass p slots c.behind c.ahead = next.map found := by
  obtain ⟨behind, ahead⟩ := c
  induction ahead generalizing behind with
  | nil =>
    cases hw : takes (Cursor.mk behind []).offset with
    | none =>
      refine ⟨none, next_last hs hw, ?_⟩
      rw [searchOnePass, hp.matchAt?_eq_none hs hw]
      rfl
    | some w => exact ⟨_, next_here hs hw, hp.search_here hs hw⟩
  | cons d ahead ih =>
    cases hw : takes (Cursor.mk behind (d :: ahead)).offset with
    | none =>
      obtain ⟨next, hnext, hsearch⟩ := ih (d :: behind) (text_step hs)
      refine ⟨next, Next.later hnext hw, ?_⟩
      rw [searchOnePass, hp.matchAt?_eq_none hs hw]
      exact hsearch
    | some w => exact ⟨_, next_here hs hw, hp.search_here hs hw⟩

/-- What the attempts of a plan take from a subject. They cost nothing by themselves. -/
structure PlanTakes (p : Plan) (slots : Slots) (origin : Option Nat) (s : Text)
    (takes : Nat → Option Text) (found : Nat × Text → Found) : Prop where
  taken : ∀ (c : Cursor) (budget : Nat) (w : Text), c.text = s → takes c.offset = some w →
    ∃ st, p.run Plan.done ⟨c, slots, origin⟩ budget = .matched st budget ∧
      clampStart st.slots = found (c.offset, w)
  missed : ∀ (c : Cursor) (budget : Nat), c.text = s → takes c.offset = none →
    p.run Plan.done ⟨c, slots, origin⟩ budget = .failed budget

theorem PlanTakes.search_here {p : Plan} {slots : Slots} {origin : Option Nat}
    (hp : PlanTakes p slots origin s takes found) {c : Cursor} (hs : c.text = s) {w : Text}
    (hw : takes c.offset = some w) (budget : Nat) :
    searchPlan p slots origin budget c.behind c.ahead =
      if within (some budget) (passed s.length c.offset (some (c.offset, w))) then
        some (some (found (c.offset, w)))
      else none := by
  obtain ⟨st, hrun, hfound⟩ := hp.taken c budget w hs hw
  rw [within_passed_here, if_pos rfl]
  obtain ⟨behind, ahead⟩ := c
  cases ahead with
  | nil => rw [searchPlan, hrun, ← hfound]
  | cons d ahead => rw [searchPlan, hrun, ← hfound]

/-- A plan is tried at one place after the other, until the budget is used up. -/
theorem PlanTakes.exists_next {p : Plan} {slots : Slots} {origin : Option Nat}
    (hp : PlanTakes p slots origin s takes found) (c : Cursor) (budget : Nat) (hs : c.text = s) :
    ∃ next, Next takes s.length c.offset next ∧
      searchPlan p slots origin budget c.behind c.ahead =
        if within (some budget) (passed s.length c.offset next) then some (next.map found)
        else none := by
  obtain ⟨behind, ahead⟩ := c
  induction ahead generalizing behind budget with
  | nil =>
    cases hw : takes (Cursor.mk behind []).offset with
    | none =>
      have hlength := Cursor.length_text ⟨behind, []⟩
      rw [hs] at hlength
      have hpassed : passed s.length (Cursor.mk behind []).offset none = 1 := by
        simp only [passed, hlength, List.length_nil]
        omega
      refine ⟨none, next_last hs hw, ?_⟩
      rw [searchPlan, hp.missed _ budget hs hw, hpassed]
      cases budget <;> rfl
    | some w => exact ⟨_, next_here hs hw, hp.search_here hs hw budget⟩
  | cons d ahead ih =>
    cases hw : takes (Cursor.mk behind (d :: ahead)).offset with
    | none =>
      have hlength := Cursor.length_text ⟨behind, d :: ahead⟩
      rw [hs] at hlength
      -- what is found further on does not depend on the budget
      obtain ⟨next, hnext, hsearch⟩ := ih (budget - 1) (d :: behind) (text_step hs)
      have hpassed : passed s.length (Cursor.mk behind (d :: ahead)).offset next =
          passed s.length (Cursor.mk (d :: behind) ahead).offset next + 1 :=
        Next.passed_succ hnext (by omega)
      refine ⟨next, Next.later hnext hw, ?_⟩
      rw [searchPlan, hp.missed _ budget hs hw, hpassed]
      cases budget with
      | zero => simp [within]
      | succ budget =>
        simp only [within, Option.all_some, Nat.add_le_add_iff_right]
        exact hsearch
    | some w => exact ⟨_, next_here hs hw, hp.search_here hs hw budget⟩

theorem seeks_of_onePass {p : Simple} (hm : g.matcher = .onePass p)
    (hp : OnePassTakes p (Slots.unset g.groups) s takes found)
    (hspan : ∀ q w, (found (q, w)).span? 0 = some (q, q + w.length))
    (hproper : ∀ q w, takes q = some w → w ≠ [] ∧ q + w.length ≤ s.length) (limit : Nat) :
    g.Seeks limit none s takes found where
  search origin c hs := by
    obtain ⟨next, hnext, hsearch⟩ := hp.exists_next c hs
    refine ⟨next, hnext, ?_⟩
    rw [search?, hm]
    exact congrArg some hsearch
  span := hspan
  proper := hproper

theorem seeks_of_plan {p : Plan} (hm : g.matcher = .backtracking p)
    (hp : ∀ origin, PlanTakes p (Slots.unset g.groups) origin s takes found)
    (hspan : ∀ q w, (found (q, w)).span? 0 = some (q, q + w.length))
    (hproper : ∀ q w, takes q = some w → w ≠ [] ∧ q + w.length ≤ s.length) (limit : Nat) :
    g.Seeks limit (some limit) s takes found where
  search origin c hs := by
    obtain ⟨next, hnext, hsearch⟩ := (hp origin).exists_next c limit hs
    refine ⟨next, hnext, ?_⟩
    rw [search?, hm]
    exact hsearch
  span := hspan
  proper := hproper

end Program

end PatternLoom
