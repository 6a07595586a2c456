import PatternLoom.Proofs.Pattern.MatchOrder

/-!
# More steps to spend

The budget of an attempt decides only when the attempt is abandoned. With more steps to spend, an
attempt that has come to an end comes to the same end, and as many more steps are left. Searches pass
on what is left, so a search that is not abandoned finds the same with any larger limit.
-/

namespace PatternLoom

set_option autoImplicit false

namespace Plan

/-- The second outcome is the first with `extra` more steps left. Of an attempt that was abandoned
nothing is known. -/
inductive Outcome.Spares (extra : Nat) : Outcome → Outcome → Prop where
  | matched {st : State} {budget : Nat} :
      Spares extra (.matched st budget) (.matched st (budget + extra))
  | failed {budget : Nat} : Spares extra (.failed budget) (.failed (budget + extra))
  | exhausted {outcome : Outcome} : Spares extra .exhausted outcome

/-- How an attempt goes on after a part of it has ended: at once after a match, and after a failure at
the cost of one step. -/
def Outcome.resume (won : State → Nat → Outcome) (lost : Nat → Outcome) : Outcome → Outcome
  | .matched st budget => won st budget
  | .failed 0 => .exhausted
  | .failed (budget + 1) => lost budget
  | .exhausted => .exhausted

theorem Outcome.Spares.resume {extra : Nat} {x y : Outcome} (h : x.Spares extra y)
    {won : State → Nat → Outcome} {lost : Nat → Outcome}
    (hwon : ∀ st budget, (won st budget).Spares extra (won st (budget + extra)))
    (hlost : ∀ budget, (lost budget).Spares extra (lost (budget + extra))) :
    (x.resume won lost).Spares extra (y.resume won lost) := by
  cases h with
  | @matched st budget => exact hwon st budget
  | @failed budget =>
    cases budget with
    | zero => exact .exhausted
    | succ budget =>
      rw [Nat.succ_add]
      exact hlost budget
  | exhausted => exact .exhausted

theorem orElse_eq_resume (first second : Goal) (st : State) (budget : Nat) :
    orElse first second st budget = (first st budget).resume .matched (second st) := by
  unfold orElse
  cases first st budget with
  | matched => rfl
  | failed rest => cases rest <;> rfl
  | exhausted => rfl

theorem condition_false (body : Goal → Goal) (k : Goal) (st : State) (budget : Nat) :
    condition false body k st budget =
      (body done st budget).resume (fun _ budget => .failed budget) (k st) := by
  unfold condition
  cases body done st budget with
  | matched => rfl
  | failed rest => cases rest <;> rfl
  | exhausted => rfl

/-- Steps that are given in addition are left over in the end. -/
def Frugal (k : Goal) : Prop :=
  ∀ st budget extra, (k st budget).Spares extra (k st (budget + extra))

/-- A body that is frugal as long as what comes after it is. -/
def FrugalBody (body : Goal → Goal) : Prop := ∀ {k : Goal}, Frugal k → Frugal (body k)

theorem frugal_done : Frugal done := fun _ _ _ => .matched

theorem frugal_failed : Frugal fun _ budget => .failed budget := fun _ _ _ => .failed

namespace Frugal

variable {k first second : Goal} {body : Goal → Goal}

theorem orElse (hfirst : Frugal first) (hsecond : Frugal second) :
    Frugal (orElse first second) := by
  intro st budget extra
  rw [orElse_eq_resume, orElse_eq_resume]
  apply (hfirst st budget extra).resume
  · exact fun _ _ => .matched
  · exact fun rest => hsecond st rest extra

theorem prefer (greedy : Bool) (hfirst : Frugal first) (hsecond : Frugal second) :
    Frugal (prefer greedy first second) := by
  unfold Plan.prefer
  split
  · exact hfirst.orElse hsecond
  · exact hsecond.orElse hfirst

theorem exactly (hbody : FrugalBody body) (n : Nat) (hk : Frugal k) : Frugal (exactly body n k) := by
  induction n with
  | zero => exact hk
  | succ n ih => exact hbody ih

theorem atMost (greedy : Bool) (hbody : FrugalBody body) (n : Nat) (hk : Frugal k) :
    Frugal (atMost greedy body n k) := by
  induction n with
  | zero => exact hk
  | succ n ih => exact (hbody ih).prefer greedy hk

theorem anyNumber (greedy : Bool) (hbody : FrugalBody body) (fuel : Nat) (hk : Frugal k) :
    Frugal (anyNumber greedy body fuel k) := by
  induction fuel with
  | zero => exact frugal_failed
  | succ fuel ih =>
    intro st budget extra
    refine Frugal.prefer greedy (hbody ?_) hk st budget extra
    intro st' budget extra
    dsimp only
    split
    · exact .failed
    · exact ih st' budget extra

theorem condition (positive : Bool) (hbody : FrugalBody body) (hk : Frugal k) :
    Frugal (condition positive body k) := by
  intro st budget extra
  cases positive with
  | true =>
    refine hbody ?_ st budget extra
    exact fun st' budget extra => hk { st with slots := st'.slots } budget extra
  | false =>
    rw [condition_false, condition_false]
    apply (hbody frugal_done st budget extra).resume
    · exact fun _ _ => .failed
    · exact fun rest => hk st rest extra

theorem atomic (hbody : FrugalBody body) (hk : Frugal k) :
    Frugal fun st budget =>
      match body done st budget with
      | .matched st budget => k st budget
      | outcome => outcome := by
  intro st budget extra
  have h := hbody frugal_done st budget extra
  dsimp only
  generalize body done st budget = x at h ⊢
  generalize body done st (budget + extra) = y at h ⊢
  cases h with
  | @matched st' rest => exact hk st' rest extra
  | failed => exact .failed
  | exhausted => exact .exhausted

theorem choose (hbody : FrugalBody body) (hfirst : Frugal first) (hsecond : Frugal second) :
    Frugal fun st budget =>
      match body done st budget with
      | .matched st budget => first st budget
      | .failed 0 => .exhausted
      | .failed (budget + 1) => second st budget
      | .exhausted => .exhausted := by
  intro st budget extra
  have h := (hbody frugal_done st budget extra).resume (fun st' rest => hfirst st' rest extra)
    fun rest => hsecond st rest extra
  exact h

/-- A look at the state, which either fails or moves on to another one. -/
theorem step (next? : State → Option State) (hk : Frugal k) :
    Frugal fun st budget =>
      match next? st with
      | some st => k st budget
      | none => .failed budget := by
  intro st budget extra
  dsimp only
  cases next? st with
  | some st' => exact hk st' budget extra
  | none => exact .failed

theorem guarded (test : State → Bool) (hk : Frugal k) :
    Frugal fun st budget => if test st then k st budget else .failed budget := by
  intro st budget extra
  dsimp only
  split
  · exact hk st budget extra
  · exact .failed

end Frugal

/-- Every plan is frugal. The induction is on the plan; what remains to be matched is arbitrary. -/
theorem frugalBody_run (p : Plan) : FrugalBody p.run := by
  induction p with
  | empty => exact fun hk => hk
  | scan p => exact fun hk => hk.step (scanFrom? p)
  | chars s =>
    intro k hk st budget extra
    simp only [run]
    split
    · exact .failed
    · split
      · exact hk _ budget extra
      · exact .failed
  | anchor a => exact fun hk => hk.guarded fun st => a.holds st.cursor.site
  | seq p q ihp ihq => exact fun hk => ihp (ihq hk)
  | alt p q ihp ihq => exact fun hk => (ihp hk).orElse (ihq hk)
  | capture g p ih =>
    intro k hk st budget extra
    refine ih ?_ { st with slots := st.slots.openAt g st.cursor.offset } budget extra
    exact fun st' budget extra =>
      hk { st' with slots := st'.slots.closeAt g st'.cursor.offset } budget extra
  | optional greedy p ih => exact fun hk => (ih hk).prefer greedy hk
  | counted lo more greedy p ih => exact fun hk => .exactly ih lo (.atMost greedy ih more hk)
  | unbounded lo greedy p ih =>
    intro k hk
    refine .exactly ih lo ?_
    intro st budget extra
    exact Frugal.anyNumber greedy ih (st.cursor.ahead.length + 1) hk st budget extra
  | ahead positive p ih => exact fun hk => .condition positive ih hk
  | behind positive width p ih =>
    intro k hk
    refine .condition positive ?_ hk
    intro k hk st budget extra
    dsimp only
    split
    · exact ih hk _ budget extra
    · exact .failed
  | behindScan positive p =>
    exact fun hk => .condition positive (fun hk => hk.step (scanBehind? p)) hk
  | atomic p ih => exact fun hk => .atomic ih hk
  | backref g anyCase =>
    intro k hk st budget extra
    simp only [run]
    split
    · exact .failed
    · split
      · exact hk _ budget extra
      · exact .failed
  | groupSet g => exact fun hk => hk.guarded fun st => (st.slots.span? g).isSome
  | choose c p q ihc ihp ihq => exact fun hk => .choose ihc (ihp hk) (ihq hk)
  | keepOut => exact fun hk st => hk { st with slots := st.slots.openAt 0 st.cursor.offset }
  | searchStart =>
    intro k hk st budget extra
    simp only [run]
    split
    · exact hk st budget extra
    · exact .failed

end Plan

namespace Program

variable {g : Program} {limit limit' : Nat}

/-- What the end of an attempt means for a search: a match ends it, and a failure costs one more step
and lets it go on. -/
def judge (next : Nat → Option SearchResult) : Plan.Outcome → Option SearchResult
  | .matched st _ => some (some (clampStart st.slots))
  | .failed 0 => none
  | .failed (budget + 1) => next budget
  | .exhausted => none

section

variable {p : Plan} {slots : Slots} {origin : Option Nat} {behind ahead : Text} {r : SearchResult}

theorem searchPlan_nil (budget : Nat) :
    searchPlan p slots origin budget behind [] =
      judge (fun _ => some none) (p.run Plan.done ⟨⟨behind, []⟩, slots, origin⟩ budget) := by
  unfold searchPlan judge
  rfl

theorem searchPlan_cons (c : Char) (budget : Nat) :
    searchPlan p slots origin budget behind (c :: ahead) =
      judge (fun budget => searchPlan p slots origin budget (c :: behind) ahead)
        (p.run Plan.done ⟨⟨behind, c :: ahead⟩, slots, origin⟩ budget) := by
  conv_lhs => unfold searchPlan
  unfold judge
  rfl

theorem judge_of_spares {x y : Plan.Outcome} {extra : Nat} (hxy : x.Spares extra y)
    {next : Nat → Option SearchResult}
    (hnext : ∀ budget, next budget = some r → next (budget + extra) = some r)
    (h : judge next x = some r) : judge next y = some r := by
  cases hxy with
  | matched => exact h
  | @failed rest =>
    cases rest with
    | zero => cases h
    | succ rest =>
      rw [Nat.succ_add]
      exact hnext rest h
  | exhausted => cases h

theorem searchPlan_of_add {budget : Nat} (h : searchPlan p slots origin budget behind ahead = some r)
    (extra : Nat) : searchPlan p slots origin (budget + extra) behind ahead = some r := by
  have hplace (c : Cursor) (budget : Nat) :=
    p.frugalBody_run Plan.frugal_done ⟨c, slots, origin⟩ budget extra
  induction ahead generalizing behind budget with
  | nil =>
    rw [searchPlan_nil] at h ⊢
    exact judge_of_spares (hplace _ budget) (fun _ hend => hend) h
  | cons c ahead ih =>
    rw [searchPlan_cons] at h ⊢
    exact judge_of_spares (hplace _ budget) (fun _ hlater => ih hlater) h

end

theorem search?_of_le (hle : limit ≤ limit') {origin : Option Nat} {c : Cursor} {r : SearchResult}
    (h : g.search? limit origin c = some r) : g.search? limit' origin c = some r := by
  obtain ⟨extra, rfl⟩ := Nat.exists_eq_add_of_le hle
  unfold search? at h ⊢
  split at h
  · exact h
  · exact searchPlan_of_add h extra

/-- With a larger limit a search for all matches finds the same, unless it has been abandoned; then it
finds the same matches first. -/
theorem searchAll_of_le (hle : limit ≤ limit') (fuel : Nat) (c : Cursor) (last : Option Nat) :
    g.searchAll limit fuel c last = g.searchAll limit' fuel c last ∨
      (g.searchAll limit fuel c last).ending = .exhausted ∧
        (g.searchAll limit fuel c last).found <+: (g.searchAll limit' fuel c last).found := by
  induction fuel generalizing c last with
  | zero => exact Or.inl rfl
  | succ fuel ih =>
    rcases hsearch : g.search? limit (searchOrigin c last) c with _ | _ | found
    · rw [searchAll_abandoned hsearch]
      exact Or.inr ⟨rfl, List.nil_prefix⟩
    · rw [searchAll_finished hsearch, searchAll_finished (search?_of_le hle hsearch)]
      exact Or.inl rfl
    · have hsearch' := search?_of_le hle hsearch
      cases hspan : found.span? 0 with
      | none =>
        rw [searchAll, searchAll, hsearch, hsearch']
        simp only [hspan]
        exact Or.inl trivial
      | some x =>
        obtain ⟨start, stop⟩ := x
        -- the search goes on behind the match, where the induction hypothesis applies
        have hlater : g.later limit fuel c start stop = g.later limit' fuel c start stop ∨
            (g.later limit fuel c start stop).ending = .exhausted ∧
              (g.later limit fuel c start stop).found <+:
                (g.later limit' fuel c start stop).found := by
          rw [later, later]
          cases c.after? start stop with
          | none => exact Or.inl rfl
          | some d => exact ih d (some stop)
        rw [searchAll_of_found hsearch hspan, searchAll_of_found hsearch' hspan]
        rcases hlater with heq | ⟨hending, hfront⟩
        · exact Or.inl (by rw [heq])
        · apply Or.inr
          by_cases hpass : start = stop ∧ last = some stop
          · rw [if_pos hpass, if_pos hpass]
            exact ⟨hending, hfront⟩
          · rw [if_neg hpass, if_neg hpass]
            exact ⟨hending, List.cons_prefix_cons.mpr ⟨rfl, hfront⟩⟩

theorem find?_of_le (hle : limit ≤ limit') {s : Text} {r : SearchResult}
    (h : g.find? limit s = some r) : g.find? limit' s = some r :=
  search?_of_le hle h

theorem findAll_of_le (hle : limit ≤ limit') (s : Text) :
    g.findAll limit s = g.findAll limit' s ∨ (g.findAll limit s).ending = .exhausted ∧
      (g.findAll limit s).found <+: (g.findAll limit' s).found :=
  searchAll_of_le hle _ _ _

end Program

end PatternLoom
