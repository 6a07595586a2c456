import PatternLoom.Pattern.Backtrack

/-!
# Walks of plans

A walk leads a plan from one state to another. The relation knows nothing of preference and of the
budget, and a condition that must not hold is taken at the word of an attempt that failed. An attempt
that ends in a match has made a walk and then reached its goal, whatever that goal is.
-/

namespace PatternLoom.Plan

set_option autoImplicit false

/-- A plan leads from one state to another. -/
inductive Walk : Plan → State → State → Prop where
  | empty {s : State} : Walk .empty s s
  | scan {p : Simple} {s t : State} (h : scanFrom? p s = some t) : Walk (.scan p) s t
  | chars {m : CharClass} {s : State} {c : Char} {rest : Text} (hs : s.cursor.ahead = c :: rest)
      (hc : m.contains c = true) :
      Walk (.chars m) s { s with cursor := ⟨c :: s.cursor.behind, rest⟩ }
  | anchor {a : Anchor} {s : State} (h : a.holds s.cursor.site = true) : Walk (.anchor a) s s
  | seq {p q : Plan} {s t u : State} (hp : Walk p s t) (hq : Walk q t u) : Walk (.seq p q) s u
  | left {p q : Plan} {s t : State} (h : Walk p s t) : Walk (.alt p q) s t
  | right {p q : Plan} {s t : State} (h : Walk q s t) : Walk (.alt p q) s t
  | capture {g : Nat} {p : Plan} {s t : State}
      (h : Walk p { s with slots := s.slots.openAt g s.cursor.offset } t) :
      Walk (.capture g p) s { t with slots := t.slots.closeAt g t.cursor.offset }
  | without {greedy : Bool} {p : Plan} {s : State} : Walk (.optional greedy p) s s
  | once {greedy : Bool} {p : Plan} {s t : State} (h : Walk p s t) : Walk (.optional greedy p) s t
  | countedEnough {more : Nat} {greedy : Bool} {p : Plan} {s : State} :
      Walk (.counted 0 more greedy p) s s
  | countedMust {lo more : Nat} {greedy : Bool} {p : Plan} {s t u : State} (h : Walk p s t)
      (hrest : Walk (.counted lo more greedy p) t u) : Walk (.counted (lo + 1) more greedy p) s u
  | countedMore {more : Nat} {greedy : Bool} {p : Plan} {s t u : State} (h : Walk p s t)
      (hrest : Walk (.counted 0 more greedy p) t u) : Walk (.counted 0 (more + 1) greedy p) s u
  | unboundedEnough {greedy : Bool} {p : Plan} {s : State} : Walk (.unbounded 0 greedy p) s s
  | unboundedMust {lo : Nat} {greedy : Bool} {p : Plan} {s t u : State} (h : Walk p s t)
      (hrest : Walk (.unbounded lo greedy p) t u) : Walk (.unbounded (lo + 1) greedy p) s u
  | unboundedMore {greedy : Bool} {p : Plan} {s t u : State} (h : Walk p s t)
      (hne : t.cursor.offset ≠ s.cursor.offset) (hrest : Walk (.unbounded 0 greedy p) t u) :
      Walk (.unbounded 0 greedy p) s u
  | ahead {p : Plan} {s t : State} (h : Walk p s t) : Walk (.ahead true p) s { s with slots := t.slots }
  | aheadNot {p : Plan} {s : State} {budget rest : Nat} (h : p.run done s budget = .failed rest) :
      Walk (.ahead false p) s s
  | behind {width : Nat} {p : Plan} {s t : State} {c : Cursor}
      (hc : s.cursor.backward? width = some c) (h : Walk p { s with cursor := c } t) :
      Walk (.behind true width p) s { s with slots := t.slots }
  | behindNot {width : Nat} {p : Plan} {s : State}
      (h : ∀ c, s.cursor.backward? width = some c →
        ∃ budget rest, p.run done { s with cursor := c } budget = .failed rest) :
      Walk (.behind false width p) s s
  | behindScan {p : Simple} {s t : State} (h : scanBehind? p s = some t) :
      Walk (.behindScan true p) s { s with slots := t.slots }
  | behindScanNot {p : Simple} {s : State} (h : scanBehind? p s = none) :
      Walk (.behindScan false p) s s
  | atomic {p : Plan} {s t : State} (h : Walk p s t) : Walk (.atomic p) s t
  | backref {g : Nat} {anyCase : Bool} {s : State} {start stop n : Nat}
      (hspan : s.slots.span? g = some (start, stop))
      (hn : repetition? anyCase (Text.slice s.cursor.text start stop) s.cursor.ahead = some n) :
      Walk (.backref g anyCase) s { s with cursor := s.cursor.forward n }
  | groupSet {g : Nat} {s : State} (h : (s.slots.span? g).isSome = true) : Walk (.groupSet g) s s
  | yes {c p q : Plan} {s t u : State} (hc : Walk c s t) (h : Walk p t u) : Walk (.choose c p q) s u
  | no {c p q : Plan} {s u : State} {budget rest : Nat} (hc : c.run done s budget = .failed rest)
      (h : Walk q s u) : Walk (.choose c p q) s u
  | keepOut {s : State} :
      Walk .keepOut s { s with slots := s.slots.openAt 0 s.cursor.offset }
  | searchStart {s : State} (h : s.origin = some s.cursor.offset) : Walk .searchStart s s

/-- An attempt at a body followed by a goal matches only by way of a step and then the goal. -/
def Sound (body : Goal → Goal) (R : State → State → Prop) : Prop :=
  ∀ {k : Goal} {s s' : State} {b b' : Nat}, body k s b = .matched s' b' →
    ∃ t b₁, R s t ∧ k t b₁ = .matched s' b'

theorem matched_of_orElse {first second : Goal} {s s' : State} {b b' : Nat}
    (h : orElse first second s b = .matched s' b') :
    first s b = .matched s' b' ∨ ∃ b₁, second s b₁ = .matched s' b' := by
  unfold orElse at h
  split at h
  · cases h
  · exact Or.inr ⟨_, h⟩
  · exact Or.inl h

theorem matched_of_prefer {greedy : Bool} {more enough : Goal} {s s' : State} {b b' : Nat}
    (h : prefer greedy more enough s b = .matched s' b') :
    (∃ b₁, more s b₁ = .matched s' b') ∨ ∃ b₁, enough s b₁ = .matched s' b' := by
  unfold prefer at h
  split at h
  · rcases matched_of_orElse h with h | h
    · exact Or.inl ⟨b, h⟩
    · exact Or.inr h
  · rcases matched_of_orElse h with h | h
    · exact Or.inr ⟨b, h⟩
    · exact Or.inl h

theorem matched_of_condition {body : Goal → Goal} {k : Goal} {s s' : State} {b b' : Nat}
    (h : condition false body k s b = .matched s' b') :
    (∃ rest, body done s b = .failed rest) ∧ ∃ b₁, k s b₁ = .matched s' b' := by
  simp only [condition, Bool.false_eq_true, if_false] at h
  split at h
  · cases h
  · cases h
  · rename_i rest hfailed
    exact ⟨⟨_, hfailed⟩, rest, h⟩
  · cases h

theorem Sound.condition {body : Goal → Goal} {R : State → State → Prop} (hbody : Sound body R)
    {k : Goal} {s s' : State} {b b' : Nat} (h : condition true body k s b = .matched s' b') :
    ∃ t b₁, R s t ∧ k { s with slots := t.slots } b₁ = .matched s' b' :=
  hbody h

theorem Sound.done {body : Goal → Goal} {R : State → State → Prop} (hbody : Sound body R)
    {s s' : State} {b b' : Nat} (h : body done s b = .matched s' b') : R s s' := by
  obtain ⟨t, b₁, ht, hdone⟩ := hbody h
  cases hdone
  exact ht

section

variable {p : Plan} {k : Goal} {s s' : State} {b b' : Nat}

theorem sound_counted (hp : Sound p.run p.Walk) (lo more : Nat) (greedy : Bool) :
    Sound (Plan.counted lo more greedy p).run (Plan.counted lo more greedy p).Walk := by
  intro k s s' b b' h
  rw [run] at h
  induction lo generalizing s b with
  | zero =>
    rw [exactly] at h
    induction more generalizing s b with
    | zero => exact ⟨s, b, .countedEnough, h⟩
    | succ more ih =>
      rcases matched_of_prefer h with ⟨b₁, h⟩ | ⟨b₁, h⟩
      · obtain ⟨t, b₂, hwalk, h⟩ := hp h
        obtain ⟨u, b₃, hrest, h⟩ := ih h
        exact ⟨u, b₃, .countedMore hwalk hrest, h⟩
      · exact ⟨s, b₁, .countedEnough, h⟩
  | succ lo ih =>
    obtain ⟨t, b₁, hwalk, h⟩ := hp h
    obtain ⟨u, b₂, hrest, h⟩ := ih h
    exact ⟨u, b₂, .countedMust hwalk hrest, h⟩

theorem sound_unbounded (hp : Sound p.run p.Walk) (lo : Nat) (greedy : Bool) :
    Sound (Plan.unbounded lo greedy p).run (Plan.unbounded lo greedy p).Walk := by
  intro k s s' b b' h
  rw [run] at h
  induction lo generalizing s b with
  | zero =>
    rw [exactly] at h
    generalize s.cursor.ahead.length + 1 = fuel at h
    induction fuel generalizing s b with
    | zero => cases h
    | succ fuel ih =>
      rcases matched_of_prefer h with ⟨b₁, h⟩ | ⟨b₁, h⟩
      · obtain ⟨t, b₂, hwalk, h⟩ := hp h
        -- a repetition that has consumed nothing is refused
        split at h
        · cases h
        · rename_i hne
          obtain ⟨u, b₃, hrest, h⟩ := ih h
          exact ⟨u, b₃, .unboundedMore hwalk hne hrest, h⟩
      · exact ⟨s, b₁, .unboundedEnough, h⟩
  | succ lo ih =>
    obtain ⟨t, b₁, hwalk, h⟩ := hp h
    obtain ⟨u, b₂, hrest, h⟩ := ih h
    exact ⟨u, b₂, .unboundedMust hwalk hrest, h⟩

theorem sound_ahead (hp : Sound p.run p.Walk) (positive : Bool) :
    Sound (Plan.ahead positive p).run (Plan.ahead positive p).Walk := by
  intro k s s' b b' h
  rw [run] at h
  cases positive with
  | true =>
    obtain ⟨t, b₁, hwalk, h⟩ := hp.condition h
    exact ⟨_, b₁, .ahead hwalk, h⟩
  | false =>
    obtain ⟨⟨rest, hfailed⟩, b₁, h⟩ := matched_of_condition h
    exact ⟨s, b₁, .aheadNot hfailed, h⟩

theorem sound_behind (hp : Sound p.run p.Walk) (positive : Bool) (width : Nat) :
    Sound (Plan.behind positive width p).run (Plan.behind positive width p).Walk := by
  intro k s s' b b' h
  rw [run] at h
  cases positive with
  | true =>
    simp only [condition, if_true] at h
    split at h
    · rename_i c hc
      obtain ⟨t, b₁, hwalk, h⟩ := hp h
      exact ⟨_, b₁, .behind hc hwalk, h⟩
    · cases h
  | false =>
    obtain ⟨⟨rest, hfailed⟩, b₁, h⟩ := matched_of_condition h
    refine ⟨s, b₁, .behindNot ?_, h⟩
    intro c hc
    simp only [hc] at hfailed
    exact ⟨b, rest, hfailed⟩

theorem sound_behindScan (positive : Bool) (p : Simple) :
    Sound (Plan.behindScan positive p).run (Plan.behindScan positive p).Walk := by
  intro k s s' b b' h
  rw [run] at h
  cases positive with
  | true =>
    simp only [condition, if_true] at h
    split at h
    · rename_i t ht
      exact ⟨_, b, .behindScan ht, h⟩
    · cases h
  | false =>
    obtain ⟨⟨rest, hfailed⟩, b₁, h⟩ := matched_of_condition h
    refine ⟨s, b₁, .behindScanNot ?_, h⟩
    split at hfailed
    · cases hfailed
    · assumption

theorem sound_choose {c q : Plan} (hc : Sound c.run c.Walk) (hp : Sound p.run p.Walk)
    (hq : Sound q.run q.Walk) : Sound (Plan.choose c p q).run (Plan.choose c p q).Walk := by
  intro k s s' b b' h
  simp only [run] at h
  split at h
  · rename_i t b₁ hcond
    obtain ⟨u, b₂, hwalk, h⟩ := hp h
    exact ⟨u, b₂, .yes (hc.done hcond) hwalk, h⟩
  · cases h
  · rename_i b₁ hfailed
    obtain ⟨u, b₂, hwalk, h⟩ := hq h
    exact ⟨u, b₂, .no hfailed hwalk, h⟩
  · cases h

end

/-- An attempt at a plan matches only by way of a walk. -/
theorem sound_run (p : Plan) : Sound p.run p.Walk := by
  induction p with
  | empty => exact fun h => ⟨_, _, .empty, h⟩
  | scan p =>
    intro k s s' b b' h
    simp only [run] at h
    split at h
    · rename_i t ht
      exact ⟨t, b, .scan ht, h⟩
    · cases h
  | chars m =>
    intro k s s' b b' h
    simp only [run] at h
    split at h
    · cases h
    · rename_i c rest hs
      split at h
      · rename_i hc
        exact ⟨_, b, .chars hs hc, h⟩
      · cases h
  | anchor a =>
    intro k s s' b b' h
    simp only [run] at h
    split at h
    · rename_i ha
      exact ⟨s, b, .anchor ha, h⟩
    · cases h
  | seq p q ihp ihq =>
    intro k s s' b b' h
    obtain ⟨t, b₁, hp, h⟩ := ihp h
    obtain ⟨u, b₂, hq, h⟩ := ihq h
    exact ⟨u, b₂, .seq hp hq, h⟩
  | alt p q ihp ihq =>
    intro k s s' b b' h
    rcases matched_of_orElse h with h | ⟨b₁, h⟩
    · obtain ⟨t, b₁, hp, h⟩ := ihp h
      exact ⟨t, b₁, .left hp, h⟩
    · obtain ⟨t, b₂, hq, h⟩ := ihq h
      exact ⟨t, b₂, .right hq, h⟩
  | capture g p ih =>
    intro k s s' b b' h
    obtain ⟨t, b₁, hp, h⟩ := ih h
    exact ⟨_, b₁, .capture hp, h⟩
  | optional greedy p ih =>
    intro k s s' b b' h
    rcases matched_of_prefer h with ⟨b₁, h⟩ | ⟨b₁, h⟩
    · obtain ⟨t, b₂, hp, h⟩ := ih h
      exact ⟨t, b₂, .once hp, h⟩
    · exact ⟨s, b₁, .without, h⟩
  | counted lo more greedy p ih => exact sound_counted ih lo more greedy
  | unbounded lo greedy p ih => exact sound_unbounded ih lo greedy
  | ahead positive p ih => exact sound_ahead ih positive
  | behind positive width p ih => exact sound_behind ih positive width
  | behindScan positive p => exact sound_behindScan positive p
  | atomic p ih =>
    intro k s s' b b' h
    simp only [run] at h
    split at h
    · rename_i t b₁ ht
      exact ⟨t, b₁, .atomic (ih.done ht), h⟩
    · rename_i hne
      exact absurd h (hne s' b')
  | backref g anyCase =>
    intro k s s' b b' h
    simp only [run] at h
    split at h
    · cases h
    · rename_i start stop hspan
      split at h
      · rename_i n hn
        exact ⟨_, b, .backref hspan hn, h⟩
      · cases h
  | groupSet g =>
    intro k s s' b b' h
    simp only [run] at h
    split at h
    · rename_i hset
      exact ⟨s, b, .groupSet hset, h⟩
    · cases h
  | choose c p q ihc ihp ihq => exact sound_choose ihc ihp ihq
  | keepOut => exact fun h => ⟨_, _, .keepOut, h⟩
  | searchStart =>
    intro k s s' b b' h
    simp only [run] at h
    split at h
    · rename_i horigin
      exact ⟨s, b, .searchStart horigin, h⟩
    · cases h

theorem walk_of_run {p : Plan} {s t : State} {b b' : Nat} (h : p.run done s b = .matched t b') :
    p.Walk s t := by
  obtain ⟨u, b₁, hwalk, hdone⟩ := sound_run p h
  cases hdone
  exact hwalk

end PatternLoom.Plan
