import PatternLoom.Proofs.Pattern.PlanWalk
import PatternLoom.Proofs.Pattern.Scan

/-!
# Bounds of walks

A walk stays in its text and ends no earlier than it begins, whatever it reads ahead and behind. It
leaves the boundaries of groups alone that have lower numbers than its own. So the end of the whole match
stays as it is, and its start is set by `\K` only.
-/

namespace PatternLoom

set_option autoImplicit false

namespace Slots

variable {slots : Slots} {groups : List Nat} {i : Nat}

/-- The position belongs to none of the groups. -/
def Apart (groups : List Nat) (i : Nat) : Prop := ∀ g ∈ groups, i ≠ 2 * g ∧ i ≠ 2 * g + 1

theorem apart_of_lt {floor : Nat} (h : ∀ g ∈ groups, floor < g) (hi : i < 2 * floor + 2) :
    Apart groups i := by
  intro g hg
  have := h g hg
  omega

@[simp] theorem length_openAt (g offset : Nat) : (slots.openAt g offset).length = slots.length :=
  List.length_set

@[simp] theorem length_closeAt (g offset : Nat) : (slots.closeAt g offset).length = slots.length :=
  List.length_set

@[simp] theorem length_forget : (slots.forget groups).length = slots.length := by
  unfold forget
  induction groups generalizing slots with
  | nil => rfl
  | cons g groups ih => rw [List.foldl_cons, ih, List.length_set, List.length_set]

theorem getElem?_openAt {g : Nat} (h : i ≠ 2 * g) (offset : Nat) :
    (slots.openAt g offset)[i]? = slots[i]? :=
  List.getElem?_set_ne h.symm

theorem getElem?_closeAt {g : Nat} (h : i ≠ 2 * g + 1) (offset : Nat) :
    (slots.closeAt g offset)[i]? = slots[i]? :=
  List.getElem?_set_ne h.symm

theorem getElem?_forget (h : Apart groups i) : (slots.forget groups)[i]? = slots[i]? := by
  unfold forget
  induction groups generalizing slots with
  | nil => rfl
  | cons g groups ih =>
    obtain ⟨hg, hgroups⟩ := List.forall_mem_cons.mp h
    rw [List.foldl_cons, ih hgroups, List.getElem?_set_ne hg.2.symm, List.getElem?_set_ne hg.1.symm]

end Slots

namespace Simple

variable {beyond : Option Char} {p : Simple} {s t u : Place}

/-- Places of one text, the second no earlier than the first, with boundaries for the same groups. -/
structure Place.Before (s u : Place) : Prop where
  ahead : ∃ w, s.ahead = w ++ u.ahead ∧ u.offset = s.offset + w.length
  size : u.slots.length = s.slots.length

namespace Place.Before

theorem same : s.Before s := ⟨⟨[], rfl, rfl⟩, rfl⟩

theorem trans (h : s.Before t) (h' : t.Before u) : s.Before u := by
  obtain ⟨w, hw, hoffset⟩ := h.ahead
  obtain ⟨w', hw', hoffset'⟩ := h'.ahead
  refine ⟨⟨w ++ w', ?_, ?_⟩, h'.size.trans h.size⟩
  · rw [hw, hw', List.append_assoc]
  · rw [hoffset', hoffset, List.length_append, Nat.add_assoc]

theorem offset_le (h : s.Before u) : s.offset ≤ u.offset := by
  obtain ⟨w, -, hoffset⟩ := h.ahead
  omega

theorem offset_le_end (h : s.Before u) : u.offset ≤ s.offset + s.ahead.length := by
  obtain ⟨w, hw, hoffset⟩ := h.ahead
  rw [hw, List.length_append]
  omega

end Place.Before

theorem Walk.before (h : Walk beyond p s u) : s.Before u := by
  induction h with
  | empty | anchor | without | noTime => exact .same
  | chars hs hc => exact ⟨⟨[_], hs, rfl⟩, rfl⟩
  | seq _ _ ih ih' | oneMore _ _ ih ih' => exact ih.trans ih'
  | left _ ih | right _ ih | once _ ih | lastTime _ ih | someTimes _ ih => exact ih
  | capture _ ih =>
    refine ⟨ih.ahead, ?_⟩
    have hsize := ih.size
    simpa [Place.withSlots] using hsize

/-- A walk leaves the boundaries of all groups alone that it does not capture. -/
theorem Walk.getElem?_slots (h : Walk beyond p s u) {i : Nat} (hi : Slots.Apart p.captures i) :
    u.slots[i]? = s.slots[i]? := by
  induction h with
  | empty | anchor | without | noTime | chars => rfl
  | seq _ _ ihp ihq =>
    obtain ⟨hp, hq⟩ := List.forall_mem_append.mp hi
    exact (ihq hq).trans (ihp hp)
  | left _ ih => exact ih (List.forall_mem_append.mp hi).1
  | right _ ih => exact ih (List.forall_mem_append.mp hi).2
  | capture _ ih =>
    obtain ⟨hg, hp⟩ := List.forall_mem_cons.mp hi
    have hslots := ih hp
    simp only [Place.withSlots] at hslots ⊢
    rw [Slots.getElem?_closeAt hg.2, hslots, Slots.getElem?_openAt hg.1]
  | once _ ih | lastTime _ ih | someTimes _ ih => exact ih hi
  | oneMore _ _ ih ih' => exact (ih' hi).trans (ih hi)

/-- A walk that forgets its groups first leaves all other groups alone. -/
theorem Walk.slots_of_forget {before : Option Char} {ahead : Text} {offset : Nat} {slots : Slots}
    (h : Walk beyond p ⟨before, ahead, offset, slots.forget p.captures⟩ u) :
    u.slots.length = slots.length ∧ ∀ i, Slots.Apart p.captures i → u.slots[i]? = slots[i]? := by
  constructor
  · rw [h.before.size, Slots.length_forget]
  · intro i hi
    rw [h.getElem?_slots hi, Slots.getElem?_forget hi]

end Simple

namespace Cursor

theorem offset_le_forward (n : Nat) (c : Cursor) : c.offset ≤ (c.forward n).offset := by
  induction n generalizing c with
  | zero => exact le_rfl
  | succ n ih =>
    obtain ⟨behind, ahead⟩ := c
    cases ahead with
    | nil => exact le_rfl
    | cons d ahead => exact (Nat.le_succ _).trans (ih ⟨d :: behind, ahead⟩)

theorem length_text (c : Cursor) : c.text.length = c.offset + c.ahead.length := by
  rw [text, List.length_append, List.length_reverse, offset]

end Cursor

namespace Plan

/-- Groups have numbers above `floor`, and those inside of a group above the number of that group. `\K`
stands where `keep` allows it, and inside of look-behinds only if `behind` allows that too. -/
def Tame (floor : Nat) (behind keep : Bool) : Plan → Prop
  | .empty | .chars _ | .anchor _ | .backref .. | .groupSet _ | .searchStart => True
  | .scan p | .behindScan _ p => ∀ g ∈ p.captures, floor < g
  | .seq p q | .alt p q => p.Tame floor behind keep ∧ q.Tame floor behind keep
  | .capture g p => floor < g ∧ p.Tame g behind keep
  | .optional _ p | .counted _ _ _ p | .unbounded _ _ p | .ahead _ p | .atomic p =>
    p.Tame floor behind keep
  | .behind _ _ p => p.Tame floor behind (keep && behind)
  | .choose c p q =>
    c.Tame floor behind keep ∧ p.Tame floor behind keep ∧ q.Tame floor behind keep
  | .keepOut => keep = true

/-- What a walk does to its text and to the groups up to a floor: their boundaries stay as they are,
except that `\K` may set the start of the whole match. -/
structure Leads (floor : Nat) (behind keep : Bool) (s t : State) : Prop where
  text : t.cursor.text = s.cursor.text
  offset : s.cursor.offset ≤ t.cursor.offset
  size : t.slots.length = s.slots.length
  kept : ∀ i, 0 < i → i < 2 * floor + 2 → t.slots[i]? = s.slots[i]?
  start : t.slots[0]? = s.slots[0]? ∨
    keep = true ∧ ∃ x, t.slots[0]? = some (some x) ∧ (behind = false → s.cursor.offset ≤ x)

namespace Leads

variable {floor : Nat} {behind keep : Bool} {s t u : State}

theorem same : Leads floor behind keep s s := ⟨rfl, le_rfl, rfl, fun _ _ _ => rfl, Or.inl rfl⟩

/-- The end of the whole match stays as it is. -/
theorem stop (h : Leads floor behind keep s t) : t.slots[1]? = s.slots[1]? :=
  h.kept 1 Nat.one_pos (by omega)

theorem trans (h : Leads floor behind keep s t) (h' : Leads floor behind keep t u) :
    Leads floor behind keep s u where
  text := h'.text.trans h.text
  offset := h.offset.trans h'.offset
  size := h'.size.trans h.size
  kept i hpos hi := (h'.kept i hpos hi).trans (h.kept i hpos hi)
  start := by
    rcases h'.start with hsame | ⟨hkeep, x, hx, hle⟩
    · rw [hsame]
      exact h.start
    · exact Or.inr ⟨hkeep, x, hx, fun hbehind => h.offset.trans (hle hbehind)⟩

theorem stay (h : Leads floor behind keep s t) :
    Leads floor behind keep s { s with slots := t.slots } :=
  ⟨rfl, le_rfl, h.size, h.kept, h.start⟩

/-- A walk with new boundaries for groups of higher numbers only. -/
theorem of_apart {groups : List Nat} (hgroups : ∀ g ∈ groups, floor < g)
    (htext : t.cursor.text = s.cursor.text) (hoffset : s.cursor.offset ≤ t.cursor.offset)
    (hslots : t.slots.length = s.slots.length ∧
      ∀ i, Slots.Apart groups i → t.slots[i]? = s.slots[i]?) : Leads floor behind keep s t where
  text := htext
  offset := hoffset
  size := hslots.1
  kept i _ hi := hslots.2 i (Slots.apart_of_lt hgroups hi)
  start := Or.inl (hslots.2 0 (Slots.apart_of_lt hgroups (by omega)))

end Leads

section

variable {floor : Nat} {behind keep : Bool} {p : Simple} {s t : State}

/-- A scan walks on with its own groups forgotten. -/
theorem walk_of_scanFrom? (h : scanFrom? p s = some t) :
    ∃ u, Simple.Walk none p
      ⟨s.cursor.site.before, s.cursor.ahead, s.cursor.offset, s.slots.forget p.captures⟩ u ∧
      t = { s with cursor := s.cursor.forwardTo u.offset, slots := u.slots } := by
  obtain ⟨hit, hhit, rfl⟩ := Option.map_eq_some_iff.mp h
  obtain ⟨u, hwalk, rfl⟩ := @Simple.walk_of_matchAt? none p
    ⟨s.cursor.site.before, s.cursor.ahead, s.cursor.offset, s.slots.forget p.captures⟩ hit hhit
  exact ⟨u, hwalk, rfl⟩

/-- So does a scan backward, from an earlier place, unless it has no groups. -/
theorem walk_of_scanBehind? (h : scanBehind? p s = some t) :
    t = s ∨ ∃ (c : Cursor) (width : Nat) (u : Simple.Place), c.text = s.cursor.text ∧
      Simple.Walk s.cursor.site.after p
        ⟨c.site.before, c.ahead.take width, c.offset, s.slots.forget p.captures⟩ u ∧
      t = { s with slots := u.slots } := by
  simp only [scanBehind?, Option.bind_eq_bind, Option.bind_eq_some_iff] at h
  obtain ⟨back, -, c, hc, h⟩ := h
  split at h
  · exact Or.inl (Option.some.inj h).symm
  · obtain ⟨hit, hhit, h⟩ := Option.bind_eq_some_iff.mp h
    obtain ⟨u, hwalk, rfl⟩ := @Simple.walk_of_matchAt? s.cursor.site.after p
      ⟨c.site.before, c.ahead.take back.stop, c.offset, s.slots.forget p.captures⟩ hit hhit
    exact Or.inr ⟨c, _, u, Cursor.text_backward? hc, hwalk, (Option.some.inj h).symm⟩

theorem leads_scanFrom? (hp : ∀ g ∈ p.captures, floor < g) (h : scanFrom? p s = some t) :
    Leads floor behind keep s t := by
  obtain ⟨u, hwalk, rfl⟩ := walk_of_scanFrom? h
  exact .of_apart hp (Cursor.text_forward _ _) (Cursor.offset_le_forward _ _) hwalk.slots_of_forget

theorem leads_scanBehind? (hp : ∀ g ∈ p.captures, floor < g) (h : scanBehind? p s = some t) :
    Leads floor behind keep s { s with slots := t.slots } := by
  rcases walk_of_scanBehind? h with rfl | ⟨c, width, u, -, hwalk, rfl⟩
  · exact .same
  · exact .of_apart hp rfl le_rfl hwalk.slots_of_forget

end

theorem leads_keepOut (floor : Nat) (behind : Bool) (s : State) :
    Leads floor behind true s { s with slots := s.slots.openAt 0 s.cursor.offset } where
  text := rfl
  offset := le_rfl
  size := Slots.length_openAt 0 _
  kept i hpos _ := Slots.getElem?_openAt (by omega) _
  start := by
    cases hslots : s.slots with
    | nil => exact Or.inl rfl
    | cons first slots => exact Or.inr ⟨rfl, _, rfl, fun _ => le_rfl⟩

/-- Every walk of a tame plan stays within its bounds. -/
theorem Walk.leads {p : Plan} {s t : State} (h : p.Walk s t) {floor : Nat} {behind keep : Bool}
    (hp : p.Tame floor behind keep) : Leads floor behind keep s t := by
  induction h generalizing floor keep with
  | empty | anchor | without | countedEnough | unboundedEnough | aheadNot | behindNot
  | behindScanNot | groupSet | searchStart => exact .same
  | scan h => exact leads_scanFrom? hp h
  | @chars m s c rest hs hc =>
    refine ⟨?_, Nat.le_succ _, rfl, fun _ _ _ => rfl, Or.inl rfl⟩
    simp [Cursor.text, hs]
  | seq _ _ ihp ihq => exact (ihp hp.1).trans (ihq hp.2)
  | left _ ih => exact ih hp.1
  | right _ ih => exact ih hp.2
  | @capture g p s t _ ih =>
    obtain ⟨hg, hp⟩ := hp
    have hbody := ih hp
    have hsize := hbody.size
    have hstart := hbody.start
    rw [Slots.length_openAt] at hsize
    rw [Slots.getElem?_openAt (by omega)] at hstart
    refine ⟨hbody.text, hbody.offset, ?_, ?_, ?_⟩
    · rw [Slots.length_closeAt, hsize]
    · intro i hpos hi
      rw [Slots.getElem?_closeAt (by omega), hbody.kept i hpos (by omega),
        Slots.getElem?_openAt (by omega)]
    · rw [Slots.getElem?_closeAt (by omega)]
      exact hstart
  | once _ ih => exact ih hp
  | countedMust _ _ ih ih' | countedMore _ _ ih ih' | unboundedMust _ _ ih ih' =>
    exact (ih hp).trans (ih' hp)
  | unboundedMore _ _ _ ih ih' => exact (ih hp).trans (ih' hp)
  | ahead _ ih => exact (ih hp).stay
  | @behind width p s t c hc h ih =>
    have hbody := ih hp
    refine ⟨rfl, le_rfl, hbody.size, hbody.kept, ?_⟩
    -- a body that may set the start is one in which this is allowed behind the place
    rcases hbody.start with hsame | ⟨hkeep, x, hx, -⟩
    · exact Or.inl hsame
    · obtain ⟨hkeep, hbehind⟩ := Bool.and_eq_true_iff.mp hkeep
      exact Or.inr ⟨hkeep, x, hx, fun h => absurd h (by simp [hbehind])⟩
  | behindScan h => exact leads_scanBehind? hp h
  | atomic _ ih => exact ih hp
  | backref => exact ⟨Cursor.text_forward _ _, Cursor.offset_le_forward _ _, rfl, fun _ _ _ => rfl,
    Or.inl rfl⟩
  | yes _ _ ihc ihp => exact (ihc hp.1).trans (ihp hp.2.1)
  | no _ _ ih => exact ih hp.2.2
  | keepOut =>
    obtain rfl : keep = true := hp
    exact leads_keepOut floor behind _

end Plan

end PatternLoom
