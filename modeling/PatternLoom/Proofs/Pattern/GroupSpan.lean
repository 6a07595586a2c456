import PatternLoom.Proofs.Pattern.WholeSpan

/-!
# Spans of groups

Every group that takes part in a match has a span in the text that does not end before it begins. In one
pass a group closes no earlier than it was opened last. With look-around a later group may lie before an
earlier one; but no group stands inside of itself, so nothing else sets its start while it is open.
-/

namespace PatternLoom

set_option autoImplicit false

namespace Slots

variable {slots slots' : Slots} {g g' here size : Nat}

theorem span?_eq_some_iff {start stop : Nat} :
    slots.span? g = some (start, stop) ↔
      slots[2 * g]? = some (some start) ∧ slots[2 * g + 1]? = some (some stop) := by
  rw [span?, List.getD_eq_getElem?_getD, List.getD_eq_getElem?_getD]
  rcases slots[2 * g]? with _ | _ | x <;> rcases slots[2 * g + 1]? with _ | _ | y <;> simp

theorem span?_congr (hopen : slots'[2 * g]? = slots[2 * g]?)
    (hclose : slots'[2 * g + 1]? = slots[2 * g + 1]?) : slots'.span? g = slots.span? g := by
  simp only [span?, List.getD_eq_getElem?_getD, hopen, hclose]

theorem span?_openAt (h : g' ≠ g) (offset : Nat) : (slots.openAt g' offset).span? g = slots.span? g :=
  span?_congr (getElem?_openAt (by omega) _) (getElem?_openAt (by omega) _)

theorem span?_closeAt (h : g' ≠ g) (offset : Nat) :
    (slots.closeAt g' offset).span? g = slots.span? g :=
  span?_congr (getElem?_closeAt (by omega) _) (getElem?_closeAt (by omega) _)

theorem eq_of_getElem?_set {i x y : Nat} (h : (slots.set i (some y))[i]? = some (some x)) : x = y := by
  have hi : i < slots.length := by
    have hlt := (List.getElem?_eq_some_iff.mp h).choose
    rwa [List.length_set] at hlt
  rw [List.getElem?_set_self hi] at h
  cases h
  rfl

/-- If a group has matched, its span lies in a text of some length. -/
def Bounded (size g : Nat) (slots : Slots) : Prop :=
  ∀ start stop, slots.span? g = some (start, stop) → start ≤ stop ∧ stop ≤ size

/-- If a group has been opened, it was no later than here. -/
def Opened (here g : Nat) (slots : Slots) : Prop :=
  ∀ start, slots[2 * g]? = some (some start) → start ≤ here

def Unopened (g : Nat) (slots : Slots) : Prop := ∀ start, slots[2 * g]? ≠ some (some start)

theorem Unopened.opened (h : slots.Unopened g) (here : Nat) : slots.Opened here g :=
  fun start hstart => absurd hstart (h start)

theorem Unopened.bounded (h : slots.Unopened g) (size : Nat) : slots.Bounded size g :=
  fun start _ hspan => absurd (span?_eq_some_iff.mp hspan).1 (h start)

theorem Bounded.congr (h : slots.Bounded size g) (hspan : slots'.span? g = slots.span? g) :
    slots'.Bounded size g := by
  intro start stop hmatched
  exact h start stop (hspan ▸ hmatched)

theorem Opened.congr (h : slots.Opened here g) (hopen : slots'[2 * g]? = slots[2 * g]?) :
    slots'.Opened here g := by
  intro start hstart
  exact h start (hopen ▸ hstart)

theorem Opened.mono {here' : Nat} (h : slots.Opened here g) (hle : here ≤ here') :
    slots.Opened here' g :=
  fun start hstart => (h start hstart).trans hle

theorem opened_openAt (slots : Slots) (g here : Nat) : (slots.openAt g here).Opened here g :=
  fun _ hstart => (eq_of_getElem?_set hstart).le

/-- A group that was opened no later than here may be closed here. -/
theorem Opened.bounded_closeAt (h : slots.Opened here g) (hle : here ≤ size) :
    (slots.closeAt g here).Bounded size g := by
  intro start stop hspan
  obtain ⟨hstart, hstop⟩ := span?_eq_some_iff.mp hspan
  rw [getElem?_closeAt (by omega)] at hstart
  have hstop : stop = here := eq_of_getElem?_set hstop
  exact ⟨hstop ▸ h start hstart, hstop ▸ hle⟩

theorem apart_of_not_mem {groups : List Nat} (hg : g ∉ groups) {i : Nat}
    (hi : i = 2 * g ∨ i = 2 * g + 1) : Apart groups i := by
  intro g' hg'
  have hne : g' ≠ g := fun heq => hg (heq ▸ hg')
  omega

theorem unopened_forget {groups : List Nat} (hg : g ∈ groups) (slots : Slots) :
    (slots.forget groups).Unopened g := by
  intro start
  unfold forget
  induction groups generalizing slots with
  | nil => cases hg
  | cons g' groups ih =>
    rw [List.foldl_cons]
    by_cases hmem : g ∈ groups
    · exact ih hmem _
    · obtain rfl : g = g' := (List.mem_cons.mp hg).resolve_right hmem
      rw [← forget, getElem?_forget (apart_of_not_mem hmem (Or.inl rfl)),
        List.getElem?_set_ne (by omega), List.getElem?_set_self']
      cases slots[2 * g]? <;> intro h <;> cases h

end Slots

namespace Simple

variable {beyond : Option Char} {p : Simple} {s u : Place} {g size : Nat}

theorem Walk.opened (h : Walk beyond p s u) (hs : s.slots.Opened s.offset g) :
    u.slots.Opened u.offset g := by
  induction h with
  | empty | anchor | without | noTime => exact hs
  | chars => exact hs.mono (Nat.le_succ _)
  | seq _ _ ih ih' | oneMore _ _ ih ih' => exact ih' (ih hs)
  | left _ ih | right _ ih | once _ ih | lastTime _ ih | someTimes _ ih => exact ih hs
  | @capture g' p s u _ ih =>
    have hbody : (s.slots.openAt g' s.offset).Opened s.offset g := by
      by_cases heq : g' = g
      · exact heq ▸ Slots.opened_openAt _ _ _
      · exact hs.congr (Slots.getElem?_openAt (by omega) _)
    exact (ih hbody).congr (Slots.getElem?_closeAt (by omega) _)

/-- A group closes behind the place where it was opened last. -/
theorem Walk.bounded (h : Walk beyond p s u) (hopen : s.slots.Opened s.offset g)
    (hs : s.slots.Bounded size g) (hend : u.offset ≤ size) : u.slots.Bounded size g := by
  induction h with
  | empty | anchor | without | noTime | chars => exact hs
  | seq h h' ih ih' | oneMore h h' ih ih' =>
    exact ih' (h.opened hopen) (ih hopen hs (h'.before.offset_le.trans hend)) hend
  | left _ ih | right _ ih | once _ ih | lastTime _ ih | someTimes _ ih => exact ih hopen hs hend
  | @capture g' p s u h ih =>
    by_cases heq : g' = g
    · subst heq
      -- even if the body has opened the group again, it was at a place that has been passed
      have hbody := h.opened (Slots.opened_openAt s.slots g' s.offset)
      exact hbody.bounded_closeAt hend
    · have hbody := ih (hopen.congr (Slots.getElem?_openAt (by omega) _))
        (hs.congr (Slots.span?_openAt heq _)) hend
      exact hbody.congr (Slots.span?_closeAt heq _)

/-- A walk that forgets its groups first. -/
theorem Walk.bounded_of_forget {before : Option Char} {ahead : Text} {offset : Nat} {slots : Slots}
    (h : Walk beyond p ⟨before, ahead, offset, slots.forget p.captures⟩ u)
    (hs : slots.Bounded size g) (hend : u.offset ≤ size) : u.slots.Bounded size g := by
  by_cases hg : g ∈ p.captures
  · have hclear := Slots.unopened_forget hg slots
    exact h.bounded (hclear.opened _) (hclear.bounded _) hend
  · have hslots := h.slots_of_forget.2
    apply hs.congr
    apply Slots.span?_congr
    · exact hslots _ (Slots.apart_of_not_mem hg (Or.inl rfl))
    · exact hslots _ (Slots.apart_of_not_mem hg (Or.inr rfl))

end Simple

namespace Plan

variable {floor g size : Nat} {behind keep : Bool} {s t : State}

theorem Leads.offset_le (h : Leads floor behind keep s t) : t.cursor.offset ≤ s.cursor.text.length := by
  rw [← h.text, Cursor.length_text]
  exact Nat.le_add_right _ _

theorem bounded_scanFrom? {p : Simple} (h : scanFrom? p s = some t)
    (hs : s.slots.Bounded s.cursor.text.length g) : t.slots.Bounded s.cursor.text.length g := by
  obtain ⟨u, hwalk, rfl⟩ := walk_of_scanFrom? h
  apply hwalk.bounded_of_forget hs
  rw [Cursor.length_text]
  exact hwalk.before.offset_le_end

theorem bounded_scanBehind? {p : Simple} (h : scanBehind? p s = some t)
    (hs : s.slots.Bounded s.cursor.text.length g) : t.slots.Bounded s.cursor.text.length g := by
  rcases walk_of_scanBehind? h with rfl | ⟨c, width, u, htext, hwalk, rfl⟩
  · exact hs
  · apply hwalk.bounded_of_forget hs
    have hend := hwalk.before.offset_le_end
    have htake := List.length_take_le' width c.ahead
    rw [← htext, Cursor.length_text]
    simp only at hend
    omega

/-- A group is closed behind the place where it was opened, because nothing inside of it opens it. -/
theorem bounded_capture {g' : Nat} (hg : 0 < g) {t : State}
    (hleads : Leads g' behind keep { s with slots := s.slots.openAt g' s.cursor.offset } t)
    (hs : s.slots.Bounded s.cursor.text.length g)
    (hbody : (s.slots.openAt g' s.cursor.offset).Bounded s.cursor.text.length g →
      t.slots.Bounded s.cursor.text.length g) :
    (t.slots.closeAt g' t.cursor.offset).Bounded s.cursor.text.length g := by
  by_cases heq : g' = g
  · subst heq
    -- the body has a floor at the group itself, so the start is still the one that was set first
    have hopened := (Slots.opened_openAt s.slots g' s.cursor.offset).congr
      (hleads.kept (2 * g') (by omega) (by omega))
    exact (hopened.mono hleads.offset).bounded_closeAt hleads.offset_le
  · exact (hbody (hs.congr (Slots.span?_openAt heq _))).congr (Slots.span?_closeAt heq _)

/-- Whatever a walk captures lies in the text. -/
theorem Walk.bounded {p : Plan} (h : p.Walk s t) (hp : p.Tame floor behind keep) (hg : 0 < g)
    (hsize : s.cursor.text.length = size) (hs : s.slots.Bounded size g) : t.slots.Bounded size g := by
  induction h generalizing floor keep with
  | empty | anchor | without | countedEnough | unboundedEnough | aheadNot | behindNot
  | behindScanNot | groupSet | searchStart | chars | backref => exact hs
  | scan h =>
    subst hsize
    exact bounded_scanFrom? h hs
  | seq h _ ihp ihq =>
    exact ihq hp.2 ((congrArg List.length (h.leads hp.1).text).trans hsize) (ihp hp.1 hsize hs)
  | left _ ih => exact ih hp.1 hsize hs
  | right _ ih => exact ih hp.2 hsize hs
  | capture h ih =>
    subst hsize
    exact bounded_capture hg (h.leads hp.2) hs fun hopened => ih hp.2 rfl hopened
  | once _ ih | ahead _ ih | atomic _ ih => exact ih hp hsize hs
  | countedMust h _ ih ih' | countedMore h _ ih ih' | unboundedMust h _ ih ih'
  | unboundedMore h _ _ ih ih' =>
    exact ih' hp ((congrArg List.length (Walk.leads h hp).text).trans hsize) (ih hp hsize hs)
  | behind hc _ ih => exact ih hp ((congrArg List.length (Cursor.text_backward? hc)).trans hsize) hs
  | behindScan h =>
    subst hsize
    have hscan := bounded_scanBehind? h hs
    exact hscan
  | yes hc _ ihc ihp =>
    exact ihp hp.2.1 ((congrArg List.length (hc.leads hp.1).text).trans hsize) (ihc hp.1 hsize hs)
  | no _ _ ih => exact ih hp.2.2 hsize hs
  | keepOut => exact hs.congr (Slots.span?_openAt (by omega) _)

/-- The group of the whole match makes no difference to the others. -/
theorem Whole.bounded {p : Plan} (hp : p.Whole behind keep) (h : p.Walk s t) (hg : 0 < g)
    (hs : s.slots.Bounded s.cursor.text.length g) : t.slots.Bounded s.cursor.text.length g := by
  have hcapture {p : Plan} (hp : p.Tame 0 behind keep) {t : State}
      (h : (Plan.capture 0 p).Walk s t) :
      t.cursor.text = s.cursor.text ∧ t.slots.Bounded s.cursor.text.length g := by
    cases h with
    | capture h =>
      have hleads := h.leads hp
      exact ⟨hleads.text, bounded_capture hg hleads hs fun hopened => h.bounded hp hg rfl hopened⟩
  cases hp with
  | capture hp => exact (hcapture hp h).2
  | seq hp hq =>
    cases h with
    | seq hfirst hrest =>
      obtain ⟨htext, hbounded⟩ := hcapture hp hfirst
      exact hrest.bounded hq hg (congrArg List.length htext) hbounded
  | scan hp hq =>
    cases h with
    | seq hfirst hrest =>
      cases hfirst with
      | scan hscan =>
        obtain ⟨u, -, rfl⟩ := walk_of_scanFrom? hscan
        have hbounded := bounded_scanFrom? hscan hs
        exact hrest.bounded hq hg (congrArg List.length (Cursor.text_forward _ _)) hbounded

end Plan

namespace Program

variable {t : Text} {g : Program} {limit : Nat} {origin : Option Nat} {c : Cursor} {found : Found}

end Program

end PatternLoom
