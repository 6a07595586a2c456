import PatternLoom.Proofs.Pattern.Numbering
import PatternLoom.Proofs.Pattern.Search
import PatternLoom.Proofs.Pattern.WalkBounds

/-!
# Spans of whole matches

A compiled pattern captures the whole match as group zero before anything else. So every search that
finds a match reports a whole match, which lies in the text and ends no earlier than the search
started. Unless the pattern has `\K` inside of a look-behind, the match does not start earlier either.
-/

namespace PatternLoom

set_option autoImplicit false

namespace Regex

variable {floor : Nat} {behind keep : Bool} {r : Regex}

theorem Tame.lookBehind (hr : r.Tame floor behind (keep && behind)) (positive : Bool) :
    (r.lookBehind positive).Tame floor behind keep := by
  induction r with
  | alt p q ihp ihq =>
    unfold Regex.lookBehind
    split
    · exact hr
    · split
      · exact ⟨ihp hr.1, ihq hr.2⟩
      · apply tame_ofElements
        intro s hs
        simp only [List.mem_cons, List.not_mem_nil, or_false] at hs
        rcases hs with rfl | rfl
        · exact ihp hr.1
        · exact ihq hr.2
  | _ => exact hr

theorem Tame.splitBehind (hr : r.Tame floor behind keep) : r.splitBehind.Tame floor behind keep := by
  induction r generalizing floor keep with
  | seq p q ihp ihq | alt p q ihp ihq => exact ⟨ihp hr.1, ihq hr.2⟩
  | capture g p ih => exact ⟨hr.1, ih hr.2⟩
  | iterate lo hi greedy p ih | ahead positive p ih | atomic p ih => exact ih hr
  | behind positive p ih => exact (ih hr).lookBehind positive
  | choose c p q ihc ihp ihq => exact ⟨ihc hr.1, ihp hr.2.1, ihq hr.2.2⟩
  | _ => exact hr

theorem Tame.trailingAhead? (hr : r.Tame floor behind keep) {front body : Regex}
    (h : r.trailingAhead? = some (front, body)) :
    front.Tame floor behind keep ∧ body.Tame floor behind keep := by
  induction r generalizing front with
  | seq p q _ ihq =>
    unfold Regex.trailingAhead? at h
    split at h
    · cases h
      rename_i heq
      cases heq
      exact ⟨trivial, hr.1⟩
    · rename_i heq
      cases heq
      obtain ⟨⟨front', body'⟩, hq, hfront⟩ := Option.map_eq_some_iff.mp h
      cases hfront
      obtain ⟨hfront, hbody⟩ := ihq hr.2 hq
      exact ⟨⟨hr.1, hfront⟩, hbody⟩
    · cases h
  | _ => cases h

theorem lt_of_mem_captures (hr : r.Tame floor behind keep) {p : Simple} (h : r.simple? = some p) :
    ∀ g ∈ p.captures, floor < g := by
  induction r generalizing floor p with
  | empty | chars | anchor =>
    obtain rfl := Option.some.inj h
    exact List.forall_mem_nil _
  | seq r₁ r₂ ih₁ ih₂ | alt r₁ r₂ ih₁ ih₂ =>
    simp only [simple?, Option.bind_eq_bind, Option.bind_eq_some_iff] at h
    obtain ⟨p₁, h₁, p₂, h₂, hp⟩ := h
    cases hp
    exact List.forall_mem_append.mpr ⟨ih₁ hr.1 h₁, ih₂ hr.2 h₂⟩
  | capture group r ih =>
    obtain ⟨q, hq, hp⟩ := Option.bind_eq_some_iff.mp h
    cases hp
    exact List.forall_mem_cons.mpr ⟨hr.1, fun g hg => hr.1.trans (ih hr.2 hq g hg)⟩
  | iterate lo hi greedy r ih =>
    obtain ⟨q, hq, hle, rfl⟩ := simple?_iterate_eq_some h
    intro g hg
    exact ih hr hq g ((Simple.mem_captures_repeated hle).mp hg).2
  | ahead | behind | atomic | backref | groupSet | choose | keepOut | searchStart => cases h

theorem Tame.scan (hr : r.Tame floor behind keep) {p : Plan} (h : r.simple?.map .scan = some p) :
    p.Tame floor behind keep := by
  obtain ⟨q, hq, rfl⟩ := Option.map_eq_some_iff.mp h
  exact lt_of_mem_captures hr hq

/-- A plan has its groups numbered like the pattern, and `\K` in the same places. -/
theorem Tame.plan (hr : r.Tame floor behind keep) {references : List Nat} {revisited leading : Bool}
    {p : Plan} (h : r.plan? references revisited leading = some p) : p.Tame floor behind keep := by
  induction r generalizing floor keep revisited leading p with
  | empty | chars | anchor | backref | groupSet | searchStart =>
    obtain rfl := Option.some.inj h
    trivial
  | keepOut =>
    obtain rfl := Option.some.inj h
    exact hr
  | seq r₁ r₂ ih₁ ih₂ =>
    simp only [plan?] at h
    split at h
    · exact hr.scan h
    · split at h
      · simp only [Option.bind_eq_bind, Option.bind_eq_some_iff] at h
        obtain ⟨p₁, h₁, p₂, h₂, hp⟩ := h
        cases hp
        exact ⟨lt_of_mem_captures hr.1 h₁, ih₂ hr.2 h₂⟩
      · simp only [Option.bind_eq_bind, Option.bind_eq_some_iff] at h
        obtain ⟨p₁, h₁, p₂, h₂, hp⟩ := h
        cases hp
        exact ⟨ih₁ hr.1 h₁, ih₂ hr.2 h₂⟩
  | alt r₁ r₂ ih₁ ih₂ =>
    simp only [plan?] at h
    split at h
    · exact hr.scan h
    · simp only [Option.bind_eq_bind, Option.bind_eq_some_iff] at h
      obtain ⟨p₁, h₁, p₂, h₂, hp⟩ := h
      cases hp
      exact ⟨ih₁ hr.1 h₁, ih₂ hr.2 h₂⟩
  | capture g r ih =>
    simp only [plan?] at h
    split at h
    · exact hr.scan h
    · obtain ⟨q, hq, hp⟩ := Option.bind_eq_some_iff.mp h
      cases hp
      exact ⟨hr.1, ih hr.2 hq⟩
  | iterate lo hi greedy r ih =>
    simp only [plan?] at h
    split at h
    · exact hr.scan h
    · split at h
      · obtain ⟨q, hq, hp⟩ := Option.bind_eq_some_iff.mp h
        have hbody : q.Tame floor behind keep := ih hr hq
        cases hp
        exact hbody
      · obtain ⟨q, hq, hp⟩ := Option.bind_eq_some_iff.mp h
        have hbody : q.Tame floor behind keep := ih hr hq
        split at hp
        · cases hp
          exact hbody
        · cases hp
          exact hbody
  | ahead positive r ih | atomic r ih =>
    obtain ⟨q, hq, hp⟩ := Option.bind_eq_some_iff.mp h
    have hbody : q.Tame floor behind keep := ih hr hq
    cases hp
    exact hbody
  | behind positive r ih =>
    simp only [plan?] at h
    split at h
    · obtain ⟨q, hq, hp⟩ := Option.bind_eq_some_iff.mp h
      cases hp
      exact ih hr hq
    · split at h
      · cases h
      · obtain ⟨q, hq, rfl⟩ := Option.map_eq_some_iff.mp h
        have hbody : r.Tame floor behind (keep && behind) := hr
        exact lt_of_mem_captures hbody hq
  | choose c r₁ r₂ ihc ih₁ ih₂ =>
    simp only [plan?, Option.bind_eq_bind, Option.bind_eq_some_iff] at h
    obtain ⟨q, hq, p₁, h₁, p₂, h₂, hp⟩ := h
    cases hp
    exact ⟨ihc hr.1 hq, ih₁ hr.2.1 h₁, ih₂ hr.2.2 h₂⟩

end Regex

/-- A one-pass pattern that captures the whole match as group zero, first of all. -/
inductive Simple.Whole : Simple → Prop where
  | capture {p : Simple} (hp : ∀ g ∈ p.captures, 0 < g) : Whole (.capture 0 p)
  | seq {p q : Simple} (hp : ∀ g ∈ p.captures, 0 < g) (hq : ∀ g ∈ q.captures, 0 < g) :
      Whole (.seq (.capture 0 p) q)

/-- A plan that captures the whole match as group zero, first of all. -/
inductive Plan.Whole (behind keep : Bool) : Plan → Prop where
  | capture {p : Plan} (hp : p.Tame 0 behind keep) : Whole behind keep (.capture 0 p)
  | seq {p q : Plan} (hp : p.Tame 0 behind keep) (hq : q.Tame 0 behind keep) :
      Whole behind keep (.seq (.capture 0 p) q)
  | scan {p : Simple} {q : Plan} (hp : ∀ g ∈ p.captures, 0 < g) (hq : q.Tame 0 behind keep) :
      Whole behind keep (.seq (.scan (.capture 0 p)) q)

def Matcher.Whole (behind keep : Bool) : Matcher → Prop
  | .onePass p => p.Whole
  | .backtracking p => p.Whole behind keep

namespace Regex

variable {behind keep : Bool} {r : Regex} {references : List Nat}

theorem Tame.simple_whole (hr : r.Tame 0 behind keep) {p : Simple} (h : r.whole.simple? = some p) :
    p.Whole := by
  unfold whole at h
  split at h
  · rename_i front body heq
    obtain ⟨hfront, hbody⟩ := hr.trailingAhead? heq
    simp only [ofElements, List.foldr_cons, List.foldr_nil, simple?, Option.bind_eq_bind,
      Option.bind_eq_some_iff] at h
    obtain ⟨p₁, ⟨q₁, hq₁, hp₁⟩, p₂, ⟨q₂, hq₂, p₃, hp₃, hp₂⟩, hp⟩ := h
    cases hp
    cases hp₁
    cases hp₂
    cases hp₃
    refine .seq (lt_of_mem_captures hfront hq₁) ?_
    exact List.forall_mem_append.mpr ⟨lt_of_mem_captures hbody hq₂, List.forall_mem_nil _⟩
  · obtain ⟨q, hq, hp⟩ := Option.bind_eq_some_iff.mp h
    cases hp
    exact .capture (lt_of_mem_captures hr hq)

theorem Tame.plan_whole (hr : r.Tame 0 behind keep) (hhard : r.whole.isHard references = true)
    {p : Plan} (h : r.whole.plan? references false true = some p) : p.Whole behind keep := by
  unfold whole at h hhard
  split at h
  · rename_i front body heq
    obtain ⟨hfront, hbody⟩ := hr.trailingAhead? heq
    have hrest : (Regex.seq body .empty).Tame 0 behind keep := ⟨hbody, trivial⟩
    simp only [heq, ofElements, List.foldr_cons, List.foldr_nil] at h hhard
    rw [plan?] at h
    simp only [hhard, Bool.not_true, Bool.false_and, Bool.false_eq_true, if_false] at h
    split at h
    · simp only [simple?, Option.bind_eq_bind, Option.bind_eq_some_iff] at h
      obtain ⟨p₁, ⟨q₁, hq₁, hp₁⟩, p₂, hp₂, hp⟩ := h
      cases hp
      cases hp₁
      exact .scan (lt_of_mem_captures hfront hq₁) (hrest.plan hp₂)
    · simp only [Option.bind_eq_bind, Option.bind_eq_some_iff] at h
      obtain ⟨p₁, hp₁, p₂, hp₂, hp⟩ := h
      cases hp
      obtain ⟨q₁, hq₁, hp₁⟩ := Option.bind_eq_some_iff.mp hp₁
      cases hp₁
      exact .seq (hfront.plan hq₁) (hrest.plan hp₂)
  · rename_i heq
    simp only [heq] at hhard
    simp only [plan?, hhard, Bool.not_true, Bool.and_false, Bool.false_eq_true, if_false] at h
    obtain ⟨q, hq, hp⟩ := Option.bind_eq_some_iff.mp h
    cases hp
    exact .capture (hr.plan hq)

theorem Tame.matcher (hr : r.Tame 0 behind keep) {m : Matcher} (h : r.matcher? references = some m) :
    m.Whole behind keep := by
  unfold matcher? at h
  split at h
  · rename_i hhard
    obtain ⟨p, hp, rfl⟩ := Option.map_eq_some_iff.mp h
    exact hr.plan_whole hhard hp
  · obtain ⟨p, hp, rfl⟩ := Option.map_eq_some_iff.mp h
    exact hr.simple_whole hp

end Regex

/-- A span that a search from a place may report. -/
structure Cursor.Spans (behind : Bool) (c : Cursor) (start stop : Nat) : Prop where
  offset_le : c.offset ≤ stop
  stop_le : stop ≤ c.text.length
  onward : behind = false → c.offset ≤ start

/-- The boundaries of the whole match. -/
structure Slots.Whole (slots : Slots) (start stop : Nat) : Prop where
  start : slots[0]? = some (some start)
  stop : slots[1]? = some (some stop)

theorem Slots.Whole.span? {slots : Slots} {start stop : Nat} (h : slots.Whole start stop) :
    slots.span? 0 = some (start, stop) := by
  simp [Slots.span?, List.getD_eq_getElem?_getD, h.start, h.stop]

theorem Slots.whole_closeAt {slots : Slots} {start : Nat} (hsize : 2 ≤ slots.length)
    (hstart : slots[0]? = some (some start)) (stop : Nat) : (slots.closeAt 0 stop).Whole start stop := by
  constructor
  · rw [Slots.getElem?_closeAt (by decide), hstart]
  · exact List.getElem?_set_self (by omega)

theorem Slots.getElem?_openAt_zero {slots : Slots} (hsize : 2 ≤ slots.length) (start : Nat) :
    (slots.openAt 0 start)[0]? = some (some start) :=
  List.getElem?_set_self (by omega)

theorem Simple.Whole.slots_whole {p : Simple} (hp : p.Whole) {s u : Simple.Place}
    (h : Simple.Walk none p s u) (hsize : 2 ≤ s.slots.length) :
    ∃ stop, u.slots.Whole s.offset stop ∧ s.offset ≤ stop ∧ stop ≤ s.offset + s.ahead.length := by
  have hcapture {p : Simple} (hp : ∀ g ∈ p.captures, 0 < g) {u : Simple.Place}
      (h : Simple.Walk none (.capture 0 p) s u) : u.slots.Whole s.offset u.offset := by
    cases h with
    | @capture _ _ _ u h =>
      have hstart := h.getElem?_slots (Slots.apart_of_lt hp Nat.two_pos)
      have hlength := h.before.size
      simp only [Simple.Place.withSlots, Slots.length_openAt] at hstart hlength ⊢
      exact Slots.whole_closeAt (hlength ▸ hsize) (hstart.trans (Slots.getElem?_openAt_zero hsize _)) _
  cases hp with
  | capture hp => exact ⟨u.offset, hcapture hp h, h.before.offset_le, h.before.offset_le_end⟩
  | seq hp hq =>
    cases h with
    | @seq _ _ _ t _ hfirst hrest =>
      have hwhole := hcapture hp hfirst
      refine ⟨t.offset, ⟨?_, ?_⟩, hfirst.before.offset_le, hfirst.before.offset_le_end⟩
      · rw [hrest.getElem?_slots (Slots.apart_of_lt hq (by omega)), hwhole.start]
      · rw [hrest.getElem?_slots (Slots.apart_of_lt hq (by omega)), hwhole.stop]

namespace Plan

variable {behind keep : Bool} {s t u : State}

/-- A walk reports a whole match that a search from where it begins may report. -/
structure Reports (behind : Bool) (s t : State) : Prop where
  offset : s.cursor.offset ≤ t.cursor.offset
  whole : ∃ start stop, t.slots.Whole start stop ∧ s.cursor.Spans behind start stop

theorem Reports.leads (h : Reports behind s t) (hleads : Leads 0 behind keep t u) :
    Reports behind s u := by
  refine ⟨h.offset.trans hleads.offset, ?_⟩
  obtain ⟨start, stop, hwhole, hspans⟩ := h.whole
  have hstop := hleads.stop.trans hwhole.stop
  rcases hleads.start with hsame | ⟨-, x, hx, hle⟩
  · exact ⟨start, stop, ⟨hsame.trans hwhole.start, hstop⟩, hspans⟩
  · refine ⟨x, stop, ⟨hx, hstop⟩, hspans.offset_le, hspans.stop_le, ?_⟩
    exact fun hbehind => h.offset.trans (hle hbehind)

theorem reports_capture {p : Plan} (hp : p.Tame 0 behind keep) (h : (Plan.capture 0 p).Walk s t)
    (hsize : 2 ≤ s.slots.length) : Reports behind s t := by
  cases h with
  | @capture _ _ _ t h =>
    have hleads := h.leads hp
    have hlength := hleads.size
    rw [Slots.length_openAt] at hlength
    have hwhole {start : Nat} (h : t.slots[0]? = some (some start)) :
        (t.slots.closeAt 0 t.cursor.offset).Whole start t.cursor.offset :=
      Slots.whole_closeAt (hlength ▸ hsize) h _
    have hend : t.cursor.offset ≤ s.cursor.text.length := by
      have hlength := t.cursor.length_text
      rw [hleads.text] at hlength
      simp only at hlength
      omega
    refine ⟨hleads.offset, ?_⟩
    rcases hleads.start with hsame | ⟨-, x, hx, hle⟩
    · have hopened := hsame.trans (Slots.getElem?_openAt_zero hsize s.cursor.offset)
      exact ⟨s.cursor.offset, t.cursor.offset, hwhole hopened, hleads.offset, hend, fun _ => le_rfl⟩
    · exact ⟨x, t.cursor.offset, hwhole hx, hleads.offset, hend, hle⟩

theorem reports_scan {p : Simple} (hp : ∀ g ∈ p.captures, 0 < g)
    (h : (Plan.scan (.capture 0 p)).Walk s t) (hsize : 2 ≤ s.slots.length) :
    Reports behind s t := by
  cases h with
  | scan h =>
    obtain ⟨v, hwalk, rfl⟩ := walk_of_scanFrom? h
    obtain ⟨stop, hwhole, hle, hend⟩ :=
      (Simple.Whole.capture hp).slots_whole hwalk (by rw [Slots.length_forget]; exact hsize)
    refine ⟨Cursor.offset_le_forward _ _, s.cursor.offset, stop, hwhole, hle, ?_, fun _ => le_rfl⟩
    rw [Cursor.length_text]
    exact hend

/-- Every walk of a plan that captures the whole match first reports it. -/
theorem Whole.reports {p : Plan} (hp : p.Whole behind keep) (h : p.Walk s t)
    (hsize : 2 ≤ s.slots.length) : Reports behind s t := by
  cases hp with
  | capture hp => exact reports_capture hp h hsize
  | seq hp hq =>
    cases h with
    | seq hfirst hrest => exact (reports_capture hp hfirst hsize).leads (hrest.leads hq)
  | scan hp hq =>
    cases h with
    | seq hfirst hrest => exact (reports_scan hp hfirst hsize).leads (hrest.leads hq)

end Plan

namespace Program

theorem length_unset (groups : Nat) : 2 ≤ (Slots.unset groups).length := by
  rw [Slots.unset, List.length_replicate]
  omega

/-- A search with a plan succeeds with a walk from some later place. -/
theorem exists_of_searchPlan {p : Plan} {slots found : Slots} {origin : Option Nat} {budget : Nat}
    {behind ahead : Text} (h : searchPlan p slots origin budget behind ahead = some (some found)) :
    ∃ c : Cursor, c.text = (Cursor.mk behind ahead).text ∧ behind.length ≤ c.offset ∧
      ∃ t, p.Walk ⟨c, slots, origin⟩ t ∧ clampStart t.slots = found := by
  induction ahead generalizing behind budget with
  | nil =>
    rw [searchPlan] at h
    split at h
    · rename_i t _ hmatched
      refine ⟨⟨behind, []⟩, rfl, le_rfl, t, Plan.walk_of_run hmatched, ?_⟩
      exact Option.some.inj (Option.some.inj h)
    · cases h
    · cases h
    · cases h
  | cons d ahead ih =>
    rw [searchPlan] at h
    split at h
    · rename_i t _ hmatched
      refine ⟨⟨behind, d :: ahead⟩, rfl, le_rfl, t, Plan.walk_of_run hmatched, ?_⟩
      exact Option.some.inj (Option.some.inj h)
    · cases h
    · obtain ⟨c, htext, hoffset, t, hwalk, hfound⟩ := ih h
      refine ⟨c, ?_, (Nat.le_succ _).trans hoffset, t, hwalk, hfound⟩
      rw [htext]
      simp [Cursor.text]
    · cases h

theorem span?_clampStart {slots : Slots} {start stop : Nat} (h : slots.Whole start stop) :
    (clampStart slots).span? 0 = some (min start stop, stop) := by
  unfold clampStart
  rw [h.span?]
  apply Slots.Whole.span?
  constructor
  · have hfirst := (List.getElem?_eq_some_iff.mp h.start).choose
    exact List.getElem?_set_self hfirst
  · rw [Slots.getElem?_openAt (by decide)]
    exact h.stop

/-- What a search reports: a whole match that ends in the text, no earlier than the search started. If
no look-behind has `\K` inside, it does not start earlier either. -/
def Finds (behind : Bool) (g : Program) : Prop :=
  ∀ (limit : Nat) (origin : Option Nat) (c : Cursor) (found : Found),
    g.search? limit origin c = some (some found) →
      ∃ start stop, found.span? 0 = some (start, stop) ∧ start ≤ stop ∧ c.Spans behind start stop

theorem finds_of_whole {behind keep : Bool} {g : Program} (hg : g.matcher.Whole behind keep) :
    g.Finds behind := by
  intro limit origin c found h
  unfold search? at h
  have hsize := length_unset g.groups
  cases hmatcher : g.matcher with
  | onePass p =>
    rw [hmatcher] at hg h
    obtain ⟨pre, post, hsplit, u, hwalk, rfl⟩ := exists_of_searchOnePass (Option.some.inj h)
    obtain ⟨stop, hwhole, hle, hend⟩ := Simple.Whole.slots_whole hg hwalk hsize
    have hlength : c.text.length = c.behind.length + pre.length + post.length := by
      rw [Cursor.length_text, hsplit, List.length_append, Cursor.offset, Nat.add_assoc]
    have hoffset : c.offset = c.behind.length := rfl
    simp only at hwhole hle hend
    refine ⟨_, stop, hwhole.span?, hle, by omega, by omega, fun _ => by omega⟩
  | backtracking p =>
    rw [hmatcher] at hg h
    obtain ⟨d, htext, hoffset, t, hwalk, rfl⟩ := exists_of_searchPlan h
    have hreports := Plan.Whole.reports hg hwalk hsize
    obtain ⟨start, stop, hwhole, hspans⟩ := hreports.whole
    have hstart : c.offset ≤ d.offset := hoffset
    refine ⟨min start stop, stop, span?_clampStart hwhole, Nat.min_le_right _ _,
      hstart.trans hspans.offset_le, htext ▸ hspans.stop_le, fun hbehind => ?_⟩
    exact hstart.trans (Nat.le_min.mpr ⟨hspans.onward hbehind, hspans.offset_le⟩)

end Program

namespace Pattern

/-- No look-behind of the pattern has `\K` inside. -/
def onward (t : Text) : Bool := (read? t).all fun q => q.regex.onward false

end Pattern

namespace Program

variable {t : Text} {g : Program}

theorem whole_of_compile? (h : compile? t = some g) : g.matcher.Whole true true := by
  simp only [compile?, Option.bind_eq_bind, Option.bind_eq_some_iff] at h
  obtain ⟨q, hq, m, hm, hg⟩ := h
  obtain rfl := Option.some.inj hg
  exact (Pattern.numbered_of_read? hq).splitBehind.matcher hm

theorem finds_of_compile? (h : compile? t = some g) : g.Finds true :=
  finds_of_whole (whole_of_compile? h)

theorem finds_of_onward (ht : Pattern.onward t = true) (h : compile? t = some g) :
    g.Finds false := by
  simp only [compile?, Option.bind_eq_bind, Option.bind_eq_some_iff] at h
  obtain ⟨q, hq, m, hm, hg⟩ := h
  have honward : q.regex.onward false = true := by simpa [Pattern.onward, hq] using ht
  have htame := (Pattern.numbered_of_read? hq).of_onward honward
  have hwhole : m.Whole false true := htame.splitBehind.matcher hm
  obtain rfl := Option.some.inj hg
  exact finds_of_whole (g := ⟨t, _, _, m⟩) hwhole

end Program

end PatternLoom
