import PatternLoom.Proofs.Pattern.Language
import PatternLoom.Proofs.Pattern.Reading

/-!
# Numbers of groups

The reader numbers groups from one in the order in which they open. So group zero is free for the whole
match, no group stands inside of itself, and a name belongs to one group. The only other thing that sets
a boundary of group zero is `\K`, and what it does to a match depends on where it stands: inside of a
look-behind it can make a match begin before the place where the search started.
-/

namespace PatternLoom

set_option autoImplicit false

namespace Regex

/-- Groups have numbers above `floor`, and those inside of a group above the number of that group. `\K`
stands where `keep` allows it, and inside of look-behinds only if `behind` allows that too. -/
def Tame (floor : Nat) (behind keep : Bool) : Regex → Prop
  | .empty | .chars _ | .anchor _ | .backref .. | .groupSet _ | .searchStart => True
  | .seq p q | .alt p q => p.Tame floor behind keep ∧ q.Tame floor behind keep
  | .capture g p => floor < g ∧ p.Tame g behind keep
  | .iterate _ _ _ p | .ahead _ p | .atomic p => p.Tame floor behind keep
  | .behind _ p => p.Tame floor behind (keep && behind)
  | .choose c p q =>
    c.Tame floor behind keep ∧ p.Tame floor behind keep ∧ q.Tame floor behind keep
  | .keepOut => keep = true

/-- No `\K` stands inside of a look-behind; `inside` tells whether the pattern itself does. -/
def onward (inside : Bool) : Regex → Bool
  | .empty | .chars _ | .anchor _ | .backref .. | .groupSet _ | .searchStart => true
  | .seq p q | .alt p q => p.onward inside && q.onward inside
  | .capture _ p | .iterate _ _ _ p | .ahead _ p | .atomic p => p.onward inside
  | .behind _ p => p.onward true
  | .choose c p q => c.onward inside && p.onward inside && q.onward inside
  | .keepOut => !inside

theorem Tame.mono {r : Regex} {floor floor' : Nat} {behind keep : Bool} (hr : r.Tame floor behind keep)
    (hle : floor' ≤ floor) : r.Tame floor' behind keep := by
  induction r generalizing keep with
  | seq p q ihp ihq | alt p q ihp ihq => exact ⟨ihp hr.1, ihq hr.2⟩
  | capture g p => exact ⟨hle.trans_lt hr.1, hr.2⟩
  | iterate lo hi greedy p ih | ahead positive p ih | atomic p ih | behind positive p ih => exact ih hr
  | choose c p q ihc ihp ihq => exact ⟨ihc hr.1, ihp hr.2.1, ihq hr.2.2⟩
  | _ => exact hr

theorem Tame.of_onward {r : Regex} {floor : Nat} {inside : Bool} (hr : r.Tame floor true true)
    (h : r.onward inside = true) : r.Tame floor false (!inside) := by
  induction r generalizing floor inside with
  | empty | chars | anchor | backref | groupSet | searchStart => trivial
  | seq p q ihp ihq | alt p q ihp ihq =>
    simp only [onward, Bool.and_eq_true] at h
    exact ⟨ihp hr.1 h.1, ihq hr.2 h.2⟩
  | capture g p ih => exact ⟨hr.1, ih hr.2 h⟩
  | iterate lo hi greedy p ih | ahead positive p ih | atomic p ih => exact ih hr h
  | behind positive p ih =>
    have hp : p.Tame floor false !true := ih hr h
    simpa [Tame] using hp
  | choose c p q ihc ihp ihq =>
    simp only [onward, Bool.and_eq_true] at h
    exact ⟨ihc hr.1 h.1.1, ihp hr.2.1 h.1.2, ihq hr.2.2 h.2⟩
  | keepOut => exact h

section

variable {floor : Nat} {behind keep : Bool}

theorem tame_ofElements {ps : List Regex} (h : ∀ p ∈ ps, p.Tame floor behind keep) :
    (ofElements ps).Tame floor behind keep :=
  ofElements_induction trivial (fun _ _ hp hq => ⟨hp, hq⟩) h

theorem tame_ofAlternatives {first : Regex} {others : List Regex}
    (hfirst : first.Tame floor behind keep) (h : ∀ p ∈ others, p.Tame floor behind keep) :
    (ofAlternatives first others).Tame floor behind keep :=
  ofAlternatives_induction (fun _ _ hp hq => ⟨hp, hq⟩) hfirst h

end

def Numbered (floor : Nat) (r : Regex) : Prop := r.Tame floor true true

end Regex

namespace GroupKind

/-- The floor for what stands in a group: its number, if it has one. -/
def floor (outer : Nat) : GroupKind → Nat
  | .capture g => g
  | _ => outer

def Numbered (outer : Nat) : GroupKind → Prop
  | .capture g => outer < g
  | .branches c => c.Numbered outer
  | .root | .plain | .ahead _ | .behind _ | .atomic | .condition => True

theorem Numbered.le_floor {kind : GroupKind} {outer : Nat} (h : kind.Numbered outer) :
    outer ≤ kind.floor outer := by
  cases kind with
  | capture g => exact Nat.le_of_lt h
  | _ => exact le_rfl

end GroupKind

namespace OpenGroup

/-- The elements and alternatives read so far have their groups numbered from a floor. -/
structure Numbered (floor : Nat) (g : OpenGroup) : Prop where
  finished : ∀ p ∈ g.finished, p.Numbered floor
  elements : ∀ p ∈ g.elements, p.Numbered floor

namespace Numbered

variable {floor : Nat} {g : OpenGroup}

theorem push (hg : g.Numbered floor) {p : Regex} (hp : p.Numbered floor) :
    (g.push p).Numbered floor := by
  unfold OpenGroup.push
  split
  · exact hg
  · exact ⟨hg.finished, List.forall_mem_cons.mpr ⟨hp, hg.elements⟩⟩

theorem branch (hg : g.Numbered floor) : g.branch.Numbered floor := by
  apply Regex.tame_ofElements
  intro p hp
  exact hg.elements p (List.mem_reverse.mp hp)

theorem alternatives (hg : g.Numbered floor) : ∀ p ∈ g.alternatives, p.Numbered floor := by
  intro p hp
  rcases List.mem_cons.mp (List.mem_reverse.mp hp) with rfl | hp
  · exact hg.branch
  · exact hg.finished p hp

theorem body (hg : g.Numbered floor) : g.body.Numbered floor := by
  have halts := hg.alternatives
  unfold OpenGroup.body
  split
  · trivial
  · rename_i p ps heq
    rw [heq] at halts
    obtain ⟨hp, hps⟩ := List.forall_mem_cons.mp halts
    exact Regex.tame_ofAlternatives hp hps

end Numbered

/-- The number of the innermost group with a number in a stack of open groups. -/
def floor : List OpenGroup → Nat
  | [] => 0
  | g :: enclosing => g.kind.floor (floor enclosing)

/-- The groups of a stack open in the order of their numbers, and what stands in one of them has its
groups numbered from the innermost of those around it. -/
def Nested : List OpenGroup → Prop
  | [] => True
  | g :: enclosing =>
    g.kind.Numbered (floor enclosing) ∧ g.Numbered (floor (g :: enclosing)) ∧ Nested enclosing

theorem kind_push (g : OpenGroup) (p : Regex) : (g.push p).kind = g.kind := by
  unfold push
  split <;> rfl

end OpenGroup

/-- Names of groups that have been opened, the latest first: no name and no group stands twice. -/
structure Named (groups : Nat) (names : List (Text × Nat)) : Prop where
  bounds : ∀ x ∈ names, x.2 ≤ groups
  distinct : names.Pairwise fun x y => x.1 ≠ y.1 ∧ y.2 < x.2

namespace Named

variable {groups groups' : Nat} {names : List (Text × Nat)}

theorem mono (h : Named groups names) (hle : groups ≤ groups') : Named groups' names :=
  ⟨fun x hx => (h.bounds x hx).trans hle, h.distinct⟩

/-- A name is taken from the group that had it before. -/
theorem again (h : Named groups names) (name : Text) :
    Named (groups + 1) ((name, groups + 1) :: names.filter (·.1 ≠ name)) := by
  have hbounds : ∀ x ∈ names.filter (·.1 ≠ name), x.1 ≠ name ∧ x.2 ≤ groups := by
    intro x hx
    obtain ⟨hx, hname⟩ := List.mem_filter.mp hx
    exact ⟨of_decide_eq_true hname, h.bounds x hx⟩
  constructor
  · intro x hx
    rcases List.mem_cons.mp hx with rfl | hx
    · exact le_rfl
    · exact (hbounds x hx).2.trans (Nat.le_succ groups)
  · refine .cons ?_ (h.distinct.filter _)
    intro x hx
    obtain ⟨hname, hle⟩ := hbounds x hx
    exact ⟨hname.symm, Nat.lt_succ_of_le hle⟩

end Named

namespace Reader

/-- The number of the innermost open group with a number. -/
def floor (r : Reader) : Nat := OpenGroup.floor (r.current :: r.enclosing)

/-- All that has been read has its groups numbered in the order in which they open. -/
structure Numbered (r : Reader) : Prop where
  nested : OpenGroup.Nested (r.current :: r.enclosing)
  atom : ∀ p, r.atom = some p → p.Numbered r.floor
  floor_le : r.floor ≤ r.groups
  named : Named r.groups r.names

theorem numbered_start (size : Nat) : (start size).Numbered where
  nested := ⟨trivial, ⟨List.forall_mem_nil _, List.forall_mem_nil _⟩, trivial⟩
  atom p h := by cases h
  floor_le := le_rfl
  named := ⟨List.forall_mem_nil _, .nil⟩

theorem floor_settle (r : Reader) : r.settle.floor = r.floor := by
  unfold settle
  split
  · rfl
  · simp only [floor, OpenGroup.floor, OpenGroup.kind_push]

namespace Numbered

variable {r r' : Reader} {t t' : Text} {p : Regex}

theorem current (hr : r.Numbered) : r.current.Numbered r.floor := hr.nested.2.1

/-- The current group is exchanged for one with the same floor. -/
theorem withCurrent (hr : r.Numbered) {g : OpenGroup}
    (hkind : g.kind.Numbered (OpenGroup.floor r.enclosing))
    (hfloor : OpenGroup.floor (g :: r.enclosing) = r.floor) (hg : g.Numbered r.floor) :
    ({ r with current := g } : Reader).Numbered := by
  have hatom := hr.atom
  rw [← hfloor] at hg hatom
  exact ⟨⟨hkind, hg, hr.nested.2.2⟩, hatom, hfloor.trans_le hr.floor_le, hr.named⟩

theorem push (hr : r.Numbered) (hp : p.Numbered r.floor) :
    ({ r with atom := none, current := r.current.push p } : Reader).Numbered := by
  have hbare : ({ r with atom := none } : Reader).Numbered :=
    ⟨hr.nested, fun _ h => (by cases h), hr.floor_le, hr.named⟩
  have hkind := OpenGroup.kind_push r.current p
  apply hbare.withCurrent
  · rw [hkind]
    exact hr.nested.1
  · rw [OpenGroup.floor, hkind]
    rfl
  · exact hr.current.push hp

theorem settle (hr : r.Numbered) : r.settle.Numbered := by
  unfold Reader.settle
  split
  · exact hr
  · rename_i p hp
    exact hr.push (hr.atom p hp)

theorem offer (hr : r.Numbered) (hp : p.Numbered r.floor) : (r.offer p).Numbered where
  nested := hr.settle.nested
  atom q h := by
    cases h
    exact r.floor_settle.symm ▸ hp
  floor_le := hr.settle.floor_le
  named := hr.settle.named

theorem offerLiteral (hr : r.Numbered) (c : Char) : (r.offerLiteral c).Numbered :=
  hr.offer trivial

theorem quantify? (hr : r.Numbered) {lo : Nat} {hi : Option Nat}
    (h : r.quantify? lo hi t = some (r', t')) : r'.Numbered := by
  simp only [Reader.quantify?, Option.bind_eq_bind, Option.bind_eq_some_iff] at h
  obtain ⟨p, hp, h⟩ := h
  split at h
  · obtain ⟨u, -, h⟩ := Option.bind_eq_some_iff.mp h
    cases h
    have hp : p.Numbered r.floor := hr.atom p hp
    apply hr.push
    split <;> exact hp
  · cases h

theorem openGroup (hr : r.Numbered) {kind : GroupKind} (hkind : kind.Numbered r.floor)
    (hle : kind.floor r.floor ≤ r.groups) {flags : Flags} (h : r.openGroup kind flags = some r') :
    r'.Numbered := by
  rw [← r.floor_settle] at hkind hle
  rw [← r.groups_settle] at hle
  have hs := hr.settle
  simp only [Reader.openGroup] at h
  split at h
  · cases h
  · cases h
    refine ⟨⟨hkind, ⟨List.forall_mem_nil _, List.forall_mem_nil _⟩, hs.nested⟩, ?_, hle, hs.named⟩
    intro p hp
    cases r.atom_settle.symm.trans hp

/-- A group with a number opens, after a change to the names that may be about that group. -/
theorem openCapture (hr : r.Numbered) {names : List (Text × Nat)} (hnames : Named (r.groups + 1) names)
    (h : ({ r with names } : Reader).openCapture = some r') : r'.Numbered := by
  have hcounted : ({ r with names, groups := r.groups + 1 } : Reader).Numbered :=
    ⟨hr.nested, hr.atom, hr.floor_le.trans (Nat.le_succ _), hnames⟩
  have hgroup : (GroupKind.capture (r.groups + 1)).Numbered r.floor := Nat.lt_succ_of_le hr.floor_le
  unfold Reader.openCapture at h
  exact hcounted.openGroup hgroup le_rfl h

theorem openNamed (hr : r.Numbered) {close : Char} (h : r.openNamed close t = some (r', t')) :
    r'.Numbered := by
  simp only [Reader.openNamed, Option.bind_eq_bind, Option.bind_eq_some_iff] at h
  obtain ⟨⟨name, rest⟩, -, r₁, h₁, h⟩ := h
  cases h
  exact hr.openCapture (hr.named.again name) h₁

theorem refer? (hr : r.Numbered) {group : Nat} (h : r.refer? group = some (r', p)) :
    r'.Numbered ∧ p.Numbered r'.floor := by
  unfold Reader.refer? at h
  split at h
  · cases h
    exact ⟨⟨hr.nested, hr.atom, hr.floor_le, hr.named⟩, trivial⟩
  · cases h

theorem referNumbered? (hr : r.Numbered) (h : r.referNumbered? t = some (r', p, t')) :
    r'.Numbered ∧ p.Numbered r'.floor := by
  simp only [Reader.referNumbered?, Option.bind_eq_bind, Option.bind_eq_some_iff] at h
  obtain ⟨⟨group, rest⟩, -, h⟩ := h
  split at h
  · obtain ⟨⟨r₁, q⟩, h₁, h⟩ := Option.bind_eq_some_iff.mp h
    cases h
    have hnumbered : ({ r with numbered := true } : Reader).Numbered :=
      ⟨hr.nested, hr.atom, hr.floor_le, hr.named⟩
    exact hnumbered.refer? h₁
  · cases h

theorem referBack? (hr : r.Numbered) {close : Char} (h : r.referBack? close t = some (r', p, t')) :
    r'.Numbered ∧ p.Numbered r'.floor := by
  simp only [Reader.referBack?, Option.bind_eq_bind, Option.bind_eq_some_iff] at h
  obtain ⟨⟨back, rest⟩, -, h⟩ := h
  split at h
  · split at h
    · obtain ⟨⟨r₁, q⟩, h₁, h⟩ := Option.bind_eq_some_iff.mp h
      cases h
      exact hr.refer? h₁
    · cases h
  · cases h

theorem referNamed? (hr : r.Numbered) {close : Char} (h : r.referNamed? close t = some (r', p, t')) :
    r'.Numbered ∧ p.Numbered r'.floor := by
  have hrefer {group : Nat} {u : Text}
      (h : ((r.refer? group).bind fun x => some (x.1, x.2, u)) = some (r', p, t')) :
      r'.Numbered ∧ p.Numbered r'.floor := by
    obtain ⟨⟨r₁, q⟩, h₁, h⟩ := Option.bind_eq_some_iff.mp h
    cases h
    exact hr.refer? h₁
  simp only [Reader.referNamed?, Option.bind_eq_bind] at h
  obtain ⟨⟨name, rest⟩, -, h⟩ := Option.bind_eq_some_iff.mp h
  split at h
  · exact hrefer h
  · obtain ⟨group, -, h⟩ := Option.bind_eq_some_iff.mp h
    exact hrefer h

theorem asCondition {floor : Nat} (hp : p.Numbered floor) : (Reader.asCondition p).Numbered floor := by
  unfold Reader.asCondition
  split
  · trivial
  · exact hp

theorem openConditional (hr : r.Numbered) (h : r.openConditional t = some (r', t')) :
    r'.Numbered := by
  simp only [Reader.openConditional] at h
  split at h
  · obtain ⟨r₁, h₁, h⟩ := Option.bind_eq_some_iff.mp h
    cases h
    have hkind : GroupKind.condition.Numbered r.floor := trivial
    exact hr.openGroup hkind hr.floor_le h₁
  · rename_i reference hasked
    obtain ⟨⟨r₁, p, u⟩, hreference, h⟩ := Option.bind_eq_some_iff.mp h
    have hrefer : r₁.Numbered ∧ p.Numbered r₁.floor := by
      subst hreference
      split at hasked
      · exact hr.referNamed? (Option.some.inj hasked)
      · exact hr.referNamed? (Option.some.inj hasked)
      · split at hasked
        · exact hr.referNumbered? (Option.some.inj hasked)
        · cases hasked
      · cases hasked
    split at h
    · rename_i heq
      cases heq
      obtain ⟨r₃, h₃, h⟩ := Option.bind_eq_some_iff.mp h
      cases h
      obtain ⟨hr₁, hp⟩ := hrefer
      have hkind : (GroupKind.branches p).Numbered r₁.floor := hp
      exact hr₁.openGroup hkind hr₁.floor_le h₃
    · cases h

theorem openBracket? (hr : r.Numbered) (h : r.openBracket? t = some (r', t')) : r'.Numbered := by
  simp only [Reader.openBracket?] at h
  obtain ⟨u, -, h⟩ := Option.bind_eq_some_iff.mp h
  have hopen {kind : GroupKind} {flags : Flags} {u : Text}
      (h : ((r.openGroup kind flags).bind fun r => some (r, u)) = some (r', t'))
      (hkind : kind.Numbered r.floor) (hfloor : kind.floor r.floor = r.floor) : r'.Numbered := by
    obtain ⟨r₁, h₁, h⟩ := Option.bind_eq_some_iff.mp h
    cases h
    exact hr.openGroup hkind (hfloor.trans_le hr.floor_le) h₁
  split at h
  · exact hopen h trivial rfl
  · exact hopen h trivial rfl
  · exact hopen h trivial rfl
  · exact hopen h trivial rfl
  · exact hr.settle.openNamed h
  · exact hr.settle.openNamed h
  · exact hr.settle.openNamed h
  · obtain ⟨⟨r₁, p, v⟩, h₁, h⟩ := Option.bind_eq_some_iff.mp h
    cases h
    obtain ⟨hr₁, hp⟩ := hr.settle.referNamed? h₁
    exact hr₁.offer hp
  · exact hopen h trivial rfl
  · exact hr.settle.openConditional h
  · obtain ⟨⟨flags, mark, v⟩, -, h⟩ := Option.bind_eq_some_iff.mp h
    split at h
    · exact hopen h trivial rfl
    · cases h
      have hempty := hr.offer (p := .empty) trivial
      exact ⟨hempty.nested, hempty.atom, hempty.floor_le, hempty.named⟩
  · obtain ⟨r₁, h₁, h⟩ := Option.bind_eq_some_iff.mp h
    cases h
    exact hr.openCapture (hr.named.mono (Nat.le_succ _)) h₁

theorem conditional? {floor : Nat} {condition : Regex} (hc : condition.Numbered floor)
    {g : OpenGroup} (hg : g.Numbered floor) (h : Reader.conditional? condition g = some p) :
    p.Numbered floor := by
  have halts := hg.alternatives
  unfold Reader.conditional? at h
  split at h
  · split at h
    · cases h
      trivial
    · cases h
  · rename_i yes no _ heq
    rw [heq] at halts
    obtain ⟨hyes, hno⟩ := List.forall_mem_cons.mp halts
    have hchoose {q : Regex}
        (h : (if yes = .empty ∧ q = .empty then some (Reader.asCondition condition)
          else some (.choose (Reader.asCondition condition) yes q)) = some p)
        (hq : q.Numbered floor) : p.Numbered floor := by
      split_ifs at h
      · rw [← Option.some.inj h]
        exact asCondition hc
      · rw [← Option.some.inj h]
        exact ⟨asCondition hc, hyes, hq⟩
    cases no with
    | nil => exact hchoose h trivial
    | cons q qs =>
      obtain ⟨hq, hqs⟩ := List.forall_mem_cons.mp hno
      exact hchoose h (Regex.tame_ofAlternatives hq hqs)
  · cases h

theorem closeBracket? (hr : r.Numbered) (h : r.closeBracket? = some r') : r'.Numbered := by
  have hs := hr.settle
  simp only [Reader.closeBracket?] at h
  split at h
  · cases h
  · rename_i outer enclosing heq
    have hnested := hs.nested
    have hle := hs.floor_le
    rw [Reader.floor, heq] at hle
    rw [heq] at hnested
    obtain ⟨hkind, hcurrent, houter⟩ := hnested
    have hback {flags : Flags} {p : Regex} (hp : p.Numbered (OpenGroup.floor (outer :: enclosing))) :
        ({ r.settle with flags, current := outer, enclosing } : Reader).offer p |>.Numbered := by
      refine offer ⟨houter, ?_, hkind.le_floor.trans hle, hs.named⟩ hp
      intro q hq
      cases r.atom_settle.symm.trans hq
    -- the floor of the body is the number of the group that closes, if it has one, and otherwise
    -- that of the groups around it
    have hbody := hcurrent.body
    rw [OpenGroup.floor] at hbody hcurrent
    split at h
    · cases hk : r.settle.current.kind with
      | root =>
        rw [hk] at h
        cases h
      | plain | ahead positive | behind positive | atomic =>
        rw [hk] at h hbody
        cases h
        exact hback hbody
      | capture group =>
        rw [hk] at h hkind hbody
        cases h
        exact hback ⟨hkind, hbody⟩
      | condition =>
        rw [hk] at h hbody
        cases h
        apply hs.withCurrent
        · rw [heq]
          exact hbody
        · rw [Reader.floor, OpenGroup.floor, OpenGroup.floor, hk]
          rfl
        · exact ⟨List.forall_mem_nil _, List.forall_mem_nil _⟩
      | branches condition =>
        rw [hk] at h hkind hcurrent
        obtain ⟨p, hp, h⟩ := Option.bind_eq_some_iff.mp h
        cases h
        exact hback (conditional? hkind hcurrent hp)
    · cases h

theorem readEscape? (hr : r.Numbered) (h : r.readEscape? t = some (r', t')) : r'.Numbered := by
  have hoffer {p : Regex} {u : Text} (h : some (r.offer p, u) = some (r', t'))
      (hp : p.Numbered r.floor) : r'.Numbered := by
    cases h
    exact hr.offer hp
  have hrefer {reference : Option (Reader × Regex × Text)}
      (hreference : ∀ r₁ p u, reference = some (r₁, p, u) → r₁.Numbered ∧ p.Numbered r₁.floor)
      (h : (reference.map fun x => (x.1.offer x.2.1, x.2.2)) = some (r', t')) : r'.Numbered := by
    obtain ⟨⟨r₁, p, u⟩, h₁, h⟩ := Option.map_eq_some_iff.mp h
    obtain ⟨hr₁, hp⟩ := hreference r₁ p u h₁
    cases h
    exact hr₁.offer hp
  have hlines : (Regex.ofElements [.iterate 0 none true (.literal false '\n'),
      .anchor .textEnd]).Numbered r.floor := ⟨trivial, trivial, trivial⟩
  have hbreak : lineBreak.Numbered r.floor := ⟨⟨trivial, trivial, trivial⟩, trivial⟩
  unfold Reader.readEscape? at h
  split at h
  · exact hoffer h trivial
  · exact hoffer h trivial
  · exact hoffer h hlines
  · cases h
  · exact hoffer h trivial
  · exact hoffer h trivial
  · exact hoffer h trivial
  · exact hoffer h trivial
  · exact hoffer h rfl
  · exact hoffer h trivial
  · exact hoffer h trivial
  · exact hoffer h hbreak
  · exact hoffer h trivial
  · exact hrefer (fun _ _ _ => hr.settle.referBack?) h
  · exact hrefer (fun _ _ _ => hr.settle.referBack?) h
  · exact hrefer (fun _ _ _ => hr.settle.referNamed?) h
  · exact hrefer (fun _ _ _ => hr.settle.referNamed?) h
  · split at h
    · exact hrefer (fun _ _ _ => hr.settle.referNumbered?) h
    · split at h
      · cases h
        exact hr.offerLiteral _
      · exact hoffer h trivial
      · cases h
  · cases h

theorem step? (hr : r.Numbered) {c : Char} (h : r.step? c t = some (r', t')) : r'.Numbered := by
  unfold Reader.step? at h
  split at h
  · cases h
    have hs := hr.settle
    refine hs.withCurrent hs.nested.1 rfl ⟨?_, List.forall_mem_nil _⟩
    exact List.forall_mem_cons.mpr ⟨hs.current.branch, hs.current.finished⟩
  · obtain ⟨r₁, h₁, h⟩ := Option.map_eq_some_iff.mp h
    cases h
    exact hr.closeBracket? h₁
  · exact hr.openBracket? h
  · exact hr.quantify? h
  · exact hr.quantify? h
  · exact hr.quantify? h
  · split at h
    · exact hr.quantify? h
    · cases h
      exact hr.offerLiteral _
  · cases h
    exact hr.offer trivial
  · cases h
    exact hr.offer trivial
  · cases h
    exact hr.offer trivial
  · obtain ⟨⟨s, u⟩, -, h⟩ := Option.map_eq_some_iff.mp h
    cases h
    exact hr.offer trivial
  · exact hr.readEscape? h
  · cases h
    exact hr.offerLiteral _

theorem run? (hr : r.Numbered) {fuel : Nat} (h : Reader.run? fuel r t = some r') : r'.Numbered := by
  induction fuel generalizing r t with
  | zero =>
    unfold Reader.run? at h
    split at h
    · cases h
      exact hr
    · cases h
  | succ fuel ih =>
    unfold Reader.run? at h
    split at h
    · cases h
    · cases h
      exact hr
    · obtain ⟨⟨r₁, u⟩, h₁, h⟩ := Option.bind_eq_some_iff.mp h
      exact ih (hr.step? h₁) h

end Numbered

end Reader

section

variable {t : Text} {q : Pattern}

/-- The groups of a pattern are numbered from one. -/
theorem Pattern.numbered_of_read? (h : Pattern.read? t = some q) : q.regex.Numbered 0 := by
  simp only [Pattern.read?] at h
  obtain ⟨r, hr, h⟩ := Option.bind_eq_some_iff.mp h
  split at h
  · cases h
    exact ((Reader.numbered_start _).run? hr).settle.current.body.mono (Nat.zero_le _)
  · cases h

end

end PatternLoom
