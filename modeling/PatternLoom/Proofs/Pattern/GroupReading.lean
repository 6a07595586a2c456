import PatternLoom.Proofs.Pattern.Reading

/-!
# Reading groups and whole patterns

A bracketed part is read as one atom if its body can be read inside the new group, and not at all if
the body cannot be read or too many groups are open already. A whole pattern is a part that is read
from the start.
-/

namespace PatternLoom.Reader

set_option autoImplicit false

variable {r : Reader}

def openedCapture (group : Nat) : OpenGroup := { kind := .capture group, outer := {} }

theorem openGroup_eq (hr : r.Basic) (kind : GroupKind) :
    r.openGroup kind r.flags = if r.enclosing.length + 2 > 64 then none
      else some (r.inside 0 { kind, outer := {} }) := by
  obtain ⟨size, flags, groups, names, references, numbered, current, enclosing, atom⟩ := r
  obtain rfl : flags = {} := hr.flags
  cases atom <;> rfl

theorem openCapture_eq (hr : r.Basic) :
    r.openCapture = if r.enclosing.length + 2 > 64 then none
      else some (r.inside 1 (openedCapture (r.groups + 1))) := by
  obtain ⟨size, flags, groups, names, references, numbered, current, enclosing, atom⟩ := r
  obtain rfl : flags = {} := hr.flags
  cases atom <;> rfl

theorem openBracket?_of_quiet (hr : r.Basic) {t : Text} (ht : Quiet t) :
    r.openBracket? t = r.openCapture.map (·, t) := by
  have hmark : ∀ t', t ≠ '?' :: t' := by
    rintro t' rfl
    exact ht
  simp only [openBracket?, skip?_eq hr.flags ht.take_three, Option.bind_eq_bind, Option.bind_some]
  split
  case h_12 => cases r.openCapture <;> rfl
  all_goals exact absurd rfl (hmark _)

theorem take_three_bracket {t : Text} (ht : Quiet t) :
    ('(' :: t).take 3 ≠ ['(', '?', '#'] := by
  cases t with
  | nil => simp
  | cons c t =>
    intro h
    obtain rfl : c = '?' := (List.cons.inj (List.cons.inj h).2).1
    exact ht

/-- What a group becomes when it closes: its body, or a capture of it. -/
def Closed (g : OpenGroup) (p : Regex) : Prop :=
  g.outer = {} ∧ (g.kind = .plain ∧ p = g.body ∨ ∃ group, g.kind = .capture group ∧
    p = .capture group g.body)

theorem closeBracket?_of_settle (hr : r.Basic) {r' : Reader} {k : Nat} {g : OpenGroup} {p : Regex}
    (h : r'.settle = r.inside k g) (hp : Closed g p) :
    r'.closeBracket? = some (r.offered k p) := by
  obtain ⟨houter, hkind⟩ := hp
  have hb := basic_settle_iff.mpr hr
  have hflags : r.settle.flags = {} := hb.flags
  have hnone := r.atom_settle
  have hagree : (r.inside k g).referencesAgree g = true := by
    simp [referencesAgree, Reader.inside, hb.numbered]
  have henclosing : (r.inside k g).enclosing = r.settle.current :: r.enclosing := rfl
  have hcurrent : (r.inside k g).current = g := rfl
  have houter' := r.enclosing_settle
  rcases hkind with ⟨hkind, rfl⟩ | ⟨group, hkind, rfl⟩
  all_goals
    simp only [closeBracket?, h, henclosing, hcurrent, if_pos hagree, hkind, houter]
    rw [offer, settle_of_atom_eq_none (by exact hnone)]
    simp only [Reader.inside, offered, hflags, ← houter']

theorem reads_bracket (hr : r.Basic) (hdepth : r.enclosing.length < 63) :
    Reads Quiet r ['('] (r.inside 1 (openedCapture (r.groups + 1))) := by
  refine .of_step hr.flags (fun rest hrest => take_three_bracket hrest) fun rest hrest => ?_
  change r.openBracket? rest = _
  rw [openBracket?_of_quiet hr hrest, openCapture_eq hr, if_neg (by omega), Option.map_some]

/-- No group opens inside of sixty-three others. -/
theorem fails_bracket (hr : r.Basic) (hdepth : 63 ≤ r.enclosing.length) : Fails Quiet r ['('] := by
  refine .of_step hr.flags (fun rest hrest => take_three_bracket hrest) fun rest hrest => ?_
  change r.openBracket? rest = _
  rw [openBracket?_of_quiet hr hrest, openCapture_eq hr, if_pos (by omega), Option.map_none]

theorem quiet_append_bracket {body : Text} (hquiet : ∀ rest, Quiet rest → Quiet (body ++ rest)) :
    ∀ rest, Any rest → Quiet ((body ++ [')']) ++ rest) := by
  intro rest _
  rw [List.append_assoc]
  exact hquiet _ trivial

theorem Basic.reads_close (hr : r.Basic) {r' : Reader} {k : Nat} {g : OpenGroup} {p : Regex}
    (h : r'.settle = r.inside k g) (hp : Closed g p) : Reads Any r' [')'] (r.offered k p) := by
  have hbasic : r'.Basic := basic_settle_iff.mp (h ▸ hr.inside k g)
  refine .of_char hbasic.flags (by decide) fun rest _ => ?_
  change r'.closeBracket?.map (·, rest) = _
  rw [closeBracket?_of_settle hr h hp, Option.map_some]

/-- A capture group is read as one atom when its body is read inside it. -/
theorem Reads.capture (hr : r.Basic) (hdepth : r.enclosing.length < 63) {body : Text} {k : Nat}
    {g : OpenGroup} {p : Regex} (hp : Closed g p)
    (hbody : ∃ r', r'.settle = r.inside k g ∧
      Reads Quiet (r.inside 1 (openedCapture (r.groups + 1))) body r')
    (hquiet : ∀ rest, Quiet rest → Quiet (body ++ rest)) :
    Reads Any r (['('] ++ (body ++ [')'])) (r.offered k p) := by
  obtain ⟨r', hr', hread⟩ := hbody
  exact (reads_bracket hr hdepth).append (hread.append (hr.reads_close hr' hp) fun _ _ => trivial)
    (quiet_append_bracket hquiet)

/-- A capture group cannot be read inside of sixty-three others, nor when its body cannot be read. -/
theorem Fails.capture (hr : r.Basic) {body : Text}
    (hbody : r.enclosing.length < 63 →
      Fails Quiet (r.inside 1 (openedCapture (r.groups + 1))) body)
    (hquiet : ∀ rest, Quiet rest → Quiet (body ++ rest)) : Fails Any r (['('] ++ (body ++ [')'])) := by
  by_cases hdepth : r.enclosing.length < 63
  · have hfails : Fails Any (r.inside 1 (openedCapture (r.groups + 1))) (body ++ [')']) :=
      (hbody hdepth).append fun _ _ => trivial
    exact (reads_bracket hr hdepth).fails hfails (quiet_append_bracket hquiet)
  · exact (fails_bracket hr (by omega)).append (quiet_append_bracket hquiet)

theorem body_elements (kind : GroupKind) (ps : List Regex) :
    OpenGroup.body { kind, outer := {}, elements := ps.reverse ++ [] } = .ofElements ps := by
  simp [OpenGroup.body, OpenGroup.alternatives, OpenGroup.branch, Regex.ofAlternatives]

theorem reads_capture (hr : r.Basic) (hdepth : r.enclosing.length < 63) {body : Text} {k : Nat}
    {ps : List Regex}
    (hbody : ReadsAs (r.inside 1 (openedCapture (r.groups + 1))) body k ps)
    (hquiet : ∀ rest, Quiet rest → Quiet (body ++ rest)) :
    Reads Any r (['('] ++ (body ++ [')']))
      (r.offered (1 + k) (.capture (r.groups + 1) (.ofElements ps))) := by
  obtain ⟨r', hr', hread⟩ := hbody
  rw [inside_added] at hr'
  have hbody := congrArg (Regex.capture (r.groups + 1)) (body_elements (.capture (r.groups + 1)) ps)
  exact Reads.capture hr hdepth ⟨rfl, Or.inr ⟨_, rfl, hbody.symm⟩⟩ ⟨r', hr', hread⟩ hquiet

def literals (t : Text) : Regex := .ofElements (symbolElements t)

theorem joinWith_cons_cons (separator a b : Text) (rest : List Text) :
    Text.joinWith separator (a :: b :: rest) =
      a ++ (separator ++ Text.joinWith separator (b :: rest)) := by
  simp [Text.joinWith]

theorem quiet_alternatives_append (first : Text) (others : List Text) {rest : Text}
    (h : Quiet rest) :
    Quiet (Text.joinWith ['|'] ((first :: others).map Text.escapeLiteral) ++ rest) := by
  cases others with
  | nil => simpa [Text.joinWith] using quiet_escapeLiteral_append first h
  | cons second others =>
    rw [List.map_cons, List.map_cons, joinWith_cons_cons, List.append_assoc]
    exact quiet_escapeLiteral_append first trivial

theorem reads_alternative (hr : r.Basic) {k : Nat} (t : Text) {g : OpenGroup}
    (hg : g.elements = []) {s : Reader} (hs : s.settle = r.inside k g) :
    ∃ s', s'.settle = r.inside k { g with elements := (symbolElements t).reverse } ∧
      Reads Quiet s (Text.escapeLiteral t) s' := by
  have hb : s.Basic := basic_settle_iff.mp (hs ▸ hr.inside k g)
  obtain ⟨s', hs', hread⟩ := readsAs_symbols hb t
  rw [← added_settle, hs, inside_added, hg, List.append_nil] at hs'
  exact ⟨s', hs', hread⟩

/-- Escaped texts with bars between are the alternatives of a group. -/
theorem reads_alternatives (hr : r.Basic) {k : Nat} (first : Text) (others : List Text)
    {g : OpenGroup} (hg : g.elements = []) {s : Reader} (hs : s.settle = r.inside k g) :
    ∃ g', g'.kind = g.kind ∧ g'.outer = g.outer ∧
      g'.alternatives = g.finished.reverse ++ (first :: others).map literals ∧
      ∃ s', s'.settle = r.inside k g' ∧
        Reads Quiet s (Text.joinWith ['|'] ((first :: others).map Text.escapeLiteral)) s' := by
  induction others generalizing first g s with
  | nil =>
    obtain ⟨s', hs', hread⟩ := reads_alternative hr first hg hs
    refine ⟨{ g with elements := (symbolElements first).reverse }, rfl, rfl, ?_, s', hs', ?_⟩
    · simp [OpenGroup.alternatives, OpenGroup.branch, literals]
    · simpa [Text.joinWith] using hread
  | cons second others ih =>
    obtain ⟨s₁, hs₁, hread⟩ := reads_alternative hr first hg hs
    have hbar : Reads Any s₁ ['|']
        (r.inside k { g with finished := literals first :: g.finished, elements := [] }) := by
      have hb : s₁.Basic := basic_settle_iff.mp (hs₁ ▸ hr.inside k _)
      refine .of_char hb.flags (by decide) fun rest _ => ?_
      simp only [step?, hs₁, OpenGroup.branch, Reader.inside, List.reverse_reverse, literals]
      rfl
    obtain ⟨g', hkind, houter, halts, s', hs', hread'⟩ :=
      ih second (g := { g with finished := literals first :: g.finished, elements := [] }) rfl
        (settle_inside _ _ _)
    refine ⟨g', hkind, houter, ?_, s', hs', ?_⟩
    · rw [halts, List.reverse_cons, List.append_assoc]
      rfl
    · rw [List.map_cons, List.map_cons, joinWith_cons_cons]
      exact hread.append (hbar.append hread' fun _ _ => trivial) fun rest _ => trivial

def choice (first : Text) (others : List Text) : Regex :=
  .ofAlternatives (literals first) (others.map literals)

/-- A list of escaped texts as a capture group. -/
theorem reads_choice (hr : r.Basic) (hdepth : r.enclosing.length < 63) (first : Text)
    (others : List Text) :
    Reads Any r
      (['('] ++ (Text.joinWith ['|'] ((first :: others).map Text.escapeLiteral) ++ [')']))
      (r.offered 1 (.capture (r.groups + 1) (choice first others))) := by
  obtain ⟨g, hkind, houter, halts, hread⟩ :=
    reads_alternatives hr first others (g := openedCapture (r.groups + 1)) rfl
      (settle_inside r 1 (openedCapture (r.groups + 1)))
  have hbody : g.body = choice first others := by
    rw [OpenGroup.body, halts]
    rfl
  have hclosed : Closed g (.capture (r.groups + 1) (choice first others)) :=
    ⟨houter, Or.inr ⟨_, hkind, by rw [hbody]⟩⟩
  exact Reads.capture hr hdepth hclosed hread fun rest => quiet_alternatives_append first others

def openedPlain : OpenGroup := { kind := .plain, outer := {} }

theorem step?_plain (hr : r.Basic) (rest : Text) :
    r.step? '(' ('?' :: ':' :: rest) = (r.openGroup .plain r.flags).map (·, rest) := by
  have hskip : r.skip? ('?' :: ':' :: rest) = some ('?' :: ':' :: rest) :=
    skip?_of_head hr.flags (by simp)
  change r.openBracket? ('?' :: ':' :: rest) = _
  rw [openBracket?, hskip]
  cases h : r.openGroup .plain r.flags with
  | none => exact congrArg (Option.bind · _) h
  | some s => exact congrArg (Option.bind · _) h

theorem reads_plain_bracket (hr : r.Basic) (hdepth : r.enclosing.length < 63) :
    Reads Any r ['(', '?', ':'] (r.inside 0 openedPlain) := by
  refine .of_step hr.flags (fun rest _ => by simp) fun rest _ => ?_
  rw [List.cons_append, List.cons_append, List.nil_append, step?_plain hr, openGroup_eq hr,
    if_neg (by omega), Option.map_some]
  rfl

theorem reads_plain (hr : r.Basic) (hdepth : r.enclosing.length < 63) {body : Text} {k : Nat}
    {ps : List Regex} (hbody : ReadsAs (r.inside 0 openedPlain) body k ps) :
    Reads Any r (['(', '?', ':'] ++ (body ++ [')'])) (r.offered k (.ofElements ps)) := by
  obtain ⟨r', hr', hread⟩ := hbody
  rw [inside_added, Nat.zero_add] at hr'
  have hclose := hr.reads_close hr' ⟨rfl, Or.inl ⟨rfl, (body_elements .plain ps).symm⟩⟩
  exact (reads_plain_bracket hr hdepth).append (hread.append hclose fun _ _ => trivial)
    fun _ _ => trivial

theorem fails_plain (hr : r.Basic) (hdepth : r.enclosing.length < 63) {body : Text}
    (hbody : Fails Quiet (r.inside 0 openedPlain) body) :
    Fails Any r (['(', '?', ':'] ++ (body ++ [')'])) := by
  have hfails : Fails Any (r.inside 0 openedPlain) (body ++ [')']) :=
    hbody.append fun _ _ => trivial
  exact (reads_plain_bracket hr hdepth).fails hfails fun _ _ => trivial

theorem basic_start (size : Nat) : (start size).Basic := ⟨rfl, rfl, rfl, rfl⟩

theorem read?_of_readsAs {t : Text} {k : Nat} {ps : List Regex}
    (h : ReadsAs (start (Text.byteLength t)) t k ps) :
    Pattern.read? t = some ⟨.ofElements ps, k, [], []⟩ := by
  obtain ⟨r', hr', n, hn, hrun⟩ := h
  have hbasic : r'.Basic := basic_settle_iff.mp (hr' ▸ (basic_start _).added k ps)
  have hfuel : t.length + 1 = t.length - n + 1 + n := by omega
  have hrun' : run? (t.length + 1) (start (Text.byteLength t)) t = some r' := by
    have := hrun (t.length - n + 1) [] trivial
    rw [List.append_nil, ← hfuel] at this
    rw [this, run?, skip?_of_head hbasic.flags (by simp)]
  have hbody : ((start (Text.byteLength t)).added k ps).current.body = .ofElements ps :=
    body_elements .root ps
  have hgroups : ((start (Text.byteLength t)).added k ps).groups = k := Nat.zero_add k
  rw [Pattern.read?, hrun', Option.bind_eq_bind, Option.bind_some]
  simp only [hr', hbody, hgroups]
  rfl

/-- A pattern that has to match from the start of a text to its end. -/
def anchored (body : Text) : Text :=
  ['\\', 'A'] ++ (['(', '?', ':'] ++ (body ++ [')']) ++ ['\\', 'z'])

def anchoredElements (p : Regex) : List Regex :=
  [.anchor .textStart] ++ (traces p ++ [.anchor .textEnd])

theorem reads_textStart (hr : r.Basic) :
    Reads Any r ['\\', 'A'] (r.offered 0 (.anchor .textStart)) :=
  .of_char hr.flags (by decide) fun rest _ => congrArg (fun s => some (s, rest)) (offer_eq r _)

theorem reads_textEnd (hr : r.Basic) :
    Reads Any r ['\\', 'z'] (r.offered 0 (.anchor .textEnd)) :=
  .of_char hr.flags (by decide) fun rest _ => congrArg (fun s => some (s, rest)) (offer_eq r _)

theorem readsAs_anchored (hr : r.Basic) (hdepth : r.enclosing.length < 63) {body : Text} {k : Nat}
    {ps : List Regex}
    (hbody : ReadsAs ((r.offered 0 (.anchor .textStart)).inside 0 openedPlain) body k ps) :
    ReadsAs r (anchored body) k (anchoredElements (.ofElements ps)) := by
  have hbasic := hr.offered 0 (.anchor .textStart)
  have hplain := reads_plain hbasic (r.enclosing_settle.symm ▸ hdepth) hbody
  have hend := reads_textEnd (hbasic.offered k (.ofElements ps))
  refine ⟨_, ?_,
    ((reads_textStart hr).append (hplain.append hend fun _ _ => trivial) fun _ _ => trivial).of_any⟩
  rw [settle_offered, offered_added, offered_added, Nat.zero_add, Nat.add_zero]
  rfl

theorem fails_anchored (hr : r.Basic) (hdepth : r.enclosing.length < 63) {body : Text}
    (hbody : Fails Quiet ((r.offered 0 (.anchor .textStart)).inside 0 openedPlain) body) :
    Fails Any r (anchored body) := by
  have hplain :=
    fails_plain (hr.offered 0 (.anchor .textStart)) (r.enclosing_settle.symm ▸ hdepth) hbody
  exact (reads_textStart hr).fails (hplain.append fun _ _ => trivial) fun _ _ => trivial

theorem read?_of_fails {t : Text} (h : Fails Quiet (start (Text.byteLength t)) t) :
    Pattern.read? t = none := by
  obtain ⟨n, hn, hrun⟩ := h
  have hfuel : t.length + 1 = t.length + 1 - n + n := by omega
  have := hrun (t.length + 1 - n) [] trivial
  rw [List.append_nil, ← hfuel] at this
  rw [Pattern.read?, this]
  rfl

/-- A pattern that can be read where there is room for another group can be read alone and between
anchors. -/
theorem read?_of_readsAs_inside {t : Text} {k : Nat} {ps : List Regex}
    (h : ∀ r : Reader, r.Basic → r.enclosing.length < 63 → ReadsAs r t k ps) :
    Pattern.read? t = some ⟨.ofElements ps, k, [], []⟩ ∧
      Pattern.read? (anchored t) =
        some ⟨.ofElements (anchoredElements (.ofElements ps)), k, [], []⟩ := by
  have hbasic := basic_start (Text.byteLength (anchored t))
  have hinside := (hbasic.offered 0 (.anchor .textStart)).inside 0 openedPlain
  have hroom : 0 < 63 := by decide
  have hroom' : 1 < 63 := by decide
  exact ⟨read?_of_readsAs (h _ (basic_start _) hroom),
    read?_of_readsAs (readsAs_anchored hbasic hroom (h _ hinside hroom'))⟩

theorem read?_of_fails_inside {t : Text}
    (h : ∀ r : Reader, r.Basic → r.enclosing.length < 63 → Fails Quiet r t) :
    Pattern.read? t = none ∧ Pattern.read? (anchored t) = none := by
  have hbasic := basic_start (Text.byteLength (anchored t))
  have hinside := (hbasic.offered 0 (.anchor .textStart)).inside 0 openedPlain
  have hroom : 0 < 63 := by decide
  have hroom' : 1 < 63 := by decide
  exact ⟨read?_of_fails (h _ (basic_start _) hroom),
    read?_of_fails (fails_anchored hbasic hroom (h _ hinside hroom')).of_any⟩

end PatternLoom.Reader
