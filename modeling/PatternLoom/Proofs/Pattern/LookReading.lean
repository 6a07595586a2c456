import PatternLoom.Proofs.Pattern.Meaning

/-!
# Reading look-around

A part in brackets that asks for what follows, or for what comes before, is read as one element when
its body is. It captures nothing and counts no group.
-/

namespace PatternLoom.Reader

set_option autoImplicit false

variable {r : Reader} {mark : Text} {kind : GroupKind} {make : Regex → Regex}

/-- The mark behind the opening bracket of a group for look-around, the kind of the group, and what is
made of its body. -/
inductive Look : Text → GroupKind → (Regex → Regex) → Prop where
  | ahead : Look ['?', '='] (.ahead true) (.ahead true)
  | behind : Look ['?', '<', '='] (.behind true) (.behind true)

theorem Look.step? (h : Look mark kind make) (hr : r.Basic) (rest : Text) :
    r.step? '(' (mark ++ rest) = (r.openGroup kind r.flags).map (·, rest) := by
  have hskip (t : Text) : r.skip? ('?' :: t) = some ('?' :: t) :=
    skip?_of_head hr.flags (by simp)
  cases h with
  | ahead =>
    change r.openBracket? ('?' :: '=' :: rest) = _
    rw [openBracket?, hskip]
    cases r.openGroup (.ahead true) r.flags <;> rfl
  | behind =>
    change r.openBracket? ('?' :: '<' :: '=' :: rest) = _
    rw [openBracket?, hskip]
    cases r.openGroup (.behind true) r.flags <;> rfl

theorem Look.reads_bracket (h : Look mark kind make) (hr : r.Basic)
    (hdepth : r.enclosing.length < 63) :
    Reads Any r ('(' :: mark) (r.inside 0 { kind, outer := {} }) := by
  apply Reads.of_step hr.flags
  · intro rest _
    cases h <;> simp
  · intro rest _
    rw [h.step? hr, openGroup_eq hr, if_neg (by omega), Option.map_some]

theorem Look.closeBracket? (h : Look mark kind make) (hr : r.Basic) {r' : Reader} {k : Nat}
    {g : OpenGroup} (hg : g.kind = kind) (houter : g.outer = {}) (h' : r'.settle = r.inside k g) :
    r'.closeBracket? = some (r.offered k (make g.body)) := by
  have hb := basic_settle_iff.mpr hr
  have hflags : r.settle.flags = {} := hb.flags
  have hnone := r.atom_settle
  have hagree : (r.inside k g).referencesAgree g = true := by
    simp [referencesAgree, Reader.inside, hb.numbered]
  have henclosing : (r.inside k g).enclosing = r.settle.current :: r.enclosing := rfl
  have hcurrent : (r.inside k g).current = g := rfl
  have houter' := r.enclosing_settle
  cases h
  all_goals
    simp only [Reader.closeBracket?, h', henclosing, hcurrent, if_pos hagree, hg, houter]
    rw [offer, settle_of_atom_eq_none (by exact hnone)]
    simp only [Reader.inside, offered, hflags, ← houter']

theorem Look.reads_close (h : Look mark kind make) (hr : r.Basic) {r' : Reader} {k : Nat}
    {g : OpenGroup} (hg : g.kind = kind) (houter : g.outer = {}) (h' : r'.settle = r.inside k g) :
    Reads Any r' [')'] (r.offered k (make g.body)) := by
  have hbasic : r'.Basic := basic_settle_iff.mp (h' ▸ hr.inside k g)
  apply Reads.of_char hbasic.flags (by decide)
  intro rest _
  change r'.closeBracket?.map (·, rest) = _
  rw [h.closeBracket? hr hg houter h', Option.map_some]

/-- A part in brackets for look-around is read as one element. -/
theorem reads_look (h : Look mark kind make) (hr : r.Basic) (hdepth : r.enclosing.length < 63)
    {body : Text} {k : Nat} {ps : List Regex}
    (hbody : ReadsAs (r.inside 0 { kind, outer := {} }) body k ps) :
    Reads Any r ('(' :: mark ++ (body ++ [')'])) (r.offered k (make (.ofElements ps))) := by
  obtain ⟨r', hr', hread⟩ := hbody
  rw [inside_added, Nat.zero_add] at hr'
  have hclose := h.reads_close hr rfl rfl hr'
  rw [body_elements] at hclose
  exact (h.reads_bracket hr hdepth).append (hread.append hclose fun _ _ => trivial)
    fun _ _ => trivial

theorem readsAs_look (h : Look mark kind make) (hr : r.Basic) (hdepth : r.enclosing.length < 63)
    (u : Text) :
    ReadsAs r ('(' :: mark ++ (Text.escapeLiteral u ++ [')'])) 0 [make (literals u)] := by
  have hmake : make (literals u) ≠ .empty := by
    cases h <;> simp
  exact .of_reads hmake (reads_look h hr hdepth (readsAs_symbols (hr.inside 0 _) u))

theorem readsAs_followed (hr : r.Basic) (hdepth : r.enclosing.length < 63) (t u : Text) :
    ReadsAs r (Text.escapeLiteral t ++ ('(' :: ['?', '='] ++ (Text.escapeLiteral u ++ [')']))) 0
      (symbolElements t ++ [.ahead true (literals u)]) := by
  have hlook : ∀ r', r'.settle = r.added 0 (symbolElements t) →
      ReadsAs r' ('(' :: ['?', '='] ++ (Text.escapeLiteral u ++ [')'])) 0
        [.ahead true (literals u)] := by
    intro r' hr'
    obtain ⟨hbasic, henclosing, -⟩ := frame_of_settle hr hr'
    exact readsAs_look .ahead hbasic (henclosing ▸ hdepth) u
  exact (readsAs_symbols hr t).append hlook fun rest _ => trivial

theorem readsAs_preceded (hr : r.Basic) (hdepth : r.enclosing.length < 63) (t u : Text) :
    ReadsAs r ('(' :: ['?', '<', '='] ++ (Text.escapeLiteral u ++ [')']) ++ Text.escapeLiteral t) 0
      ([.behind true (literals u)] ++ symbolElements t) := by
  have htext : ∀ r', r'.settle = r.added 0 [.behind true (literals u)] →
      ReadsAs r' (Text.escapeLiteral t) 0 (symbolElements t) :=
    fun r' hr' => readsAs_symbols (frame_of_settle hr hr').1 t
  exact (readsAs_look .behind hr hdepth u).append htext fun rest => quiet_escapeLiteral_append t

end PatternLoom.Reader
