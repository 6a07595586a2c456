import PatternLoom.Pattern.Reader
import PatternLoom.Proofs.Text.Decimal
import PatternLoom.Text.Escape

/-!
# Reading without modes

What the reader makes of the parts of a pattern in which no mode is switched, no group is named and
none is referred to. A part adds elements to the group that is open where it begins. The element read
last may still wait for a quantifier, and so states are compared when they have settled.
-/

namespace PatternLoom

set_option autoImplicit false

/-- A text that, when it follows a part of a pattern, neither quantifies it nor starts a comment. -/
def Quiet : Text → Prop
  | '?' :: _ | '*' :: _ | '+' :: _ | '\x7b' :: _ => False
  | '(' :: '?' :: '#' :: _ => False
  | _ => True

theorem quiet_cons {c : Char} (h : Text.isMeta c = false) (t : Text) : Quiet (c :: t) := by
  unfold Quiet
  split
  case h_6 => trivial
  all_goals
    rename_i heq
    rw [(List.cons.inj heq).1] at h
    exact absurd h (by decide)

theorem Quiet.take_three {t : Text} (h : Quiet t) : t.take 3 ≠ ['(', '?', '#'] := by
  intro ht
  have heq := List.take_append_drop 3 t
  rw [ht] at heq
  rw [← heq] at h
  exact h

namespace Reader

/-- No mode is on, and no group has a name or is referred to. -/
structure Basic (r : Reader) : Prop where
  flags : r.flags = {}
  names : r.names = []
  references : r.references = []
  numbered : r.numbered = false

/-- The settled state with `k` more groups and more elements in the open group. -/
def added (r : Reader) (k : Nat) (ps : List Regex) : Reader :=
  { r.settle with
    groups := r.groups + k
    current := { r.settle.current with elements := ps.reverse ++ r.settle.current.elements } }

/-- The elements that a pattern leaves in a group: itself, unless it is empty. -/
def traces (p : Regex) : List Regex := if p = .empty then [] else [p]

/-- The settled state with `k` more groups and an atom that a quantifier may follow. -/
def offered (r : Reader) (k : Nat) (p : Regex) : Reader :=
  { r.settle with groups := r.groups + k, atom := some p }

/-- The settled state with `k` more groups, inside a group that has been opened. -/
def inside (r : Reader) (k : Nat) (g : OpenGroup) : Reader :=
  { r.settle with
    groups := r.groups + k
    current := g
    enclosing := r.settle.current :: r.enclosing }

section

variable (r : Reader)

@[simp] theorem flags_settle : r.settle.flags = r.flags := by
  unfold settle
  split <;> rfl

@[simp] theorem groups_settle : r.settle.groups = r.groups := by
  unfold settle
  split <;> rfl

@[simp] theorem enclosing_settle : r.settle.enclosing = r.enclosing := by
  unfold settle
  split <;> rfl

@[simp] theorem atom_settle : r.settle.atom = none := by
  unfold settle
  split
  · assumption
  · rfl

theorem settle_of_atom_eq_none {r : Reader} (h : r.atom = none) : r.settle = r := by
  rw [settle, h]

@[simp] theorem settle_settle : r.settle.settle = r.settle :=
  settle_of_atom_eq_none r.atom_settle

@[simp] theorem settle_added (k : Nat) (ps : List Regex) :
    (r.added k ps).settle = r.added k ps :=
  settle_of_atom_eq_none r.atom_settle

@[simp] theorem settle_inside (k : Nat) (g : OpenGroup) : (r.inside k g).settle = r.inside k g :=
  settle_of_atom_eq_none r.atom_settle

theorem added_of_settle {r r' : Reader} (h : r'.settle = r.settle) (k : Nat) (ps : List Regex) :
    r'.added k ps = r.added k ps := by
  have hgroups : r'.groups = r.groups := by rw [← groups_settle, h, groups_settle]
  rw [added, added, h, hgroups]

@[simp] theorem added_settle (k : Nat) (ps : List Regex) : r.settle.added k ps = r.added k ps :=
  added_of_settle r.settle_settle k ps

theorem added_added (k j : Nat) (ps qs : List Regex) :
    (r.added k ps).added j qs = r.added (k + j) (ps ++ qs) := by
  rw [added, settle_added]
  simp [added, Nat.add_assoc]

theorem settle_offered (k : Nat) (p : Regex) :
    (r.offered k p).settle = r.added k (traces p) := by
  have hatom := r.atom_settle
  change ({ r.offered k p with
    atom := none, current := r.settle.current.push p } : Reader) = r.added k (traces p)
  rw [OpenGroup.push, traces]
  split <;> simp only [offered, added, hatom, List.reverse_nil, List.nil_append,
    List.reverse_singleton, List.singleton_append]

theorem offered_added (k j : Nat) (p : Regex) (qs : List Regex) :
    (r.offered k p).added j qs = r.added (k + j) (traces p ++ qs) := by
  rw [← added_settle, settle_offered, added_added]

theorem inside_added (k j : Nat) (g : OpenGroup) (ps : List Regex) :
    (r.inside k g).added j ps =
      r.inside (k + j) { g with elements := ps.reverse ++ g.elements } := by
  rw [added, settle_inside]
  simp [inside, Nat.add_assoc]

theorem offer_eq (p : Regex) : r.offer p = r.offered 0 p := by
  have hgroups := r.groups_settle
  simp only [offer, offered, Nat.add_zero, ← hgroups]

end

/-- Reading a part of a pattern leads from one state to another, in front of any text of a kind. Every
step of the reader is paid for by a character. -/
def Reads (kind : Text → Prop) (r : Reader) (part : Text) (r' : Reader) : Prop :=
  ∃ n ≤ part.length, ∀ fuel rest, kind rest →
    run? (fuel + n) r (part ++ rest) = run? fuel r' rest

/-- A part of a pattern cannot be read in front of any text of a kind. -/
def Fails (kind : Text → Prop) (r : Reader) (part : Text) : Prop :=
  ∃ n ≤ part.length, ∀ fuel rest, kind rest → run? (fuel + n) r (part ++ rest) = none

def Any (_ : Text) : Prop := True

section

variable {kind kind' : Text → Prop} {r r' r'' : Reader} {u v : Text}

theorem Reads.append (h : Reads kind r u r') (h' : Reads kind' r' v r'')
    (hk : ∀ rest, kind' rest → kind (v ++ rest)) : Reads kind' r (u ++ v) r'' := by
  obtain ⟨n, hn, hu⟩ := h
  obtain ⟨m, hm, hv⟩ := h'
  refine ⟨m + n, by rw [List.length_append]; omega, fun fuel rest hrest => ?_⟩
  rw [List.append_assoc, ← Nat.add_assoc, hu _ _ (hk rest hrest), hv _ _ hrest]

theorem Reads.fails (h : Reads kind r u r') (h' : Fails kind' r' v)
    (hk : ∀ rest, kind' rest → kind (v ++ rest)) : Fails kind' r (u ++ v) := by
  obtain ⟨n, hn, hu⟩ := h
  obtain ⟨m, hm, hv⟩ := h'
  refine ⟨m + n, by rw [List.length_append]; omega, fun fuel rest hrest => ?_⟩
  rw [List.append_assoc, ← Nat.add_assoc, hu _ _ (hk rest hrest), hv _ _ hrest]

theorem Fails.append (h : Fails kind r u) (hk : ∀ rest, kind' rest → kind (v ++ rest)) :
    Fails kind' r (u ++ v) := by
  obtain ⟨n, hn, hu⟩ := h
  refine ⟨n, by rw [List.length_append]; omega, fun fuel rest hrest => ?_⟩
  rw [List.append_assoc, hu _ _ (hk rest hrest)]

theorem Reads.of_any (h : Reads Any r u r') : Reads kind r u r' := by
  obtain ⟨n, hn, hu⟩ := h
  exact ⟨n, hn, fun fuel rest _ => hu fuel rest trivial⟩

theorem Fails.of_any (h : Fails Any r u) : Fails kind r u := by
  obtain ⟨n, hn, hu⟩ := h
  exact ⟨n, hn, fun fuel rest _ => hu fuel rest trivial⟩

theorem Reads.nil : Reads kind r [] r :=
  ⟨0, Nat.le_refl _, fun _ _ _ => rfl⟩

theorem skip?_eq (hr : r.flags = {}) {t : Text} (ht : t.take 3 ≠ ['(', '?', '#']) :
    r.skip? t = some t := by
  rw [skip?, hr, skipBlanks?]
  split
  · rename_i rest heq
    exact absurd (congrArg (List.take 3) heq) ht
  · rfl

theorem run?_cons (hr : r.flags = {}) {c : Char} {t : Text}
    (ht : (c :: t).take 3 ≠ ['(', '?', '#']) (fuel : Nat) :
    run? (fuel + 1) r (c :: t) = (r.step? c t).bind fun (r, rest) => run? fuel r rest := by
  rw [run?, skip?_eq hr ht]

theorem Reads.of_step (hr : r.flags = {}) {c : Char}
    (hc : ∀ rest, kind rest → (c :: (u ++ rest)).take 3 ≠ ['(', '?', '#'])
    (h : ∀ rest, kind rest → r.step? c (u ++ rest) = some (r', rest)) :
    Reads kind r (c :: u) r' := by
  refine ⟨1, by simp, fun fuel rest hrest => ?_⟩
  rw [List.cons_append, run?_cons hr (hc rest hrest), h rest hrest, Option.bind_some]

theorem Reads.of_char (hr : r.flags = {}) {c : Char} (hc : c ≠ '(')
    (h : ∀ rest, kind rest → r.step? c (u ++ rest) = some (r', rest)) :
    Reads kind r (c :: u) r' :=
  .of_step hr (by simp [hc]) h

theorem Fails.of_step (hr : r.flags = {}) {c : Char}
    (hc : ∀ rest, kind rest → (c :: (u ++ rest)).take 3 ≠ ['(', '?', '#'])
    (h : ∀ rest, kind rest → r.step? c (u ++ rest) = none) : Fails kind r (c :: u) := by
  refine ⟨1, by simp, fun fuel rest hrest => ?_⟩
  rw [List.cons_append, run?_cons hr (hc rest hrest), h rest hrest, Option.bind_none]

end

section

variable {r : Reader}

theorem Basic.offerLiteral (hr : r.Basic) (c : Char) :
    r.offerLiteral c = r.offered 0 (.chars (.one c)) := by
  rw [Reader.offerLiteral, hr.flags, offer_eq]
  rfl

theorem step?_of_not_isMeta {c : Char} (h : Text.isMeta c = false) (t : Text) :
    r.step? c t = some (r.offerLiteral c, t) := by
  unfold step?
  split
  case h_13 => rfl
  all_goals exact absurd h (by decide)

/-- A character with a meaning of its own is read as itself behind a backslash. -/
theorem readEscape?_of_isMeta {c : Char} (h : Text.isMeta c = true) (t : Text) :
    r.readEscape? (c :: t) = some (r.offerLiteral c, t) := by
  have hmem : c ∈ Text.metaCharacters := by simpa [Text.isMeta] using h
  simp only [Text.metaCharacters, List.mem_cons, List.not_mem_nil, or_false] at hmem
  rcases hmem with rfl | rfl | rfl | rfl | rfl | rfl | rfl | rfl | rfl | rfl | rfl | rfl | rfl | rfl |
    rfl <;> rfl

theorem reads_symbol (hr : r.Basic) (c : Char) :
    Reads Any r (Text.escapeLiteral [c]) (r.offered 0 (.chars (.one c))) := by
  rw [← hr.offerLiteral]
  cases h : Text.isMeta c with
  | true =>
    rw [Text.escapeLiteral_of_isMeta h]
    exact .of_char hr.flags (by decide) fun rest _ => readEscape?_of_isMeta h rest
  | false =>
    have hc : c ≠ '(' := Text.ne_of_isMeta h (by decide)
    rw [Text.escapeLiteral_of_not_isMeta h]
    exact .of_char hr.flags hc fun rest _ => step?_of_not_isMeta h rest

/-- A part adds elements to the open group, in front of a text that neither quantifies nor comments. -/
def ReadsAs (r : Reader) (part : Text) (k : Nat) (ps : List Regex) : Prop :=
  ∃ r', r'.settle = r.added k ps ∧ Reads Quiet r part r'

theorem basic_settle_iff : r.settle.Basic ↔ r.Basic := by
  have h : r.settle.flags = r.flags ∧ r.settle.names = r.names ∧
      r.settle.references = r.references ∧ r.settle.numbered = r.numbered := by
    unfold settle
    split <;> exact ⟨rfl, rfl, rfl, rfl⟩
  obtain ⟨hf, hn, hr, hm⟩ := h
  constructor
  · exact fun hb => ⟨hf ▸ hb.flags, hn ▸ hb.names, hr ▸ hb.references, hm ▸ hb.numbered⟩
  · exact fun hb => ⟨hf ▸ hb.flags, hn ▸ hb.names, hr ▸ hb.references, hm ▸ hb.numbered⟩

theorem Basic.added (hr : r.Basic) (k : Nat) (ps : List Regex) : (r.added k ps).Basic :=
  have h := basic_settle_iff.mpr hr
  ⟨h.flags, h.names, h.references, h.numbered⟩

/-- What a part that adds elements leaves as it was. -/
theorem frame_of_settle (hr : r.Basic) {r' : Reader} {k : Nat} {ps : List Regex}
    (h : r'.settle = r.added k ps) :
    r'.Basic ∧ r'.enclosing = r.enclosing ∧ r'.groups = r.groups + k := by
  refine ⟨basic_settle_iff.mp (h ▸ hr.added k ps), ?_, ?_⟩
  · rw [← enclosing_settle, h, ← r.enclosing_settle]
    rfl
  · rw [← groups_settle, h]
    rfl

theorem Basic.offered (hr : r.Basic) (k : Nat) (p : Regex) : (r.offered k p).Basic :=
  have h := basic_settle_iff.mpr hr
  ⟨h.flags, h.names, h.references, h.numbered⟩

theorem Basic.inside (hr : r.Basic) (k : Nat) (g : OpenGroup) : (r.inside k g).Basic :=
  have h := basic_settle_iff.mpr hr
  ⟨h.flags, h.names, h.references, h.numbered⟩

theorem added_zero_nil : r.added 0 [] = r.settle := by
  have hgroups := r.groups_settle
  simp only [Reader.added, Nat.add_zero, List.reverse_nil, List.nil_append, ← hgroups]

theorem ReadsAs.of_reads {part : Text} {k : Nat} {p : Regex} (hp : p ≠ .empty)
    (h : Reads Any r part (r.offered k p)) : ReadsAs r part k [p] :=
  ⟨_, by rw [settle_offered, traces, if_neg hp], h.of_any⟩

theorem ReadsAs.nil : ReadsAs r [] 0 [] :=
  ⟨r, added_zero_nil.symm, .nil⟩

theorem ReadsAs.append {u v : Text} {k j : Nat} {ps qs : List Regex} (h : ReadsAs r u k ps)
    (h' : ∀ r', r'.settle = r.added k ps → ReadsAs r' v j qs)
    (hv : ∀ rest, Quiet rest → Quiet (v ++ rest)) : ReadsAs r (u ++ v) (k + j) (ps ++ qs) := by
  obtain ⟨r₁, hr₁, hu⟩ := h
  obtain ⟨r₂, hr₂, hv'⟩ := h' r₁ hr₁
  refine ⟨r₂, ?_, hu.append hv' hv⟩
  rw [hr₂, ← added_added, ← added_settle r₁, hr₁]

def symbolElements (t : Text) : List Regex := t.map fun c => .chars (.one c)

theorem quiet_symbol_append (c : Char) (rest : Text) : Quiet (Text.escapeLiteral [c] ++ rest) := by
  rw [Text.escapeLiteral, Text.escapeWith]
  split
  · trivial
  · rename_i hc
    exact quiet_cons (Bool.eq_false_iff.mpr hc) _

theorem quiet_escapeLiteral_append (t : Text) {rest : Text} (h : Quiet rest) :
    Quiet (Text.escapeLiteral t ++ rest) := by
  cases t with
  | nil => exact h
  | cons c t =>
    rw [Text.escapeLiteral_cons, List.append_assoc]
    exact quiet_symbol_append c _

theorem readsAs_symbols (hr : r.Basic) (t : Text) :
    ReadsAs r (Text.escapeLiteral t) 0 (symbolElements t) := by
  induction t generalizing r with
  | nil => exact .nil
  | cons c t ih =>
    rw [Text.escapeLiteral_cons]
    have hrest : ∀ r', r'.settle = r.added 0 [.chars (.one c)] →
        ReadsAs r' (Text.escapeLiteral t) 0 (symbolElements t) :=
      fun r' hr' => ih (basic_settle_iff.mp (hr' ▸ hr.added 0 _))
    exact (ReadsAs.of_reads (by simp) (reads_symbol hr c)).append hrest
      fun rest => quiet_escapeLiteral_append t

/-- The mark behind a quantifier that makes it lazy. -/
def lazyMark (greedy : Bool) : Text := if greedy then [] else ['?']

theorem quantify?_offered (hr : r.Basic) {k : Nat} {p : Regex} (hp : p.isRepeatable = true)
    (lo : Nat) (hi : Option Nat) (greedy : Bool) {rest : Text} (hrest : Quiet rest) :
    (r.offered k p).quantify? lo hi (lazyMark greedy ++ rest) =
      some (r.added k [.iterate lo hi greedy p], rest) := by
  have hflags : r.settle.flags = {} := r.flags_settle.trans hr.flags
  have hatom : (r.offered k p).atom = some p := rfl
  have hnone := r.atom_settle
  have hlazy : ∀ t, rest ≠ '?' :: t := by
    rintro t rfl
    exact hrest
  have hpossessive : ∀ t, rest ≠ '+' :: t := by
    rintro t rfl
    exact hrest
  have hskip : (r.offered k p).skip? (lazyMark greedy ++ rest) = some (lazyMark greedy ++ rest) := by
    refine skip?_eq hflags ?_
    cases greedy with
    | true => exact hrest.take_three
    | false => simp [lazyMark]
  have hempty : ∀ greedy, Regex.iterate lo hi greedy p ≠ .empty := by simp
  simp only [quantify?, hatom, hskip, Option.bind_eq_bind, Option.bind_some, if_pos hp]
  cases greedy with
  | true =>
    simp only [lazyMark, if_true, List.nil_append]
    rw [OpenGroup.push, if_neg (hempty _)]
    simp only [offered, Reader.added, hflags, hnone, List.reverse_singleton, List.singleton_append]
    rfl
  | false =>
    simp only [lazyMark, Bool.false_eq_true, if_false, List.singleton_append]
    rw [OpenGroup.push, if_neg (hempty _)]
    simp only [offered, Reader.added, hflags, hnone, List.reverse_singleton, List.singleton_append]
    rfl

/-- A part that offers an atom, followed by a quantifier. -/
theorem ReadsAs.quantified (hr : r.Basic) {part : Text} {k : Nat} {p : Regex}
    (h : Reads Any r part (r.offered k p)) (hp : p.isRepeatable = true) {c : Char} {bounds : Text}
    (hc : c ≠ '(') {lo : Nat} {hi : Option Nat}
    (hstep : ∀ rest, (r.offered k p).step? c (bounds ++ rest) = (r.offered k p).quantify? lo hi rest)
    (greedy : Bool) :
    ReadsAs r (part ++ c :: (bounds ++ lazyMark greedy)) k [.iterate lo hi greedy p] := by
  refine ⟨r.added k [.iterate lo hi greedy p], settle_added _ _ _, h.append ?_ fun _ _ => trivial⟩
  have hflags : (r.offered k p).flags = {} := r.flags_settle.trans hr.flags
  refine Reads.of_char hflags hc fun rest hrest => ?_
  rw [List.append_assoc, hstep, quantify?_offered hr hp lo hi greedy hrest]

theorem skip?_of_head (hr : r.flags = {}) {t : Text} (ht : t.head? ≠ some '(') :
    r.skip? t = some t := by
  refine skip?_eq hr fun h => ht ?_
  have hhead : (t.take 3).head? = some '(' := by rw [h, List.head?_cons]
  rwa [List.head?_take, if_neg (by decide)] at hhead

theorem head?_ofNat_append_ne {c : Char} (hc : c.isDigit = false) (n : Nat) (rest : Text) :
    (Text.ofNat n ++ rest).head? ≠ some c := by
  obtain ⟨d, t, h, hd⟩ := Text.exists_digit_cons n
  rw [h, List.cons_append, List.head?_cons]
  rintro ⟨rfl⟩
  exact absurd hd (by simp [hc])

theorem readBounds?_single (hr : r.flags = {}) {n : Nat} (hn : n < sizeBound) (rest : Text) :
    r.readBounds? (Text.ofNat n ++ '\x7d' :: rest) = some (n, some n, rest) := by
  have hskip := skip?_of_head hr (head?_ofNat_append_ne (c := '(') rfl n ('\x7d' :: rest))
  have hskip' : r.skip? ('\x7d' :: rest) = some ('\x7d' :: rest) := skip?_of_head hr (by simp)
  have hcomma : ∀ t, Text.ofNat n ++ '\x7d' :: rest ≠ ',' :: t := by
    intro t h
    exact head?_ofNat_append_ne (c := ',') rfl n _ (h ▸ List.head?_cons)
  simp only [readBounds?, hskip, Option.bind_eq_bind, Option.bind_some,
    Text.takeNatBelow?_ofNat_append hn (c := '\x7d') rfl, hskip']

theorem readBounds?_pair (hr : r.flags = {}) {lo hi : Nat} (hlo : lo < sizeBound)
    (hhi : hi < sizeBound) (rest : Text) :
    r.readBounds? (Text.ofNat lo ++ ',' :: (Text.ofNat hi ++ '\x7d' :: rest)) =
      some (lo, some hi, rest) := by
  have hskip := skip?_of_head hr
    (head?_ofNat_append_ne (c := '(') rfl lo (',' :: (Text.ofNat hi ++ '\x7d' :: rest)))
  have hskip' : r.skip? (',' :: (Text.ofNat hi ++ '\x7d' :: rest)) =
      some (',' :: (Text.ofNat hi ++ '\x7d' :: rest)) := skip?_of_head hr (by simp)
  have hskip'' := skip?_of_head hr (head?_ofNat_append_ne (c := '(') rfl hi ('\x7d' :: rest))
  have hskip''' : r.skip? ('\x7d' :: rest) = some ('\x7d' :: rest) := skip?_of_head hr (by simp)
  have hcomma : ∀ t, Text.ofNat lo ++ ',' :: (Text.ofNat hi ++ '\x7d' :: rest) ≠ ',' :: t := by
    intro t h
    exact head?_ofNat_append_ne (c := ',') rfl lo _ (h ▸ List.head?_cons)
  simp only [readBounds?, hskip, Option.bind_eq_bind, Option.bind_some,
    Text.takeNatBelow?_ofNat_append hlo (c := ',') rfl, hskip', hskip'',
    Text.takeNatBelow?_ofNat_append hhi (c := '\x7d') rfl, hskip''']

end

end Reader

end PatternLoom
