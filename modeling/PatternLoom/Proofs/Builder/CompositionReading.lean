import PatternLoom.Proofs.Builder.Composition
import PatternLoom.Proofs.Pattern.GroupReading

/-!
# Reading compositions

The pattern of a composition is read item by item, however its texts are joined: no item quantifies,
escapes or comments what stands next to it. Groups are numbered in the order in which they open, and
only the depth of their nesting can keep a composition from being read.
-/

namespace PatternLoom

set_option autoImplicit false

open Reader

def Run.elements : Run → List Regex
  | .symbols t => symbolElements t
  | .anyWord => [.iterate 1 none true (.chars .word)]
  | .notWord => [.iterate 1 none true (.chars (.compl .word))]
  | .anyWords => [.iterate 1 none false (.chars (.union .blank .word))]

mutual

/-- What a part is read as when `k` groups have been opened before: an atom as one element, an item and
a composition as lists of elements. -/
def Atom.regex (k : Nat) : Atom → Regex
  | .token _ s _ => .chars s
  | .symbol c => .chars (.one c)
  | .oneOf _ first others => .capture (k + 1) (choice first others)
  | .captureWith _ body => .capture (k + 1) (.ofElements (body.elements (k + 1)))
  | .captured a => .capture (k + 1) (a.regex (k + 1))
  | .capturedRun x => .capture (k + 1) (.ofElements x.elements)

def Item.elements (k : Nat) : Item → List Regex
  | .run x => x.elements
  | .once a => [a.regex k]
  | .repeated a q => [.iterate q.lo q.hi true (a.regex k)]

def Composition.elements (k : Nat) : Composition → List Regex
  | .nil => []
  | .cons i rest => i.elements k ++ rest.elements (k + i.groups)

end

variable {r : Reader}

theorem Token.reads (hr : r.Basic) {k : Token} {s : CharClass} (h : k.characters? = some s) :
    Reads Any r k.text (r.offered 0 (.chars s)) := by
  rw [← offer_eq]
  obtain ⟨size, flags, groups, names, references, numbered, current, enclosing, atom⟩ := r
  obtain rfl : flags = {} := hr.flags
  cases k with
  | oneOrMore | zeroOrMore | anyWord | notWord | anyWords | startCapture | endCapture => cases h
  | digit | notDigit | whitespace | notWhitespace | char | notChar | hexDigit | octalDigit | newLine
  | carriageReturn | tab | verticalTab | formFeed | space | any =>
    cases h
    exact .of_char rfl (by decide) fun _ _ => rfl

theorem reads_anyWords (hr : r.Basic) :
    Reads Any r ['[', '\\', 's', '\\', 'w', ']'] (r.offered 0 (.chars (.union .blank .word))) := by
  rw [← offer_eq]
  obtain ⟨size, flags, groups, names, references, numbered, current, enclosing, atom⟩ := r
  obtain rfl : flags = {} := hr.flags
  exact .of_char rfl (by decide) fun _ _ => rfl

theorem Run.reads (hr : r.Basic) (x : Run) : ReadsAs r x.text 0 x.elements := by
  have hplus {part : Text} {s : CharClass} (h : Reads Any r part (r.offered 0 (.chars s)))
      (greedy : Bool) : ReadsAs r (part ++ '+' :: ([] ++ lazyMark greedy)) 0
        [.iterate 1 none greedy (.chars s)] :=
    ReadsAs.quantified hr h rfl (by decide) (fun _ => rfl) greedy
  cases x with
  | symbols t => exact readsAs_symbols hr t
  | anyWord => exact hplus (Token.reads hr (k := .char) rfl) true
  | notWord => exact hplus (Token.reads hr (k := .notChar) rfl) true
  | anyWords => exact hplus (reads_anyWords hr) false

theorem Quantifier.step?_mark (hr : r.Basic) (q : Quantifier) (k : Nat) (p : Regex) (rest : Text) :
    (r.offered k p).step? q.mark (q.bounds ++ rest) = (r.offered k p).quantify? q.lo q.hi rest := by
  have hflags : (r.offered k p).flags = {} := r.flags_settle.trans hr.flags
  have hatom : (r.offered k p).atom = some p := rfl
  have hbound : countBound < sizeBound := by decide
  cases q with
  | oneOrMore | zeroOrMore => rfl
  | exactly n h =>
    have hread := readBounds?_single hflags (Nat.lt_trans h hbound) rest
    simp only [mark, bounds, step?, List.append_assoc, List.singleton_append, hread, hatom]
    rfl
  | between lo hi hle h =>
    have hlo : lo < sizeBound := by omega
    have hread := readBounds?_pair hflags hlo (Nat.lt_trans h hbound) rest
    simp only [mark, bounds, step?, List.append_assoc, List.cons_append, List.nil_append, hread,
      hatom]
    rfl

theorem Quantifier.mark_ne (q : Quantifier) : q.mark ≠ '(' := by
  cases q <;> simp [mark]

theorem Atom.isRepeatable_regex (a : Atom) (k : Nat) : (a.regex k).isRepeatable = true := by
  cases a <;> rfl

theorem Atom.regex_ne_empty (a : Atom) (k : Nat) : a.regex k ≠ .empty := by
  cases a <;> simp [Atom.regex]

/-- A bracket in front of a text that does not quantify opens a capture group. -/
theorem quiet_bracket {t : Text} (h : Quiet t) : Quiet ('(' :: t) := by
  unfold Quiet
  split
  case h_5 =>
    rename_i heq
    rw [(List.cons.inj heq).2] at h
    exact h
  case h_6 => trivial
  all_goals
    rename_i heq
    exact absurd (List.cons.inj heq).1 (by decide)

theorem quiet_captureText {body : Text} (h : ∀ rest, Quiet rest → Quiet (body ++ rest))
    (rest : Text) : Quiet (captureText body ++ rest) := by
  rw [captureText, List.append_assoc, List.append_assoc]
  exact quiet_bracket (h _ trivial)

theorem quiet_symbol (c : Char) (rest : Text) : Quiet (Text.escapeLiteral [c] ++ rest) := by
  rw [Text.escapeLiteral, Text.escapeWith]
  split
  · trivial
  · rename_i hc
    exact quiet_cons (Bool.eq_false_iff.mpr hc) _

theorem Token.quiet {k : Token} {s : CharClass} (h : k.characters? = some s) (rest : Text) :
    Quiet (k.text ++ rest) := by
  cases k with
  | oneOrMore | zeroOrMore | anyWord | notWord | anyWords | startCapture | endCapture => cases h
  | digit | notDigit | whitespace | notWhitespace | char | notChar | hexDigit | octalDigit | newLine
  | carriageReturn | tab | verticalTab | formFeed | space | any => trivial

theorem Run.quiet (x : Run) {rest : Text} (h : Quiet rest) : Quiet (x.text ++ rest) := by
  cases x with
  | symbols t => exact quiet_escapeLiteral_append t h
  | anyWord | notWord | anyWords => trivial

mutual

/-- The text of an atom does not change what is before it, whatever follows. -/
theorem Atom.quiet (a : Atom) (rest : Text) : Quiet (a.text ++ rest) := by
  cases a with
  | token k s h => exact Token.quiet h rest
  | symbol c => exact quiet_symbol c rest
  | oneOf plural first others =>
    exact quiet_captureText (fun _ => quiet_alternatives_append first others) rest
  | captureWith built body => exact quiet_captureText (fun _ => body.quiet) rest
  | captured a => exact quiet_captureText (fun rest _ => a.quiet rest) rest
  | capturedRun x => exact quiet_captureText (fun _ => x.quiet) rest

theorem Item.quiet (i : Item) {rest : Text} (h : Quiet rest) : Quiet (i.text ++ rest) := by
  cases i with
  | run x => exact x.quiet h
  | once a => exact a.quiet rest
  | repeated a q =>
    rw [Item.text, List.append_assoc]
    exact a.quiet _

theorem Composition.quiet (p : Composition) {rest : Text} (h : Quiet rest) :
    Quiet (p.text ++ rest) := by
  cases p with
  | nil => exact h
  | cons i p =>
    rw [Composition.text, List.append_assoc]
    exact i.quiet (p.quiet h)

end

mutual

/-- An atom is read as one element if its groups are not nested too deep. -/
theorem Atom.reads (a : Atom) {r : Reader} (hr : r.Basic)
    (hdepth : r.enclosing.length + a.depth ≤ 63) :
    Reads Any r a.text (r.offered a.groups (a.regex r.groups)) := by
  cases a with
  | token k s h => exact Token.reads hr h
  | symbol c => exact reads_symbol hr c
  | oneOf plural first others => exact reads_choice hr hdepth first others
  | captureWith built body =>
    -- the body begins one level deeper, with one more group opened
    rw [Atom.depth, ← Nat.add_assoc] at hdepth
    have hbody := body.reads (hr.inside 1 (openedCapture (r.groups + 1))) hdepth
    exact reads_capture hr (by omega) hbody fun _ => body.quiet
  | captured a =>
    rw [Atom.depth, ← Nat.add_assoc] at hdepth
    have ha := a.reads (hr.inside 1 (openedCapture (r.groups + 1))) hdepth
    exact reads_capture hr (by omega) (.of_reads (a.regex_ne_empty _) ha) fun rest _ => a.quiet rest
  | capturedRun x =>
    have hx := x.reads (hr.inside 1 (openedCapture (r.groups + 1)))
    exact reads_capture hr hdepth hx fun _ => x.quiet

theorem Item.reads (i : Item) {r : Reader} (hr : r.Basic)
    (hdepth : r.enclosing.length + i.depth ≤ 63) :
    ReadsAs r i.text i.groups (i.elements r.groups) := by
  cases i with
  | run x => exact x.reads hr
  | once a => exact .of_reads (a.regex_ne_empty _) (a.reads hr hdepth)
  | repeated a q =>
    have h := ReadsAs.quantified hr (a.reads hr hdepth) (a.isRepeatable_regex _) q.mark_ne
      (q.step?_mark hr _ _) true
    rwa [lazyMark, if_pos rfl, List.append_nil] at h

/-- A composition is read as its elements if its groups are not nested too deep. -/
theorem Composition.reads (p : Composition) {r : Reader} (hr : r.Basic)
    (hdepth : r.enclosing.length + p.depth ≤ 63) :
    ReadsAs r p.text p.groups (p.elements r.groups) := by
  cases p with
  | nil => exact .nil
  | cons i p =>
    rw [Composition.depth] at hdepth
    -- the first item may still wait for a quantifier, but the others do not begin with one
    refine (i.reads hr (by omega)).append (fun r' hr' => ?_) fun _ => p.quiet
    obtain ⟨hbasic, henclosing, hgroups⟩ := frame_of_settle hr hr'
    have h := p.reads hbasic (by rw [henclosing]; omega)
    rwa [hgroups] at h

end

mutual

theorem Atom.fails (a : Atom) {r : Reader} (hr : r.Basic) (hroom : r.enclosing.length ≤ 63)
    (hdepth : 63 < r.enclosing.length + a.depth) : Fails Any r a.text := by
  cases a with
  | token | symbol => exact absurd hdepth (Nat.not_lt.mpr hroom)
  | oneOf plural first others =>
    refine Fails.capture hr (fun h => ?_) fun _ => quiet_alternatives_append first others
    exact absurd hdepth (Nat.not_lt.mpr h)
  | captureWith built body =>
    rw [Atom.depth, ← Nat.add_assoc] at hdepth
    exact Fails.capture hr (fun h => body.fails (hr.inside 1 _) h hdepth) fun _ => body.quiet
  | captured a =>
    rw [Atom.depth, ← Nat.add_assoc] at hdepth
    exact Fails.capture hr (fun h => (a.fails (hr.inside 1 _) h hdepth).of_any)
      fun rest _ => a.quiet rest
  | capturedRun x =>
    refine Fails.capture hr (fun h => ?_) fun _ => x.quiet
    exact absurd hdepth (Nat.not_lt.mpr h)

theorem Item.fails (i : Item) {r : Reader} (hr : r.Basic) (hroom : r.enclosing.length ≤ 63)
    (hdepth : 63 < r.enclosing.length + i.depth) : Fails Quiet r i.text := by
  cases i with
  | run => exact absurd hdepth (Nat.not_lt.mpr hroom)
  | once a => exact (a.fails hr hroom hdepth).of_any
  | repeated a q => exact (a.fails hr hroom hdepth).append fun _ _ => trivial

theorem Composition.fails (p : Composition) {r : Reader} (hr : r.Basic)
    (hroom : r.enclosing.length ≤ 63) (hdepth : 63 < r.enclosing.length + p.depth) :
    Fails Quiet r p.text := by
  cases p with
  | nil => exact absurd hdepth (Nat.not_lt.mpr hroom)
  | cons i p =>
    rw [Composition.depth] at hdepth
    -- the first item that is nested too deep cannot be read; those before it can
    by_cases hi : 63 < r.enclosing.length + i.depth
    · exact (i.fails hr hroom hi).append fun _ => p.quiet
    · obtain ⟨r', hr', hread⟩ := i.reads hr (by omega)
      obtain ⟨hbasic, henclosing, -⟩ := frame_of_settle hr hr'
      have hp : 63 < r'.enclosing.length + p.depth := by
        rw [henclosing]
        omega
      exact hread.fails (p.fails hbasic (henclosing ▸ hroom) hp) fun _ => p.quiet

end

/-- A composition is read exactly when its groups are nested at most sixty-three deep. -/
theorem Composition.read?_text (p : Composition) :
    Pattern.read? p.text =
      if p.depth ≤ 63 then some ⟨.ofElements (p.elements 0), p.groups, [], []⟩ else none := by
  have hbasic := basic_start (Text.byteLength p.text)
  have henclosing : (start (Text.byteLength p.text)).enclosing.length = 0 := rfl
  split
  · exact read?_of_readsAs (p.reads hbasic (by omega))
  · exact read?_of_fails (p.fails hbasic (by omega) (by omega))

/-- Between anchors there is room for one level of groups less. -/
theorem Composition.read?_anchored (p : Composition) :
    Pattern.read? (anchored p.text) =
      if p.depth ≤ 62 then
        some ⟨.ofElements (anchoredElements (.ofElements (p.elements 0))), p.groups, [], []⟩
      else none := by
  have hbasic := basic_start (Text.byteLength (anchored p.text))
  have hinside := (hbasic.offered 0 (.anchor .textStart)).inside 0 openedPlain
  have henclosing : (((start (Text.byteLength (anchored p.text))).offered 0
      (.anchor .textStart)).inside 0 openedPlain).enclosing.length = 1 := rfl
  have hroom : 0 < 63 := by decide
  split
  · exact read?_of_readsAs (readsAs_anchored hbasic hroom (p.reads hinside (by omega)))
  · have hbody := p.fails hinside (by omega) (by omega)
    exact read?_of_fails (fails_anchored hbasic hroom hbody).of_any

end PatternLoom
