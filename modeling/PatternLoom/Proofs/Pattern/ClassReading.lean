import PatternLoom.Pattern.Bracket
import PatternLoom.Text.Escape

/-!
# Reading the items of a class

The body of a class lists single characters and ranges. When no character in it has another meaning, the
class is the union of what is listed. An escaped text is read as one piece for each character.
-/

namespace PatternLoom

set_option autoImplicit false

theorem EscapeSequence.read?_of_isMeta {c : Char} (h : Text.isMeta c = true) (t : Text) :
    read? (c :: t) = some (.literal c, t) := by
  have hmem : c ∈ Text.metaCharacters := by simpa [Text.isMeta] using h
  simp only [Text.metaCharacters, List.mem_cons, List.not_mem_nil, or_false] at hmem
  rcases hmem with rfl | rfl | rfl | rfl | rfl | rfl | rfl | rfl | rfl | rfl | rfl | rfl | rfl | rfl |
    rfl <;> rfl

namespace Bracket

/-- The characters that may have a meaning of their own in a class body. -/
def signs : List Char := ['[', ']', '^', '-', '&', '~']

/-- A piece stands for a character when it is escaped or has no other meaning. -/
inductive Stands : Piece → Char → Prop where
  | escaped (c : Char) : Stands (.escaped (.literal c)) c
  | bare {c : Char} (h : c ∉ signs) : Stands (.bare c) c

/-- Pieces list classes: each piece a single character, or three of them a range. -/
inductive Lists : List Piece → List CharClass → Prop where
  | nil : Lists [] []
  | one {p : Piece} {c : Char} {ps : List Piece} {ss : List CharClass} (hp : Stands p c)
      (h : Lists ps ss) : Lists (p :: ps) (.one c :: ss)
  | range {p q : Piece} {lo hi : Char} {ps : List Piece} {ss : List CharClass} (hp : Stands p lo)
      (hq : Stands q hi) (hle : lo ≤ hi) (h : Lists ps ss) :
      Lists (p :: .bare '-' :: q :: ps) (.range lo hi :: ss)

variable {p q : Piece} {c lo hi : Char} {ps rest : List Piece} {ss : List CharClass} {s : CharClass}

theorem Stands.ne_bare (h : Stands p c) {d : Char} (hd : d ∈ signs) : p ≠ .bare d := by
  rintro rfl
  cases h with
  | bare h => exact h hd

theorem Stands.readOperand? (h : Stands p c) (ps : List Piece) :
    readOperand? (p :: ps) = some (.literal c, ps) := by
  cases h <;> rfl

theorem Lists.exists_stands (h : Lists (p :: ps) ss) : ∃ c, Stands p c := by
  cases h with
  | one hp _ => exact ⟨_, hp⟩
  | range hp _ _ _ => exact ⟨_, hp⟩

/-- What follows a list does not begin with a hyphen. -/
theorem Lists.exists_next (h : Lists ps ss) :
    ∃ q qs, ps ++ [.bare ']'] = q :: qs ∧ q ≠ .bare '-' := by
  cases ps with
  | nil => exact ⟨_, _, rfl, by decide⟩
  | cons p ps =>
    obtain ⟨c, hp⟩ := h.exists_stands
    exact ⟨_, _, rfl, hp.ne_bare (by decide)⟩

theorem readItem?_one (hp : Stands p c) (hq : q ≠ .bare '-') (ps : List Piece) :
    readItem? (p :: q :: ps) = some (.one c, q :: ps) := by
  rw [readItem?, hp.readOperand?]
  simp [hq]

theorem readItem?_range (hp : Stands p lo) (hq : Stands q hi) (hle : lo ≤ hi) (ps : List Piece) :
    readItem? (p :: .bare '-' :: q :: ps) = some (.range lo hi, ps) := by
  have hclose : q ≠ .bare ']' := hq.ne_bare (by decide)
  have hhyphen : q ≠ .bare '-' := hq.ne_bare (by decide)
  rw [readItem?, hp.readOperand?]
  simp [hclose, hhyphen, hq.readOperand?, hle]

/-- A piece that stands for a character begins an item. -/
theorem readBody_item (hp : Stands p c) (hitem : readItem? (p :: ps) = some (s, rest)) (fuel : Nat)
    (b : Body) : readBody false (fuel + 1) b (p :: ps) = readBody false fuel (b.push s) rest := by
  have hne {d : Char} (hd : d ∈ signs) (qs : List Piece) : p :: ps ≠ .bare d :: qs :=
    fun heq => hp.ne_bare hd (List.cons.inj heq).1
  rw [readBody, hitem]
  · exact List.cons_ne_nil _ _
  · exact hne (by decide)
  · exact fun _ => hne (by decide) _
  · exact fun _ => hne (by decide) _
  · exact fun _ => hne (by decide) _
  · exact hne (by decide)

theorem readBody_lists (h : Lists ps ss) {fuel : Nat} (hfuel : ps.length < fuel) (b : Body) :
    readBody false fuel b (ps ++ [.bare ']']) =
      some (({ b with items := ss.reverse ++ b.items } : Body).finish false, []) := by
  obtain ⟨fuel, rfl⟩ := Nat.exists_eq_succ_of_ne_zero (Nat.ne_zero_of_lt hfuel)
  induction h generalizing fuel b with
  | nil => rfl
  | @one p c ps ss hp h ih =>
    obtain ⟨fuel, rfl⟩ := Nat.exists_eq_succ_of_ne_zero
      (Nat.ne_zero_of_lt (Nat.lt_of_succ_lt_succ hfuel))
    obtain ⟨q, qs, hqs, hq⟩ := h.exists_next
    have hitem : readItem? (p :: (ps ++ [.bare ']'])) = some (.one c, ps ++ [.bare ']']) := by
      rw [hqs]
      exact readItem?_one hp hq qs
    rw [List.cons_append, readBody_item hp hitem, ih _ _ (Nat.lt_of_succ_lt_succ hfuel)]
    simp [Body.push]
  | @range p q lo hi ps ss hp hq hle h ih =>
    simp only [List.length_cons] at hfuel
    obtain ⟨fuel, rfl⟩ := Nat.exists_eq_succ_of_ne_zero
      (Nat.ne_zero_of_lt (Nat.lt_of_succ_lt_succ hfuel))
    have hitem := readItem?_range hp hq hle (ps ++ [.bare ']'])
    rw [List.cons_append, List.cons_append, List.cons_append, readBody_item hp hitem,
      ih _ _ (by omega)]
    simp [Body.push]

/-- A list begins with nothing that opens a class in a special way. -/
theorem openBody_lists (h : Lists ps ss) (hne : ps ≠ []) (qs : List Piece) :
    openBody (ps ++ qs) = (⟨false, none, []⟩, ps ++ qs) := by
  obtain ⟨p, ps, rfl⟩ := List.exists_cons_of_ne_nil hne
  obtain ⟨c, hp⟩ := h.exists_stands
  have hcaret : p ≠ .bare '^' := hp.ne_bare (by decide)
  have hclose : p ≠ .bare ']' := hp.ne_bare (by decide)
  have hhyphen : p ≠ .bare '-' := hp.ne_bare (by decide)
  simp [openBody, openHyphens, hcaret, hclose, hhyphen]

/-- A class whose body is a list is the union of what is listed. -/
theorem read?_lists {d : Char} {t rest : Text} (hcaret : d ≠ '^') (hclose : d ≠ ']')
    (hpieces : readPieces false ((d :: t).length + 1) 1 (d :: t) = some (ps ++ [.bare ']'], rest))
    (h : Lists ps ss) (hne : ps ≠ []) : read? false false (d :: t) = some (.unions ss, rest) := by
  have hlength : ps.length < (ps ++ [Piece.bare ']']).length + 1 := by
    rw [List.length_append]
    omega
  have hbody := readBody_lists h hlength ⟨false, none, []⟩
  unfold read?
  split
  rename_i heq
  split at heq
  · rename_i hd
    exact absurd (List.cons.inj hd).1 hcaret
  · obtain ⟨rfl, rfl⟩ := Prod.mk.inj heq
    split
    rename_i heq
    split at heq
    · rename_i hd
      exact absurd (List.cons.inj hd).1 hclose
    · obtain ⟨rfl, rfl⟩ := Prod.mk.inj heq
      simp only [hpieces, List.nil_append, Option.bind_eq_bind, Option.bind_some,
        openBody_lists h hne, hbody, List.isEmpty_nil, if_true]
      simp [Body.finish, Body.operand, Body.folded]

section Escaped

variable {special : List Char} {w : Text}

def pieceOf (special : List Char) (c : Char) : Piece :=
  if special.contains c then .escaped (.literal c) else .bare c

theorem stands_pieceOf (hc : c ∈ special ∨ c ∉ signs) : Stands (pieceOf special c) c := by
  unfold pieceOf
  split
  · exact .escaped c
  · rename_i hspecial
    exact .bare (hc.resolve_left fun hmem => hspecial (List.contains_iff_mem.mpr hmem))

theorem lists_pieces (hw : ∀ c ∈ w, c ∈ special ∨ c ∉ signs) :
    Lists (w.map (pieceOf special)) (w.map .one) := by
  induction w with
  | nil => exact .nil
  | cons c w ih =>
    obtain ⟨hc, hw⟩ := List.forall_mem_cons.mp hw
    exact .one (stands_pieceOf hc) (ih hw)

theorem readPieces_bare (hc : c ∉ ['\\', '[', ']']) (fuel depth : Nat) (t : Text) :
    readPieces false (fuel + 1) depth (c :: t) =
      (readPieces false fuel depth t).map fun (ps, u) => (.bare c :: ps, u) := by
  rw [readPieces, if_neg Bool.false_ne_true]
  split
  case h_1 heq => exact absurd heq (List.cons_ne_nil _ _)
  case h_6 heq =>
    obtain ⟨rfl, rfl⟩ := List.cons.inj heq
    rfl
  all_goals
    rename_i heq
    rw [(List.cons.inj heq).1] at hc
    exact absurd (by decide) hc

theorem readPieces_escaped (hc : Text.isMeta c = true) (fuel depth : Nat) (t : Text) :
    readPieces false (fuel + 1) depth ('\\' :: c :: t) =
      (readPieces false fuel depth t).map fun (ps, u) => (.escaped (.literal c) :: ps, u) := by
  have hb : c ≠ 'b' := (Text.ne_of_isMeta (by decide) hc).symm
  simp [readPieces, hb, EscapeSequence.read?_of_isMeta hc t]

/-- A text in which the characters with a meaning for the reader of pieces are escaped. -/
theorem readPieces_escapeWith (hspecial : ∀ c ∈ special, Text.isMeta c = true)
    (hw : ∀ c ∈ w, c ∈ special ∨ c ∉ ['\\', '[', ']']) {fuel : Nat} (hfuel : w.length < fuel)
    (rest : Text) :
    readPieces false fuel 1 (Text.escapeWith special w ++ ']' :: rest) =
      some (w.map (pieceOf special) ++ [.bare ']'], rest) := by
  induction w generalizing fuel with
  | nil =>
    obtain ⟨fuel, rfl⟩ := Nat.exists_eq_succ_of_ne_zero (Nat.ne_zero_of_lt hfuel)
    rfl
  | cons c w ih =>
    obtain ⟨fuel, rfl⟩ := Nat.exists_eq_succ_of_ne_zero (Nat.ne_zero_of_lt hfuel)
    obtain ⟨hc, hw⟩ := List.forall_mem_cons.mp hw
    have hrest := ih hw (Nat.lt_of_succ_lt_succ hfuel)
    by_cases hmem : c ∈ special
    · have hcontains := List.contains_iff_mem.mpr hmem
      rw [Text.escapeWith, if_pos hcontains, List.cons_append, List.cons_append,
        readPieces_escaped (hspecial c hmem), hrest, List.map_cons, pieceOf, if_pos hcontains]
      rfl
    · have hcontains : ¬special.contains c = true := fun h => hmem (List.contains_iff_mem.mp h)
      rw [Text.escapeWith, if_neg hcontains, List.cons_append,
        readPieces_bare (hc.resolve_left hmem), hrest, List.map_cons, pieceOf, if_neg hcontains]
      rfl

/-- An escaped text in front of a closing bracket, whose pieces list classes, is read as their union. -/
theorem read?_escapeWith (hspecial : ∀ c ∈ special, Text.isMeta c = true) (hne : w ≠ [])
    (hw : ∀ c ∈ w, c ∈ special ∨ c ∉ ['\\', '[', ']'])
    (h : Lists (w.map (pieceOf special)) ss) (rest : Text) :
    read? false false (Text.escapeWith special w ++ ']' :: rest) = some (.unions ss, rest) := by
  have hlength : w.length < (Text.escapeWith special w ++ ']' :: rest).length + 1 := by
    have hle := Text.length_le_length_escapeWith special w
    rw [List.length_append]
    omega
  have hpieces := readPieces_escapeWith hspecial hw hlength rest
  have hfront : ∃ d t, Text.escapeWith special w = d :: t ∧ d ≠ '^' ∧ d ≠ ']' := by
    obtain ⟨c, w, rfl⟩ := List.exists_cons_of_ne_nil hne
    obtain ⟨c', hc⟩ := h.exists_stands
    rw [Text.escapeWith]
    split
    · exact ⟨_, _, rfl, by decide, by decide⟩
    · rename_i hcontains
      rw [pieceOf, if_neg hcontains] at hc
      refine ⟨c, _, rfl, ?_, ?_⟩
      all_goals
        rintro rfl
        exact hc.ne_bare (by decide) rfl
  obtain ⟨d, t, htext, hcaret, hclose⟩ := hfront
  have hne' : w.map (pieceOf special) ≠ [] := by simpa using hne
  rw [htext] at hpieces ⊢
  exact read?_lists hcaret hclose hpieces h hne'

end Escaped

end Bracket

end PatternLoom
