import PatternLoom.Proofs.Text.Parts

/-!
# Occurrences in an escaped text

A place in a text has its place in the escaped text: behind what stands in front of it, escaped. The
leftmost occurrences of an escaped key are at the places of the leftmost occurrences of the key. So none
of them begins or ends between a backslash and the character that it escapes.
-/

namespace PatternLoom.Text

set_option autoImplicit false

variable {key t : Text} {offsets offsets' : List Nat}

section Unique

theorem Leftmost.add_length_le (h : Leftmost key t offsets) {o o' : Nat} (ho : o ∈ offsets)
    (ho' : o' ∈ offsets) (hlt : o < o') : o + key.length ≤ o' := by
  obtain ⟨i, hi, rfl⟩ := List.getElem_of_mem ho
  obtain ⟨j, hj, rfl⟩ := List.getElem_of_mem ho'
  have hapart := List.pairwise_iff_getElem.mp h.apart
  rcases Nat.lt_trichotomy i j with hij | rfl | hji
  · exact (hapart i j hi hj hij).2
  · exact absurd hlt (Nat.lt_irrefl _)
  · exact absurd hlt (Nat.lt_asymm (hapart j i hj hi hji).1)

theorem Leftmost.subset (h : Leftmost key t offsets) (h' : Leftmost key t offsets')
    (hkey : key ≠ []) : offsets ⊆ offsets' := by
  have hpos := List.length_pos_iff.mpr hkey
  intro o
  -- an offset that one list leaves out overlaps with an earlier one, and both lists have that
  induction o using Nat.strong_induction_on generalizing offsets offsets' with
  | h o ih =>
    intro ho
    obtain ⟨hlen, hoccurs⟩ := h.occurs o ho
    obtain ⟨o', ho', hle, hend⟩ := h'.covers o hlen hoccurs
    rcases Nat.lt_or_eq_of_le hle with hlt | rfl
    · have hapart := h.add_length_le (ih o' hlt h' h ho') ho hlt
      omega
    · exact ho'

theorem Leftmost.unique (h : Leftmost key t offsets) (h' : Leftmost key t offsets')
    (hkey : key ≠ []) : offsets = offsets' := by
  have hsorted : offsets.Pairwise (· < ·) := h.apart.imp And.left
  have hsorted' : offsets'.Pairwise (· < ·) := h'.apart.imp And.left
  exact hsorted.eq_of_mem_iff hsorted'
    fun o => ⟨fun ho => h.subset h' hkey ho, fun ho => h'.subset h hkey ho⟩

end Unique

section Parts

/-- The parts of a text from a position on, between stretches of `length` characters at some offsets. -/
def between (length position : Nat) (t : Text) : List Nat → List Text
  | [] => [t.drop position]
  | o :: os => slice t position o :: between length (o + length) t os

/-- The parts between occurrences are the slices between their offsets. The text `pre` has been passed
over since position `before.length`. -/
theorem between_occurrencesFrom (hkey : key ≠ []) (before pre u : Text) :
    ∃ part more, parts key u = part :: more ∧
      between key.length before.length (before ++ pre ++ u)
        (occurrencesFrom key 0 (before ++ pre).length u) = (pre ++ part) :: more := by
  induction hn : u.length using Nat.strong_induction_on generalizing before pre u with
  | h n ih =>
    by_cases hfound : key <+: u
    · obtain ⟨rest, rfl⟩ := hfound
      have hpos := List.length_pos_iff.mpr hkey
      rw [List.length_append] at hn
      obtain ⟨part, more, hparts, hbetween⟩ :=
        ih rest.length (by omega) (before ++ pre ++ key) [] rest rfl
      refine ⟨[], part :: more, by rw [parts_append hkey, hparts], ?_⟩
      have hslice : slice (before ++ pre ++ (key ++ rest)) before.length (before ++ pre).length =
          pre := by
        rw [slice, List.take_left, List.drop_left]
      rw [List.append_nil, List.nil_append, List.length_append, List.append_assoc] at hbetween
      rw [occurrencesFrom_append hkey, between, hslice, hbetween, List.append_nil]
    · cases u with
      | nil =>
        have hnone : occurrencesFrom key 0 (before ++ pre).length [] = [] :=
          if_neg fun h => hkey (List.prefix_nil.mp h)
        refine ⟨[], [], parts_nil hkey, ?_⟩
        rw [hnone, between, List.append_nil, List.append_nil, List.drop_left]
      | cons c u =>
        have hlength : u.length < n := by
          rw [← hn, List.length_cons]
          omega
        have hnone : occurrencesFrom key 0 (before ++ pre).length (c :: u) =
            occurrencesFrom key 0 ((before ++ pre).length + 1) u := if_neg hfound
        obtain ⟨part, more, hparts, hcons⟩ := parts_cons hkey hfound
        obtain ⟨part', more', hparts', hbetween⟩ := ih u.length hlength before (pre ++ [c]) u rfl
        rw [hparts] at hparts'
        obtain ⟨rfl, rfl⟩ := List.cons.inj hparts'
        refine ⟨c :: part, more, hcons, ?_⟩
        rw [hnone]
        simpa [Nat.add_assoc] using hbetween

/-- The parts of a text are the slices between the leftmost occurrences of the key. -/
theorem Leftmost.parts_eq (h : Leftmost key t offsets) (hkey : key ≠ []) :
    parts key t = between key.length 0 t offsets := by
  obtain ⟨part, more, hparts, hbetween⟩ := between_occurrencesFrom hkey [] [] t
  rw [h.unique (leftmost_occurrences key t) hkey, hparts]
  exact hbetween.symm

/-- With the key between its parts a text is whole again. -/
theorem joinWith_parts (hkey : key ≠ []) (t : Text) : joinWith key (parts key t) = t := by
  induction hn : t.length using Nat.strong_induction_on generalizing t with
  | h n ih =>
    by_cases hfound : key <+: t
    · obtain ⟨rest, rfl⟩ := hfound
      have hpos := List.length_pos_iff.mpr hkey
      rw [List.length_append] at hn
      obtain ⟨part, more, hparts⟩ := exists_parts key rest
      have hrest := ih rest.length (by omega) rest rfl
      rw [hparts] at hrest
      rw [parts_append hkey, hparts, joinWith, List.intersperse_cons_cons]
      exact congrArg (key ++ ·) hrest
    · cases t with
      | nil =>
        rw [parts_nil hkey]
        rfl
      | cons c t =>
        obtain ⟨part, more, hparts, hcons⟩ := parts_cons hkey hfound
        have hrest := ih t.length (by rw [← hn, List.length_cons]; omega) t rfl
        rw [hparts] at hrest
        rw [hcons, ← hrest]
        cases more <;> rfl

end Parts

section Escape

/-- The place in an escaped text that corresponds to a place in the text. -/
def escapedPlace (t : Text) (n : Nat) : Nat := (escapeLiteral (t.take n)).length

theorem escapeLiteral_split (t : Text) (n : Nat) :
    escapeLiteral t = escapeLiteral (t.take n) ++ escapeLiteral (t.drop n) := by
  rw [← escapeLiteral_append, List.take_append_drop]

theorem drop_escapedPlace (t : Text) (n : Nat) :
    (escapeLiteral t).drop (escapedPlace t n) = escapeLiteral (t.drop n) := by
  rw [escapeLiteral_split t n, escapedPlace, List.drop_left]

theorem escapedPlace_le (t : Text) (n : Nat) : escapedPlace t n ≤ (escapeLiteral t).length := by
  rw [escapeLiteral_split t n, List.length_append]
  exact Nat.le_add_right _ _

theorem escapedPlace_add (t : Text) (n m : Nat) :
    escapedPlace t (n + m) = escapedPlace t n + (escapeLiteral ((t.drop n).take m)).length := by
  rw [escapedPlace, List.take_add, escapeLiteral_append, List.length_append]
  rfl

theorem escapedPlace_add_length {n : Nat} (h : key <+: t.drop n) :
    escapedPlace t (n + key.length) = escapedPlace t n + (escapeLiteral key).length := by
  rw [escapedPlace_add, ← List.prefix_iff_eq_take.mp h]

theorem escapedPlace_mono (t : Text) {n m : Nat} (h : n ≤ m) : escapedPlace t n ≤ escapedPlace t m := by
  obtain ⟨d, rfl⟩ := Nat.exists_eq_add_of_le h
  rw [escapedPlace_add]
  exact Nat.le_add_right _ _

theorem escapedPlace_cons (c : Char) (t : Text) (n : Nat) :
    escapedPlace (c :: t) (n + 1) = (escapeLiteral [c]).length + escapedPlace t n := by
  rw [escapedPlace, List.take_succ_cons, escapeLiteral_cons, List.length_append]
  rfl

/-- A place in an escaped text is in front of the character that stands at some place of the text, or
behind the backslash that escapes it. -/
theorem exists_escapedPlace {i : Nat} (h : i < (escapeLiteral t).length) :
    ∃ n c rest, t.drop n = c :: rest ∧ i < escapedPlace t (n + 1) ∧
      (i = escapedPlace t n ∨ isMeta c = true ∧ i = escapedPlace t n + 1) := by
  induction t generalizing i with
  | nil => exact absurd h (Nat.not_lt_zero i)
  | cons c t ih =>
    rw [escapeLiteral_cons, List.length_append] at h
    by_cases hlater : (escapeLiteral [c]).length ≤ i
    · obtain ⟨j, rfl⟩ := Nat.exists_eq_add_of_le hlater
      obtain ⟨n, d, rest, hdrop, hnext, hplace⟩ := ih (i := j) (by omega)
      refine ⟨n + 1, d, rest, hdrop, ?_, ?_⟩
      · rw [escapedPlace_cons]
        omega
      · rw [escapedPlace_cons]
        exact hplace.imp (fun hj => by rw [hj]) fun hj => ⟨hj.1, by rw [hj.2]; rfl⟩
    · have hfirst : i < escapedPlace (c :: t) 1 := Nat.lt_of_not_le hlater
      refine ⟨0, c, t, rfl, hfirst, ?_⟩
      cases i with
      | zero => exact Or.inl rfl
      | succ i =>
        cases hc : isMeta c with
        | true =>
          rw [escapeLiteral_of_isMeta hc] at hlater
          obtain rfl : i = 0 := Nat.lt_one_iff.mp (Nat.lt_of_succ_lt_succ (Nat.lt_of_not_le hlater))
          exact Or.inr ⟨rfl, rfl⟩
        | false =>
          rw [escapeLiteral_of_not_isMeta hc] at hlater
          exact absurd (Nat.succ_le_succ (Nat.zero_le i)) hlater

/-- The leftmost occurrences of an escaped key are those of the key. -/
theorem Leftmost.escaped (h : Leftmost key t offsets) (hkey : key ≠ []) :
    Leftmost (escapeLiteral key) (escapeLiteral t) (offsets.map (escapedPlace t)) where
  occurs := by
    refine List.forall_mem_map.mpr fun o ho => ⟨escapedPlace_le t o, ?_⟩
    rw [drop_escapedPlace]
    exact escapeLiteral_prefix_iff.mpr (h.occurs o ho).2
  apart := by
    refine List.pairwise_map.mpr (h.apart.imp_of_mem fun {o o'} ho _ hapart => ?_)
    have hend := escapedPlace_add_length (h.occurs o ho).2
    have hle := escapedPlace_mono t hapart.2
    have hpos := List.length_pos_iff.mpr (escapeLiteral_ne_nil hkey)
    omega
  covers := by
    intro i hi hoccurs
    have hpos := List.length_pos_iff.mpr (escapeLiteral_ne_nil hkey)
    have hlength := hoccurs.length_le
    rw [List.length_drop] at hlength
    obtain ⟨n, c, rest, hdrop, hnext, hplace⟩ := exists_escapedPlace (t := t) (i := i) (by omega)
    -- an escaped key that begins behind a backslash is found in front of it as well
    have hfound : key <+: t.drop n := by
      rcases hplace with rfl | ⟨hc, rfl⟩
      · rw [drop_escapedPlace] at hoccurs
        exact escapeLiteral_prefix_iff.mp hoccurs
      · rw [← List.drop_drop, drop_escapedPlace, hdrop, escapeLiteral_of_isMeta hc,
          List.drop_succ_cons, List.drop_zero] at hoccurs
        rw [hdrop]
        exact prefix_of_escapeLiteral_prefix_cons hc hoccurs
    have hn : n ≤ t.length := by
      by_contra hlt
      rw [List.drop_eq_nil_of_le (Nat.le_of_not_le hlt)] at hdrop
      cases hdrop
    obtain ⟨o, ho, hle, hend⟩ := h.covers n hn hfound
    have hkeyPos := List.length_pos_iff.mpr hkey
    have hstart := escapedPlace_mono t hle
    have hstop := escapedPlace_mono t (show n + 1 ≤ o + key.length by omega)
    rw [escapedPlace_add_length (h.occurs o ho).2] at hstop
    exact ⟨escapedPlace t o, List.mem_map_of_mem ho, by omega, by omega⟩

/-- A place in a text lies between a backslash and the character that it takes along. Pairs are read from
left to right. -/
def splitsPair : Text → Nat → Bool
  | [], _ => false
  | _ :: _, 0 => false
  | c :: t, n + 1 =>
    if c = '\\' then
      match t, n with
      | [], _ => false
      | _ :: _, 0 => true
      | _ :: t, n + 1 => splitsPair t n
    else splitsPair t n

theorem splitsPair_single {c : Char} (hc : c ≠ '\\') (t : Text) (n : Nat) :
    splitsPair (c :: t) (n + 1) = splitsPair t n := by
  rw [splitsPair.eq_def]
  exact if_neg hc

theorem splitsPair_append (u v : Text) :
    splitsPair (escapeLiteral u ++ v) (escapeLiteral u).length = false := by
  induction u with
  | nil => cases v <;> rfl
  | cons c u ih =>
    cases hc : isMeta c with
    | true =>
      rw [escapeLiteral_of_isMeta hc]
      exact ih
    | false =>
      have hbackslash : c ≠ '\\' := ne_of_isMeta hc isMeta_backslash
      rw [escapeLiteral_of_not_isMeta hc, List.cons_append, List.length_cons,
        splitsPair_single hbackslash]
      exact ih

theorem splitsPair_escapedPlace (t : Text) (n : Nat) :
    splitsPair (escapeLiteral t) (escapedPlace t n) = false := by
  rw [escapeLiteral_split t n]
  exact splitsPair_append _ _

end Escape

end PatternLoom.Text
