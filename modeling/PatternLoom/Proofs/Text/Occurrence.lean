import PatternLoom.Text.Occurrence

/-!
# Leftmost occurrences

Where a key occurs in a text when occurrences are taken from the left and do not overlap. The empty key
occurs once at every place, the end included.
-/

namespace PatternLoom.Text

set_option autoImplicit false

/-- The offsets of the leftmost occurrences of a key in a text that starts at `offset`. The first `skip`
characters belong to an occurrence that has been taken already. -/
def occurrencesFrom (key : Text) : Nat → Nat → Text → List Nat
  | skip + 1, offset, _ :: s => occurrencesFrom key skip (offset + 1) s
  | _ + 1, _, [] => []
  | 0, offset, [] => if key <+: [] then [offset] else []
  | 0, offset, c :: s =>
    if key <+: c :: s then offset :: occurrencesFrom key (key.length - 1) (offset + 1) s
    else occurrencesFrom key 0 (offset + 1) s

/-- The offsets of the leftmost occurrences of a key in a text that do not overlap. -/
def occurrences (key s : Text) : List Nat := occurrencesFrom key 0 0 s

/-- A text with `replacement` in the place of each of these occurrences. -/
def exchangeFrom (key replacement : Text) : Nat → Text → Text
  | skip + 1, _ :: s => exchangeFrom key replacement skip s
  | _ + 1, [] => []
  | 0, [] => if key <+: [] then replacement else []
  | 0, c :: s =>
    if key <+: c :: s then
      replacement ++ (if key = [] then [c] else []) ++
        exchangeFrom key replacement (key.length - 1) s
    else c :: exchangeFrom key replacement 0 s

/-- A text with every leftmost occurrence of a key replaced. -/
def exchange (key replacement s : Text) : Text := exchangeFrom key replacement 0 s

/-- The offsets in a list are those of the occurrences of a key that are found from the left: each is
one, each ends before the next, and every occurrence is one of them or overlaps with one that starts
before it. -/
structure Leftmost (key s : Text) (offsets : List Nat) : Prop where
  occurs : ∀ o ∈ offsets, o ≤ s.length ∧ key <+: s.drop o
  apart : offsets.Pairwise fun o o' => o < o' ∧ o + key.length ≤ o'
  covers : ∀ i ≤ s.length, key <+: s.drop i →
    ∃ o ∈ offsets, o ≤ i ∧ i ≤ o + (key.length - 1)

variable {key s : Text} {skip offset : Nat}

theorem of_mem_occurrencesFrom {o : Nat} (h : o ∈ occurrencesFrom key skip offset s) :
    offset + skip ≤ o ∧ o ≤ offset + s.length ∧ key <+: s.drop (o - offset) := by
  induction s generalizing skip offset with
  | nil =>
    cases skip with
    | succ skip => exact absurd h List.not_mem_nil
    | zero =>
      rw [occurrencesFrom] at h
      split at h
      · rename_i hkey
        obtain rfl := List.mem_singleton.mp h
        exact ⟨Nat.le_refl _, Nat.le_refl _, by simpa using hkey⟩
      · exact absurd h List.not_mem_nil
  | cons c s ih =>
    have hlater {skip' : Nat} (h : o ∈ occurrencesFrom key skip' (offset + 1) s) :
        offset + (skip' + 1) ≤ o ∧ o ≤ offset + (c :: s).length ∧
          key <+: (c :: s).drop (o - offset) := by
      obtain ⟨hle, hlen, hkey⟩ := ih h
      obtain ⟨d, hd⟩ : ∃ d, o - offset = d + 1 := ⟨o - offset - 1, by omega⟩
      refine ⟨by omega, by rw [List.length_cons]; omega, ?_⟩
      rw [hd, List.drop_succ_cons]
      rwa [show o - (offset + 1) = d by omega] at hkey
    cases skip with
    | succ skip => exact hlater h
    | zero =>
      rw [occurrencesFrom] at h
      split at h
      · rename_i hkey
        rcases List.mem_cons.mp h with rfl | h
        · exact ⟨Nat.le_refl _, by omega, by simpa⟩
        · obtain ⟨hle, hrest⟩ := hlater h
          exact ⟨by omega, hrest⟩
      · obtain ⟨hle, hrest⟩ := hlater h
        exact ⟨by omega, hrest⟩

theorem pairwise_occurrencesFrom :
    (occurrencesFrom key skip offset s).Pairwise fun o o' => o < o' ∧ o + key.length ≤ o' := by
  induction s generalizing skip offset with
  | nil =>
    cases skip with
    | succ skip => exact .nil
    | zero =>
      rw [occurrencesFrom]
      split
      · exact List.pairwise_singleton _ _
      · exact .nil
  | cons c s ih =>
    cases skip with
    | succ skip => exact ih
    | zero =>
      rw [occurrencesFrom]
      split
      · refine List.pairwise_cons.mpr ⟨fun o ho => ?_, ih⟩
        have := (of_mem_occurrencesFrom ho).1
        omega
      · exact ih

theorem exists_mem_occurrencesFrom {i : Nat} (hi : offset + skip ≤ i) (hlen : i ≤ offset + s.length)
    (hkey : key <+: s.drop (i - offset)) :
    ∃ o ∈ occurrencesFrom key skip offset s, o ≤ i ∧ i ≤ o + (key.length - 1) := by
  induction s generalizing skip offset with
  | nil =>
    obtain rfl : i = offset := by rw [List.length_nil] at hlen; omega
    obtain rfl : skip = 0 := by omega
    rw [occurrencesFrom, if_pos (by simpa using hkey)]
    exact ⟨i, List.mem_cons_self, Nat.le_refl _, by omega⟩
  | cons c s ih =>
    have hlater (skip' : Nat) (hi' : offset + (skip' + 1) ≤ i) :
        ∃ o ∈ occurrencesFrom key skip' (offset + 1) s, o ≤ i ∧ i ≤ o + (key.length - 1) := by
      obtain ⟨d, hd⟩ : ∃ d, i - offset = d + 1 := ⟨i - offset - 1, by omega⟩
      rw [hd, List.drop_succ_cons] at hkey
      refine ih (by omega) (by rw [List.length_cons] at hlen; omega) ?_
      rwa [show i - (offset + 1) = d by omega]
    cases skip with
    | succ skip => exact hlater skip hi
    | zero =>
      rw [occurrencesFrom]
      split
      · by_cases hle : i ≤ offset + (key.length - 1)
        · exact ⟨offset, List.mem_cons_self, by omega, hle⟩
        · obtain ⟨o, ho, hrest⟩ := hlater (key.length - 1) (by omega)
          exact ⟨o, List.mem_cons_of_mem _ ho, hrest⟩
      · rename_i hne
        have hi' : i ≠ offset := by
          rintro rfl
          exact hne (by simpa using hkey)
        exact hlater 0 (by omega)

theorem leftmost_occurrences (key s : Text) : Leftmost key s (occurrences key s) where
  occurs o ho := by
    obtain ⟨-, hlen, hkey⟩ := of_mem_occurrencesFrom ho
    exact ⟨by omega, hkey⟩
  apart := pairwise_occurrencesFrom
  covers i hlen hkey := exists_mem_occurrencesFrom (Nat.zero_le _) (by omega) hkey

theorem Leftmost.ne_nil_iff {offsets : List Nat} (h : Leftmost key s offsets) :
    offsets ≠ [] ↔ key <:+: s := by
  rw [List.infix_iff_prefix_suffix]
  constructor
  · intro hne
    obtain ⟨o, rest, rfl⟩ := List.exists_cons_of_ne_nil hne
    exact ⟨_, (h.occurs o List.mem_cons_self).2, List.drop_suffix o s⟩
  · rintro ⟨t, hkey, hsuffix⟩
    have hlen := hsuffix.length_le
    obtain ⟨o, ho, -⟩ := h.covers (s.length - t.length) (by omega)
      (List.suffix_iff_eq_drop.mp hsuffix ▸ hkey)
    exact List.ne_nil_of_mem ho

theorem occurrencesFrom_skip (h : skip ≤ s.length) :
    occurrencesFrom key skip offset s = occurrencesFrom key 0 (offset + skip) (s.drop skip) := by
  induction s generalizing skip offset with
  | nil =>
    obtain rfl : skip = 0 := Nat.le_zero.mp h
    rfl
  | cons c s ih =>
    cases skip with
    | zero => rfl
    | succ skip =>
      rw [occurrencesFrom, ih (Nat.le_of_succ_le_succ h), List.drop_succ_cons, Nat.add_right_comm]
      rfl

theorem exchangeFrom_skip {replacement : Text} (h : skip ≤ s.length) :
    exchangeFrom key replacement skip s = exchangeFrom key replacement 0 (s.drop skip) := by
  induction s generalizing skip with
  | nil =>
    obtain rfl : skip = 0 := Nat.le_zero.mp h
    rfl
  | cons c s ih =>
    cases skip with
    | zero => rfl
    | succ skip => exact ih (Nat.le_of_succ_le_succ h)

theorem occurrencesFrom_nil_key (offset : Nat) (s : Text) :
    occurrencesFrom [] 0 offset s =
      offset :: match s with
        | [] => []
        | _ :: s => occurrencesFrom [] 0 (offset + 1) s := by
  cases s <;> rfl

/-- After an occurrence of a key with characters the search goes on behind it. -/
theorem occurrencesFrom_eq_cons (hne : key ≠ []) {o : Nat} {os : List Nat}
    (h : occurrencesFrom key 0 offset s = o :: os) :
    offset ≤ o ∧ o + key.length ≤ offset + s.length ∧
      os = occurrencesFrom key 0 (o + key.length) (s.drop (o + key.length - offset)) := by
  have hpos := List.length_pos_iff.mpr hne
  induction s generalizing offset with
  | nil =>
    rw [occurrencesFrom, if_neg fun hkey => hne (List.prefix_nil.mp hkey)] at h
    exact absurd h (List.cons_ne_nil _ _).symm
  | cons c s ih =>
    rw [occurrencesFrom] at h
    split at h
    · rename_i hkey
      obtain ⟨rfl, rfl⟩ := List.cons.inj h
      have hlen := hkey.length_le
      rw [List.length_cons] at hlen ⊢
      refine ⟨Nat.le_refl _, by omega, ?_⟩
      obtain ⟨n, hn⟩ : ∃ n, key.length = n + 1 := ⟨key.length - 1, by omega⟩
      rw [occurrencesFrom_skip (by omega), Nat.add_sub_cancel_left, hn, List.drop_succ_cons,
        Nat.add_sub_cancel, Nat.add_right_comm]
      rfl
    · obtain ⟨hle, hlen, hos⟩ := ih h
      rw [List.length_cons]
      refine ⟨by omega, by omega, ?_⟩
      obtain ⟨n, hn⟩ : ∃ n, o + key.length - offset = n + 1 :=
        ⟨o + key.length - offset - 1, by omega⟩
      rw [hos, hn, List.drop_succ_cons, show o + key.length - (offset + 1) = n by omega]

end PatternLoom.Text
