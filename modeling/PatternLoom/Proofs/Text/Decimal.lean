import PatternLoom.Text.Decimal

/-!
# Numerals are read back

The decimal numeral of a number is made of digits, and its value is the number.
-/

namespace PatternLoom.Text

set_option autoImplicit false

theorem isDigit_digitChar (n : Nat) : (digitChar n).isDigit = true := by
  have h : ∀ d < 10, (Char.ofNat (0x30 + d)).isDigit = true := by decide
  exact h (n % 10) (by omega)

theorem digitValue?_digitChar (n : Nat) : digitValue? (digitChar n) = some (n % 10) := by
  have h : ∀ d < 10, digitValue? (Char.ofNat (0x30 + d)) = some d := by decide
  exact h (n % 10) (by omega)

theorem digitsValue?_append (value : Nat) (s t : Text) :
    digitsValue? value (s ++ t) = (digitsValue? value s).bind fun v => digitsValue? v t := by
  induction s generalizing value with
  | nil => rfl
  | cons c s ih =>
    rw [List.cons_append, digitsValue?, digitsValue?]
    cases digitValue? c with
    | none => rfl
    | some d => exact ih _

theorem digitsValue?_ofNat (n : Nat) : digitsValue? 0 (ofNat n) = some n := by
  fun_induction ofNat n with
  | case1 n h =>
    rw [digitsValue?, digitValue?_digitChar, Nat.mod_eq_of_lt h]
    simp only [digitsValue?, Nat.zero_mul, Nat.zero_add]
  | case2 n h ih =>
    rw [digitsValue?_append, ih, Option.bind_some, digitsValue?, digitValue?_digitChar]
    simp only [digitsValue?, Option.some.injEq]
    omega

theorem isDigit_of_mem_ofNat {n : Nat} {c : Char} (h : c ∈ ofNat n) : c.isDigit = true := by
  fun_induction ofNat n with
  | case1 n hn =>
    rw [List.mem_singleton.mp h]
    exact isDigit_digitChar n
  | case2 n hn ih =>
    rcases List.mem_append.mp h with h | h
    · exact ih h
    · rw [List.mem_singleton.mp h]
      exact isDigit_digitChar n

theorem ne_of_isDigit {d mark : Char} (hd : d.isDigit = true) (hmark : mark.isDigit = false) :
    d ≠ mark := by
  rintro rfl
  rw [hd] at hmark
  cases hmark

theorem ofNat_ne_nil (n : Nat) : ofNat n ≠ [] := by
  rw [ofNat]
  split <;> simp

theorem toNat?_ofNat (n : Nat) : toNat? (ofNat n) = some n := by
  have hvalue := digitsValue?_ofNat n
  cases h : ofNat n with
  | nil => exact absurd h (ofNat_ne_nil n)
  | cons d t => rwa [h] at hvalue

theorem exists_digit_cons (n : Nat) : ∃ d t, ofNat n = d :: t ∧ d.isDigit = true := by
  obtain ⟨d, t, ht⟩ := List.exists_cons_of_ne_nil (ofNat_ne_nil n)
  refine ⟨d, t, ht, isDigit_of_mem_ofNat (n := n) ?_⟩
  rw [ht]
  exact List.mem_cons_self

/-- Only the numeral of zero starts with a zero. -/
theorem eq_of_ofNat_append_eq_zero_cons {n : Nat} {rest t : Text} (h : ofNat n ++ rest = '0' :: t) :
    ofNat n = ['0'] ∧ t = rest := by
  fun_induction ofNat n generalizing rest with
  | case1 n hn =>
    obtain ⟨hd, ht⟩ := List.cons.inj h
    exact ⟨congrArg (fun d => [d]) hd, ht.symm⟩
  | case2 n hn ih =>
    rw [List.append_assoc] at h
    have hvalue := digitsValue?_ofNat (n / 10)
    rw [(ih h).1] at hvalue
    have hzero : 0 = n / 10 := Option.some.inj hvalue
    omega

theorem takeWhile_ofNat_append (n : Nat) {c : Char} (hc : c.isDigit = false) (rest : Text) :
    (ofNat n ++ c :: rest).takeWhile Char.isDigit = ofNat n := by
  rw [List.takeWhile_append_of_pos fun _ => isDigit_of_mem_ofNat,
    List.takeWhile_cons_of_neg (by simp [hc]), List.append_nil]

theorem dropWhile_ofNat_append (n : Nat) {c : Char} (hc : c.isDigit = false) (rest : Text) :
    (ofNat n ++ c :: rest).dropWhile Char.isDigit = c :: rest := by
  rw [List.dropWhile_append_of_pos fun _ => isDigit_of_mem_ofNat,
    List.dropWhile_cons_of_neg (by simp [hc])]

theorem toNatBelow?_ofNat {bound n : Nat} (hn : n < bound) : toNatBelow? bound (ofNat n) = some n := by
  obtain ⟨d, t, ht, hd⟩ := exists_digit_cons n
  have hvalue := toNat?_ofNat n
  have hplus : d ≠ '+' := ne_of_isDigit hd rfl
  rw [ht] at hvalue ⊢
  rw [toNatBelow?]
  · rw [hvalue]
    exact if_pos hn
  · intro rest h
    exact hplus (List.cons.inj h).1

/-- A numeral in front of a character that is no digit is read back. -/
theorem takeNatBelow?_ofNat_append {bound n : Nat} (hn : n < bound) {c : Char}
    (hc : c.isDigit = false) (rest : Text) :
    takeNatBelow? bound (ofNat n ++ c :: rest) = some (n, c :: rest) := by
  rw [takeNatBelow?, takeWhile_ofNat_append n hc, toNat?_ofNat, dropWhile_ofNat_append n hc]
  exact if_pos hn

end PatternLoom.Text
