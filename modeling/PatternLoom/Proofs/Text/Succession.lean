import PatternLoom.Text.Basic

/-!
# Texts taken one after the other

What a search takes from a subject, described without the search. At every offset of the subject some
text may be taken or none. The first text is the one at the least offset where one is taken, and the
search goes on where that text ends.
-/

namespace PatternLoom.Text

set_option autoImplicit false

variable {takes : Nat → Option Text} {size start : Nat}

/-- The first text that is taken from offset `start` on, with its offset, in a subject of some size. -/
inductive Next (takes : Nat → Option Text) (size start : Nat) : Option (Nat × Text) → Prop where
  | found {q : Nat} {w : Text} (hle : start ≤ q) (hsize : q ≤ size)
      (hbefore : ∀ p, start ≤ p → p < q → takes p = none) (hw : takes q = some w) :
      Next takes size start (some (q, w))
  | missing (h : ∀ q, start ≤ q → q ≤ size → takes q = none) : Next takes size start none

/-- The texts that are taken from offset `start` on, each with its offset. -/
inductive Successive (takes : Nat → Option Text) (size : Nat) :
    Nat → List (Nat × Text) → Prop where
  | ended {start : Nat} (h : Next takes size start none) : Successive takes size start []
  | next {start q : Nat} {w : Text} {rest : List (Nat × Text)}
      (h : Next takes size start (some (q, w)))
      (hrest : Successive takes size (q + w.length) rest) :
      Successive takes size start ((q, w) :: rest)

/-- The number of offsets where nothing is taken before the first text is. -/
def passed (size start : Nat) : Option (Nat × Text) → Nat
  | some (q, _) => q - start
  | none => size + 1 - start

/-- The numbers of offsets where nothing is taken, in front of each of some texts and behind the last. -/
def passes (size : Nat) : Nat → List (Nat × Text) → List Nat
  | start, [] => [passed size start none]
  | start, (q, w) :: rest => passed size start (some (q, w)) :: passes size (q + w.length) rest

theorem Next.here {w : Text} (hsize : start ≤ size) (hw : takes start = some w) :
    Next takes size start (some (start, w)) := by
  apply Next.found (Nat.le_refl _) hsize _ hw
  intro p hle hlt
  omega

theorem Next.later {o : Option (Nat × Text)} (h : Next takes size (start + 1) o)
    (hstart : takes start = none) : Next takes size start o := by
  cases h with
  | @found q w hle hsize hbefore hw =>
    apply Next.found (by omega) hsize _ hw
    intro p hp hlt
    rcases Nat.eq_or_lt_of_le hp with rfl | hp
    · exact hstart
    · exact hbefore p hp hlt
  | missing h =>
    apply Next.missing
    intro q hq hsize
    rcases Nat.eq_or_lt_of_le hq with rfl | hq
    · exact hstart
    · exact h q hq hsize

theorem Next.passed_succ {o : Option (Nat × Text)} (h : Next takes size (start + 1) o)
    (hsize : start ≤ size) : passed size start o = passed size (start + 1) o + 1 := by
  cases h with
  | found hle =>
    simp only [passed]
    omega
  | missing =>
    simp only [passed]
    omega

theorem Next.last (hsize : size ≤ start) (hstart : takes start = none) :
    Next takes size start none := by
  apply Next.missing
  intro q hq hle
  obtain rfl : q = start := by omega
  exact hstart

theorem Next.unique {o o' : Option (Nat × Text)} (h : Next takes size start o)
    (h' : Next takes size start o') : o = o' := by
  cases h with
  | @found q w hle hsize hbefore hw =>
    cases h' with
    | @found q' w' hle' hsize' hbefore' hw' =>
      have hq : q = q' := by
        rcases Nat.lt_trichotomy q q' with hlt | heq | hlt
        · rw [hbefore' q hle hlt] at hw
          cases hw
        · exact heq
        · rw [hbefore q' hle' hlt] at hw'
          cases hw'
      subst hq
      rw [Option.some.inj (hw.symm.trans hw')]
    | missing h' =>
      rw [h' q hle hsize] at hw
      cases hw
  | missing h =>
    cases h' with
    | @found q w hle hsize hbefore hw =>
      rw [h q hle hsize] at hw
      cases hw
    | missing => rfl

/-- There is one way to take texts one after the other. -/
theorem Successive.unique {spans spans' : List (Nat × Text)} (h : Successive takes size start spans)
    (h' : Successive takes size start spans') : spans = spans' := by
  induction h generalizing spans' with
  | ended h =>
    cases h' with
    | ended => rfl
    | next h' => cases h.unique h'
  | next h _ ih =>
    cases h' with
    | ended h' => cases h.unique h'
    | next h' hrest' =>
      cases h.unique h'
      rw [ih hrest']

theorem Successive.takes_eq {spans : List (Nat × Text)} (h : Successive takes size start spans) :
    ∀ x ∈ spans, x.1 ≤ size ∧ takes x.1 = some x.2 := by
  induction h with
  | ended => exact List.forall_mem_nil _
  | next h _ ih =>
    cases h with
    | found hle hsize hbefore hw => exact List.forall_mem_cons.mpr ⟨⟨hsize, hw⟩, ih⟩

theorem add_length_le_of_prefix_drop {t s : Text} {q : Nat} (ht : t ≠ []) (h : t <+: s.drop q) :
    q + t.length ≤ s.length := by
  have hpos := List.length_pos_iff.mpr ht
  have hlength := h.length_le
  rw [List.length_drop] at hlength
  omega

end PatternLoom.Text
