import PatternLoom.Pattern.Program
import PatternLoom.Proofs.Pattern.Language

/-!
# Compiling and searching without backtracking

A pattern that needs no memory is compiled into its one-pass form with the whole match as group zero.
A search tries this form at one place after the other and succeeds if it has a walk at any of them.
-/

namespace PatternLoom

set_option autoImplicit false

namespace Regex

theorem Plain.isHard {r : Regex} (h : r.Plain) : r.isHard [] = false := by
  induction r with
  | empty | chars => rfl
  | seq p q ihp ihq | alt p q ihp ihq => simp [Regex.isHard, ihp h.1, ihq h.2]
  | capture g p ih | iterate lo hi greedy p ih => simpa [Regex.isHard] using ih h
  | anchor | ahead | behind | atomic | backref | groupSet | choose | keepOut | searchStart =>
    exact h.elim

theorem splitBehind_of_easy {r : Regex} (h : r.isHard [] = false) : r.splitBehind = r := by
  induction r with
  | empty | chars | anchor => rfl
  | seq p q ihp ihq | alt p q ihp ihq =>
    obtain ⟨hp, hq⟩ : p.isHard [] = false ∧ q.isHard [] = false := by simpa [isHard] using h
    rw [splitBehind, ihp hp, ihq hq]
  | capture g p ih =>
    rw [splitBehind, ih (by simpa [isHard] using h)]
  | iterate lo hi greedy p ih =>
    rw [splitBehind, ih h]
  | ahead | behind | atomic | backref | groupSet | choose | keepOut | searchStart =>
    exact absurd h (by simp [isHard])

theorem trailingAhead?_of_easy {r : Regex} (h : r.isHard [] = false) : r.trailingAhead? = none := by
  fun_induction trailingAhead? r with
  | case1 q => exact absurd h (by simp [isHard])
  | case2 p q _ ih =>
    have hq : q.isHard [] = false := (by simpa [isHard] using h : _ ∧ _).2
    rw [ih hq, Option.map_none]
  | case3 => rfl

theorem matcher?_of_easy {r : Regex} (h : r.isHard [] = false) :
    r.matcher? [] = r.simple?.map fun p => .onePass (.capture 0 p) := by
  have hwhole : r.whole = .capture 0 r := by rw [whole, trailingAhead?_of_easy h]
  have heasy : ¬(Regex.capture 0 r).isHard [] = true := by simpa [isHard] using h
  rw [matcher?, hwhole, if_neg heasy, simple?]
  cases r.simple? <;> rfl

/-- The groups of a pattern outside of all parts that are repeated zero times. -/
def survivors : Regex → List Nat
  | .seq p q | .alt p q => p.survivors ++ q.survivors
  | .capture g p => g :: p.survivors
  | .iterate _ hi _ p => if hi = some 0 then [] else p.survivors
  | .empty | .chars _ | .anchor _ | .ahead .. | .behind .. | .atomic _ | .backref .. | .groupSet _
  | .choose .. | .keepOut | .searchStart => []

/-- No part of the pattern has to be copied, and no bounds are in the wrong order. -/
def Copyless : Regex → Prop
  | .seq p q | .alt p q => p.Copyless ∧ q.Copyless
  | .capture _ p => p.Copyless
  | .iterate lo hi _ p => lo ≤ hi.getD lo ∧ hi.getD lo ≤ 1 ∧ p.Copyless
  | .empty | .chars _ | .anchor _ | .ahead .. | .behind .. | .atomic _ | .backref .. | .groupSet _
  | .choose .. | .keepOut | .searchStart => True

end Regex

namespace Simple

theorem mem_captures_times {p q : Simple} {g n : Nat} :
    g ∈ (times p n q).captures ↔ 0 < n ∧ g ∈ p.captures ∨ g ∈ q.captures := by
  induction n with
  | zero => simp [times]
  | succ n ih =>
    rw [times, captures, List.mem_append, ih]
    simp only [Nat.succ_pos, true_and]
    tauto

theorem mem_captures_upTo {p : Simple} {greedy : Bool} {g n : Nat} :
    g ∈ (upTo greedy p n).captures ↔ 0 < n ∧ g ∈ p.captures := by
  induction n with
  | zero => simp [upTo, captures]
  | succ n ih =>
    rw [upTo, captures, captures, List.mem_append, ih]
    simp only [Nat.succ_pos, true_and]
    tauto

theorem mem_captures_repeated {p : Simple} {lo : Nat} {hi : Option Nat} {greedy : Bool}
    (hle : lo ≤ hi.getD lo) {g : Nat} :
    g ∈ (repeated lo hi greedy p).captures ↔ hi ≠ some 0 ∧ g ∈ p.captures := by
  cases hi with
  | none =>
    cases lo with
    | zero =>
      rw [repeated, anyTimes]
      split <;> simp [captures]
    | succ n => simp [repeated, mem_captures_times, captures]
  | some hi =>
    have h : repeated lo (some hi) greedy p = times p lo (upTo greedy p (hi - lo)) := by
      cases lo <;> rfl
    have hle' : lo ≤ hi := hle
    rw [h, mem_captures_times, mem_captures_upTo, ← or_and_right]
    refine and_congr_left fun _ => ?_
    simp only [ne_eq, Option.some.injEq]
    omega

end Simple

namespace Regex

/-- A one-pass form captures the groups that survive. -/
theorem Plain.mem_captures {r : Regex} (hr : r.Plain) {p : Simple} (h : r.simple? = some p)
    {g : Nat} : g ∈ p.captures ↔ g ∈ r.survivors := by
  induction r generalizing p with
  | empty =>
    obtain rfl : Simple.empty = p := by simpa [simple?] using h
    rfl
  | chars s =>
    obtain rfl : Simple.chars s = p := by simpa [simple?] using h
    rfl
  | seq r₁ r₂ ih₁ ih₂ =>
    obtain ⟨p₁, h₁, p₂, h₂, rfl⟩ : ∃ p₁, r₁.simple? = some p₁ ∧ ∃ p₂, r₂.simple? = some p₂ ∧
        Simple.seq p₁ p₂ = p := by simpa [simple?, Option.bind_eq_some_iff] using h
    rw [Simple.captures, survivors, List.mem_append, List.mem_append, ih₁ hr.1 h₁, ih₂ hr.2 h₂]
  | alt r₁ r₂ ih₁ ih₂ =>
    obtain ⟨p₁, h₁, p₂, h₂, rfl⟩ : ∃ p₁, r₁.simple? = some p₁ ∧ ∃ p₂, r₂.simple? = some p₂ ∧
        Simple.alt p₁ p₂ = p := by simpa [simple?, Option.bind_eq_some_iff] using h
    rw [Simple.captures, survivors, List.mem_append, List.mem_append, ih₁ hr.1 h₁, ih₂ hr.2 h₂]
  | capture group r ih =>
    obtain ⟨q, hq, rfl⟩ : ∃ q, r.simple? = some q ∧ Simple.capture group q = p := by
      simpa [simple?, Option.bind_eq_some_iff] using h
    rw [Simple.captures, survivors, List.mem_cons, List.mem_cons, ih hr hq]
  | iterate lo hi greedy r ih =>
    obtain ⟨q, hq, hle, rfl⟩ := simple?_iterate_eq_some h
    rw [Simple.mem_captures_repeated hle, ih hr hq, survivors]
    split <;> simp_all
  | anchor | ahead | behind | atomic | backref | groupSet | choose | keepOut | searchStart =>
    exact hr.elim

/-- A plain pattern has a one-pass form if nothing in it has to be copied. -/
theorem Plain.isSome_simple? {r : Regex} (hr : r.Plain) (hc : r.Copyless) :
    r.simple?.isSome = true := by
  induction r with
  | empty | chars => rfl
  | seq p q ihp ihq | alt p q ihp ihq =>
    obtain ⟨p', hp⟩ := Option.isSome_iff_exists.mp (ihp hr.1 hc.1)
    obtain ⟨q', hq⟩ := Option.isSome_iff_exists.mp (ihq hr.2 hc.2)
    simp [simple?, hp, hq]
  | capture g p ih =>
    obtain ⟨p', hp⟩ := Option.isSome_iff_exists.mp (ih hr hc)
    simp [simple?, hp]
  | iterate lo hi greedy p ih =>
    obtain ⟨hle, hone, hc⟩ := hc
    obtain ⟨p', hp⟩ := Option.isSome_iff_exists.mp (ih hr hc)
    have h₁ : ¬hi.getD lo < lo := by omega
    have h₂ : ¬(1 < hi.getD lo ∧ hi.getD lo * p'.size > Simple.sizeLimit) := by omega
    simp only [simple?, hp, Option.bind_eq_bind, Option.bind_some, if_neg h₁, if_neg h₂,
      Option.isSome_some]
  | anchor | ahead | behind | atomic | backref | groupSet | choose | keepOut | searchStart =>
    exact hr.elim

end Regex

namespace Program

open Simple (Place)

theorem foldl_max_le_iff {l : List Nat} {b n : Nat} :
    l.foldl max b ≤ n ↔ b ≤ n ∧ ∀ x ∈ l, x ≤ n := by
  induction l generalizing b with
  | nil => simp
  | cons x l ih => simp [ih, and_assoc]

theorem foldl_max_congr {l l' : List Nat} (h : ∀ x, x ∈ l ↔ x ∈ l') :
    l.foldl max 0 = l'.foldl max 0 :=
  eq_of_forall_ge_iff fun n => by simp only [foldl_max_le_iff, h]

theorem compile?_of_easy {t : Text} {r : Regex} {groups : Nat}
    (hread : Pattern.read? t = some ⟨r, groups, [], []⟩) (h : r.isHard [] = false) :
    compile? t = r.simple?.map fun p =>
      ⟨t, (Simple.capture 0 p).captures.foldl max 0, [], .onePass (.capture 0 p)⟩ := by
  rw [compile?, hread]
  simp only [Option.bind_eq_bind, Option.bind_some, Regex.splitBehind_of_easy h,
    Regex.matcher?_of_easy h]
  cases r.simple? <;> rfl

/-- A plain pattern reports the groups that survive, up to the last one. -/
theorem compile?_of_plain {t : Text} {r : Regex} {groups : Nat}
    (hread : Pattern.read? t = some ⟨r, groups, [], []⟩) (hr : r.Plain) :
    compile? t = r.simple?.map fun p =>
      ⟨t, r.survivors.foldl max 0, [], .onePass (.capture 0 p)⟩ := by
  rw [compile?_of_easy hread hr.isHard]
  cases hp : r.simple? with
  | none => rfl
  | some p =>
    have hgroups : (Simple.capture 0 p).captures.foldl max 0 = r.survivors.foldl max 0 := by
      rw [Simple.captures, List.foldl_cons, Nat.max_self]
      exact foldl_max_congr fun g => hr.mem_captures hp
    rw [Option.map_some, Option.map_some, hgroups]

/-- A search succeeds with a walk from some place on. -/
theorem exists_of_searchOnePass {p : Simple} {slots found : Slots} {behind ahead : Text}
    (h : searchOnePass p slots behind ahead = some found) :
    ∃ pre post, ahead = pre ++ post ∧ ∃ u, Simple.Walk none p
      ⟨(pre.reverse ++ behind).head?, post, behind.length + pre.length, slots⟩ u ∧
        u.slots = found := by
  induction ahead generalizing behind with
  | nil =>
    obtain ⟨hit, hhit, rfl⟩ := Option.map_eq_some_iff.mp h
    obtain ⟨u, hwalk, rfl⟩ :=
      @Simple.walk_of_matchAt? none p ⟨behind.head?, [], behind.length, slots⟩ hit hhit
    exact ⟨[], [], rfl, u, hwalk, rfl⟩
  | cons c ahead ih =>
    rw [searchOnePass] at h
    split at h
    · rename_i hit hhit
      obtain ⟨u, hwalk, rfl⟩ :=
        @Simple.walk_of_matchAt? none p ⟨behind.head?, c :: ahead, behind.length, slots⟩ hit hhit
      exact ⟨[], c :: ahead, rfl, u, hwalk, Option.some.inj h⟩
    · obtain ⟨pre, post, rfl, u, hwalk, hu⟩ := ih h
      refine ⟨c :: pre, post, rfl, u, ?_, hu⟩
      rw [List.reverse_cons, List.append_assoc, List.length_cons, Nat.add_comm pre.length,
        ← Nat.add_assoc]
      exact hwalk

/-- A search succeeds if the pattern has a walk from some place on. -/
theorem isSome_searchOnePass_iff {p : Simple} {slots : Slots} {behind ahead : Text} :
    (searchOnePass p slots behind ahead).isSome = true ↔ ∃ pre post, ahead = pre ++ post ∧
      ∃ u, Simple.Walk none p
        ⟨(pre.reverse ++ behind).head?, post, behind.length + pre.length, slots⟩ u := by
  constructor
  · intro h
    obtain ⟨found, hfound⟩ := Option.isSome_iff_exists.mp h
    obtain ⟨pre, post, hsplit, u, hwalk, -⟩ := exists_of_searchOnePass hfound
    exact ⟨pre, post, hsplit, u, hwalk⟩
  · rintro ⟨pre, post, rfl, u, hwalk⟩
    induction pre generalizing behind with
    | nil =>
      have hmatch := @Simple.isSome_matchAt?_iff none p ⟨behind.head?, post, behind.length, slots⟩
      have hhere := hmatch.mpr ⟨u, hwalk⟩
      cases post with
      | nil =>
        rw [List.append_nil, searchOnePass, Option.isSome_map]
        exact hhere
      | cons c post =>
        rw [List.nil_append, searchOnePass]
        split
        · rfl
        · rename_i hnone
          exact absurd hhere (by simp [hnone])
    | cons c pre ih =>
      rw [List.cons_append, searchOnePass]
      split
      · rfl
      · apply ih
        rw [List.reverse_cons, List.append_assoc, List.length_cons, Nat.add_comm pre.length,
          ← Nat.add_assoc] at hwalk
        exact hwalk

end Program

end PatternLoom
