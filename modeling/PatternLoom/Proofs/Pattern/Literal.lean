import PatternLoom.Proofs.Pattern.Meaning
import PatternLoom.Proofs.Text.Occurrence

/-!
# Searching for a literal text

The pattern of an escaped text has that text for its only word. A search for it finds the first
occurrence, and repeated searches find the leftmost occurrences that do not overlap.
-/

namespace PatternLoom

set_option autoImplicit false

theorem compile?_escapeLiteral (t : Text) : ∃ p : Simple, p.Spells {t} ∧ p.captures = [] ∧
    Program.compile? (Text.escapeLiteral t) =
      some ⟨Text.escapeLiteral t, 0, [], .onePass (.capture 0 p)⟩ := by
  have hread := Reader.read?_of_readsAs (Reader.readsAs_symbols (Reader.basic_start _) t)
  have hdenotes := (Regex.denotesAll_symbols t).ofElements
  have hcopyless := Regex.copyless_ofElements (Regex.copyless_symbols t)
  obtain ⟨p, hp, hspells, hcaptures⟩ := hdenotes.exists_simple? hcopyless
  refine ⟨p, hspells, hcaptures, ?_⟩
  rw [Program.compile?_of_plain hread hdenotes.plain, hp, hdenotes.survivors]
  rfl

namespace Simple

/-- A walk through a pattern without captures sets no boundaries. -/
theorem Walk.slots_eq {beyond : Option Char} {p : Simple} {s u : Place} (h : Walk beyond p s u)
    (hp : p.captures = []) : u.slots = s.slots := by
  induction h with
  | empty | chars | anchor | without | noTime => rfl
  | seq _ _ ihp ihq =>
    obtain ⟨hp, hq⟩ := List.append_eq_nil_iff.mp hp
    exact (ihq hq).trans (ihp hp)
  | left _ ih => exact ih (List.append_eq_nil_iff.mp hp).1
  | right _ ih => exact ih (List.append_eq_nil_iff.mp hp).2
  | capture => exact absurd hp (List.cons_ne_nil _ _)
  | once _ ih | lastTime _ ih | someTimes _ ih => exact ih hp
  | oneMore _ _ ih ihmore => exact (ihmore hp).trans (ih hp)

def bounds (slots : Slots) (start stop : Nat) : Slots :=
  (slots.openAt 0 start).closeAt 0 stop

/-- A scan whose walks all end alike. -/
theorem matchAt?_of_walks {p : Simple} {s : Place} {hit : Hit} {c : Prop} [Decidable c]
    (hwalk : c → ∃ u, Walk none p s u) (hhit : ∀ u, Walk none p s u → c ∧ ⟨u.offset, u.slots⟩ = hit) :
    p.matchAt? s.before s.offset s.slots s.ahead none = if c then some hit else none := by
  by_cases hc : c
  · obtain ⟨found, hfound⟩ := Option.isSome_iff_exists.mp (isSome_matchAt?_iff.mpr (hwalk hc))
    obtain ⟨u, hu, rfl⟩ := walk_of_matchAt? hfound
    rw [hfound, if_pos hc, (hhit u hu).2]
  · rw [if_neg hc, Option.eq_none_iff_forall_ne_some]
    intro found hfound
    obtain ⟨u, hu, -⟩ := walk_of_matchAt? hfound
    exact hc (hhit u hu).1

/-- A literal matches at a place where its text stands, and nowhere else. -/
theorem matchAt?_spells {p : Simple} {t : Text} (hp : p.Spells {t}) (hc : p.captures = [])
    (s : Place) : p.matchAt? s.before s.offset s.slots s.ahead none =
      if t <+: s.ahead then some ⟨s.offset + t.length, s.slots⟩ else none := by
  apply matchAt?_of_walks
  · rintro ⟨rest, hrest⟩
    obtain ⟨u, hu, -⟩ := hp.complete none rfl hrest.symm
    exact ⟨u, hu⟩
  · intro u hu
    obtain ⟨w, rfl, hs, hoffset⟩ := hp.sound hu
    exact ⟨⟨u.ahead, hs.symm⟩, by rw [hoffset, hu.slots_eq hc]⟩

theorem matchAt?_literal {p : Simple} {t : Text} (hp : p.Spells {t}) (hc : p.captures = [])
    (s : Place) :
    (Simple.capture 0 p).matchAt? s.before s.offset s.slots s.ahead none =
      if t <+: s.ahead then some ⟨s.offset + t.length, bounds s.slots s.offset (s.offset + t.length)⟩
      else none := by
  apply matchAt?_of_walks
  · rintro ⟨rest, hrest⟩
    obtain ⟨u, hu, -⟩ := (hp.capture 0).complete none rfl hrest.symm
    exact ⟨u, hu⟩
  · intro u hu
    cases hu with
    | @capture _ _ _ u hu =>
      obtain ⟨w, rfl, hs, hoffset⟩ := hp.sound hu
      have hslots : u.slots = s.slots.openAt 0 s.offset := hu.slots_eq hc
      have hoffset' : u.offset = s.offset + w.length := hoffset
      refine ⟨⟨u.ahead, hs.symm⟩, ?_⟩
      rw [bounds, ← hslots, ← hoffset']
      rfl

end Simple

namespace Program

variable {p : Simple} {t : Text}

theorem searchOnePass_literal (hp : p.Spells {t}) (hc : p.captures = []) (slots : Slots)
    (behind ahead : Text) :
    searchOnePass (.capture 0 p) slots behind ahead =
      (Text.occurrencesFrom t 0 behind.length ahead).head?.map fun o =>
        Simple.bounds slots o (o + t.length) := by
  induction ahead generalizing behind with
  | nil =>
    have h := Simple.matchAt?_literal hp hc ⟨behind.head?, [], behind.length, slots⟩
    rw [searchOnePass, h, Text.occurrencesFrom]
    split <;> rfl
  | cons c ahead ih =>
    have h := Simple.matchAt?_literal hp hc ⟨behind.head?, c :: ahead, behind.length, slots⟩
    rw [searchOnePass, h, Text.occurrencesFrom]
    by_cases hkey : t <+: c :: ahead
    · rw [if_pos hkey, if_pos hkey]
      rfl
    · rw [if_neg hkey, if_neg hkey]
      exact ih (c :: behind)

def foundAt (t : Text) (o : Nat) : Found := [some o, some (o + t.length)]

/-- A program that looks for a literal. -/
structure IsLiteral (g : Program) (t : Text) : Prop where
  groups : g.groups = 0
  names : g.names = []
  matcher : ∃ p : Simple, p.Spells {t} ∧ p.captures = [] ∧ g.matcher = .onePass (.capture 0 p)

variable {g : Program}

theorem IsLiteral.search? (hg : g.IsLiteral t) (limit : Nat) (origin : Option Nat) (c : Cursor) :
    g.search? limit origin c =
      some ((Text.occurrencesFrom t 0 c.offset c.ahead).head?.map (foundAt t)) := by
  obtain ⟨p, hp, hc, hm⟩ := hg.matcher
  rw [Program.search?, hm, hg.groups]
  exact congrArg some (searchOnePass_literal hp hc _ _ _)

theorem ahead_forward (n : Nat) (c : Cursor) : (c.forward n).ahead = c.ahead.drop n := by
  induction n generalizing c with
  | zero => rfl
  | succ n ih =>
    obtain ⟨behind, ahead⟩ := c
    cases ahead with
    | nil => rfl
    | cons d ahead => exact ih _

theorem offset_forward {n : Nat} {c : Cursor} (h : n ≤ c.ahead.length) :
    (c.forward n).offset = c.offset + n := by
  induction n generalizing c with
  | zero => rfl
  | succ n ih =>
    obtain ⟨behind, ahead⟩ := c
    cases ahead with
    | nil => exact absurd h (by simp)
    | cons d ahead =>
      have := ih (c := ⟨d :: behind, ahead⟩) (Nat.le_of_succ_le_succ h)
      rw [Cursor.forward, this]
      simp only [Cursor.offset, List.length_cons]
      omega

/-- All searches for a literal find its leftmost occurrences. The empty text is found once at every
place, so no search that looks for it starts where the match before ended. -/
theorem IsLiteral.searchAll (hg : g.IsLiteral t) (limit : Nat) {fuel : Nat} {c : Cursor}
    (hfuel : c.ahead.length < fuel) {last : Option Nat} (hlast : t = [] → last ≠ some c.offset) :
    g.searchAll limit fuel c last =
      ⟨(Text.occurrencesFrom t 0 c.offset c.ahead).map (foundAt t), .complete⟩ := by
  induction fuel generalizing c last with
  | zero => exact absurd hfuel (Nat.not_lt_zero _)
  | succ fuel ih =>
    rw [Program.searchAll, hg.search?]
    cases hoccurrences : Text.occurrencesFrom t 0 c.offset c.ahead with
    | nil => rfl
    | cons o os =>
      have hspan : (foundAt t o).span? 0 = some (o, o + t.length) := rfl
      simp only [List.head?_cons, Option.map_some, hspan]
      by_cases ht : t = []
      · subst ht
        rw [Text.occurrencesFrom_nil_key] at hoccurrences
        obtain ⟨rfl, rfl⟩ := List.cons.inj hoccurrences
        rw [List.length_nil, Nat.add_zero, Cursor.forwardTo_offset, if_pos rfl, if_neg (hlast rfl)]
        cases hahead : c.ahead with
        | nil => rfl
        | cons d ahead =>
          rw [hahead, List.length_cons] at hfuel
          have hnext := @ih ⟨d :: c.behind, ahead⟩ (Nat.lt_of_succ_lt_succ hfuel) (some c.offset)
            fun _ h => by simp [Cursor.offset] at h
          simp only [hnext]
          rfl
      · obtain ⟨hle, hlen, hos⟩ := Text.occurrencesFrom_eq_cons ht hoccurrences
        have hpos := List.length_pos_iff.mpr ht
        have hoffset : (c.forwardTo (o + t.length)).offset = o + t.length := by
          rw [Cursor.forwardTo, offset_forward (by omega)]
          omega
        have hahead : (c.forwardTo (o + t.length)).ahead =
            c.ahead.drop (o + t.length - c.offset) := ahead_forward _ _
        have hnext := @ih (c.forwardTo (o + t.length)) (by rw [hahead, List.length_drop]; omega)
          (some (o + t.length)) fun h => absurd h ht
        rw [if_neg (by omega), hnext, hoffset, hahead, ← hos]
        rfl

end Program

end PatternLoom
