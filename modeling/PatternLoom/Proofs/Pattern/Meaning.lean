import PatternLoom.Proofs.Pattern.GroupReading
import PatternLoom.Proofs.Pattern.Search

/-!
# The meaning of what has been read

A plain pattern has a language and groups that survive compilation. Both are put together from those of
its elements.
-/

namespace PatternLoom

set_option autoImplicit false

open Reader (literals symbolElements choice)

namespace Regex

/-- A pattern is plain, with the words of a language and some surviving groups. -/
structure Denotes (p : Regex) (l : Language Char) (groups : List Nat) : Prop where
  plain : p.Plain
  words : p.language = l
  survivors : p.survivors = groups

/-- A list of elements is plain, with the words of a language and some surviving groups. -/
structure DenotesAll (ps : List Regex) (l : Language Char) (groups : List Nat) : Prop where
  plain : ∀ p ∈ ps, p.Plain
  words : (ps.map language).prod = l
  survivors : ps.flatMap Regex.survivors = groups

theorem plain_ofElements {ps : List Regex} (h : ∀ p ∈ ps, p.Plain) : (ofElements ps).Plain :=
  ofElements_induction trivial (fun _ _ hp hq => ⟨hp, hq⟩) h

theorem copyless_ofElements {ps : List Regex} (h : ∀ p ∈ ps, p.Copyless) :
    (ofElements ps).Copyless :=
  ofElements_induction trivial (fun _ _ hp hq => ⟨hp, hq⟩) h

theorem copyless_spine {ps : List Regex} (h : ∀ p ∈ ps, p.Copyless) : (spine ps).Copyless :=
  spine_induction trivial (fun _ _ hp hq => ⟨hp, hq⟩) h

theorem survivors_spine (ps : List Regex) : (spine ps).survivors = ps.flatMap survivors := by
  induction ps with
  | nil => rfl
  | cons p ps ih =>
    rw [List.flatMap_cons, ← ih]
    rfl

theorem survivors_ofElements (ps : List Regex) :
    (ofElements ps).survivors = ps.flatMap survivors := by
  rcases ps with _ | ⟨p, _ | ⟨q, ps⟩⟩
  · rfl
  · exact (List.flatMap_singleton survivors p).symm
  · exact survivors_spine (p :: q :: ps)

theorem DenotesAll.spine {ps : List Regex} {l : Language Char} {groups : List Nat}
    (h : DenotesAll ps l groups) : (Regex.spine ps).Denotes l groups where
  plain := spine_induction trivial (fun _ _ hp hq => ⟨hp, hq⟩) h.plain
  words := (language_spine ps).trans h.words
  survivors := (survivors_spine ps).trans h.survivors

theorem DenotesAll.ofElements {ps : List Regex} {l : Language Char} {groups : List Nat}
    (h : DenotesAll ps l groups) : (ofElements ps).Denotes l groups where
  plain := plain_ofElements h.plain
  words := (language_ofElements ps).trans h.words
  survivors := (survivors_ofElements ps).trans h.survivors

theorem DenotesAll.nil : DenotesAll [] 1 [] := ⟨by simp, rfl, rfl⟩

theorem DenotesAll.append {ps qs : List Regex} {l m : Language Char} {groups groups' : List Nat}
    (hp : DenotesAll ps l groups) (hq : DenotesAll qs m groups') :
    DenotesAll (ps ++ qs) (l * m) (groups ++ groups') where
  plain p h := (List.mem_append.mp h).elim (hp.plain p) (hq.plain p)
  words := by rw [List.map_append, List.prod_append, hp.words, hq.words]
  survivors := by rw [List.flatMap_append, hp.survivors, hq.survivors]

section

variable {p : Regex} {l : Language Char} {groups : List Nat}

theorem Denotes.singleton (h : p.Denotes l groups) : DenotesAll [p] l groups where
  plain := List.forall_mem_singleton.mpr h.plain
  words := List.prod_singleton.trans h.words
  survivors := (List.flatMap_singleton _ p).trans h.survivors

theorem denotes_chars (s : CharClass) : (chars s).Denotes s.language [] := ⟨trivial, rfl, rfl⟩

theorem Denotes.capture (h : p.Denotes l groups) (g : Nat) :
    (Regex.capture g p).Denotes l (g :: groups) :=
  ⟨h.plain, h.words, congrArg (g :: ·) h.survivors⟩

theorem Denotes.iterate (h : p.Denotes l groups) (lo : Nat) (hi : Option Nat) (greedy : Bool) :
    (Regex.iterate lo hi greedy p).Denotes (counted lo hi l)
      (if hi = some 0 then [] else groups) :=
  ⟨h.plain, congrArg (counted lo hi) h.words, by rw [Regex.survivors, h.survivors]⟩

theorem Denotes.spells (h : p.Denotes l groups) {q : Simple} (hq : p.simple? = some q) :
    q.Spells l :=
  h.words ▸ h.plain.spells hq

theorem Denotes.captures_eq_nil (h : p.Denotes l []) {q : Simple} (hq : p.simple? = some q) :
    q.captures = [] := by
  refine List.eq_nil_iff_forall_not_mem.mpr fun g hg => ?_
  have hsurvives := (h.plain.mem_captures hq).mp hg
  rw [h.survivors] at hsurvives
  exact List.not_mem_nil hsurvives

/-- A pattern without groups has a one-pass form that captures nothing. -/
theorem Denotes.exists_simple? (h : p.Denotes l []) (hc : p.Copyless) :
    ∃ q, p.simple? = some q ∧ q.Spells l ∧ q.captures = [] := by
  obtain ⟨q, hq⟩ := Option.isSome_iff_exists.mp (h.plain.isSome_simple? hc)
  exact ⟨q, hq, h.spells hq, h.captures_eq_nil hq⟩

end

theorem denotesAll_symbols (t : Text) : DenotesAll (symbolElements t) {t} [] := by
  induction t with
  | nil => exact .nil
  | cons c t ih =>
    have hchar : (chars (.one c)).Denotes {[c]} [] :=
      CharClass.language_one c ▸ denotes_chars (.one c)
    have hmul : ({[c]} : Language Char) * {t} = {c :: t} := Set.image2_singleton
    exact hmul ▸ hchar.singleton.append ih

theorem denotes_literals (t : Text) : (literals t).Denotes {t} [] := (denotesAll_symbols t).ofElements

/-- A choice between texts denotes the list of them. -/
theorem denotes_choice (first : Text) (others : List Text) :
    (choice first others).Denotes {w | w ∈ first :: others} [] where
  plain := by
    refine ofAlternatives_induction (fun _ _ hp hq => ⟨hp, hq⟩) (denotes_literals first).plain ?_
    exact List.forall_mem_map.mpr fun t _ => (denotes_literals t).plain
  words := by
    refine Language.ext fun w => ?_
    have hmap : literals first :: others.map literals = (first :: others).map literals := rfl
    rw [choice, mem_language_ofAlternatives, hmap]
    constructor
    · rintro ⟨p, hp, hw⟩
      obtain ⟨t, ht, rfl⟩ := List.mem_map.mp hp
      rw [(denotes_literals t).words] at hw
      exact hw ▸ ht
    · intro hw
      exact ⟨literals w, List.mem_map_of_mem hw, (denotes_literals w).words ▸ rfl⟩
  survivors := by
    refine ofAlternatives_induction (P := fun p => p.survivors = []) ?_
      (denotes_literals first).survivors ?_
    · intro p q hp hq
      rw [Regex.survivors, hp, hq, List.append_nil]
    · exact List.forall_mem_map.mpr fun t _ => (denotes_literals t).survivors

theorem copyless_symbols (t : Text) : ∀ p ∈ symbolElements t, p.Copyless :=
  List.forall_mem_map.mpr fun _ _ => trivial

theorem copyless_choice (first : Text) (others : List Text) : (choice first others).Copyless := by
  have hliterals (t : Text) : (literals t).Copyless := copyless_ofElements (copyless_symbols t)
  refine ofAlternatives_induction (fun _ _ hp hq => ⟨hp, hq⟩) (hliterals first) ?_
  exact List.forall_mem_map.mpr fun t _ => hliterals t

end Regex

end PatternLoom
