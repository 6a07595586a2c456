import Mathlib.Computability.Language
import PatternLoom.Proofs.Pattern.Scan

/-!
# Languages of plain patterns

A plain pattern asks for nothing but characters: it has no anchors and needs no memory. It has a
language, and its one-pass form walks over the words of that language and over no other texts. The
shapes that repetitions are brought into, copies one after the other and copies one inside the other,
make no difference to the language.
-/

namespace PatternLoom

set_option autoImplicit false

/-- The words made of `k` words of a language, for some `k` between two bounds. -/
def counted (lo : Nat) (hi : Option Nat) (l : Language Char) : Language Char :=
  {w | ∃ k, lo ≤ k ∧ (∀ h ∈ hi, k ≤ h) ∧ w ∈ l ^ k}

theorem mem_counted {lo : Nat} {hi : Option Nat} {l : Language Char} {w : Text} :
    w ∈ counted lo hi l ↔ ∃ k, lo ≤ k ∧ (∀ h ∈ hi, k ≤ h) ∧ w ∈ l ^ k := Iff.rfl

def CharClass.language (s : CharClass) : Language Char :=
  {w | ∃ c, s.contains c = true ∧ w = [c]}

theorem CharClass.language_one (c : Char) : (CharClass.one c).language = {[c]} := by
  refine Language.ext fun w => ⟨?_, ?_⟩
  · rintro ⟨d, hd, rfl⟩
    rw [(CharClass.contains_one c d).mp hd]
    rfl
  · rintro rfl
    exact ⟨c, (CharClass.contains_one c c).mpr rfl, rfl⟩

/-- A fixed number of words in front of a counted number of words. -/
theorem pow_mul_counted (n lo : Nat) (hi : Option Nat) (l : Language Char) :
    l ^ n * counted lo hi l = counted (n + lo) (hi.map (n + ·)) l := by
  ext w
  rw [Language.mem_mul, mem_counted]
  constructor
  · rintro ⟨a, ha, b, ⟨k, hlo, hhi, hb⟩, rfl⟩
    refine ⟨n + k, by omega, ?_, pow_add l n k ▸ Language.append_mem_mul ha hb⟩
    intro h hh
    obtain ⟨h', hh', rfl⟩ := Option.mem_map.mp hh
    have := hhi h' hh'
    omega
  · rintro ⟨k, hlo, hhi, hw⟩
    obtain ⟨k, rfl⟩ : ∃ k', k = n + k' := ⟨k - n, by omega⟩
    rw [pow_add] at hw
    obtain ⟨a, ha, b, hb, rfl⟩ := Language.mem_mul.mp hw
    refine ⟨a, ha, b, ⟨k, by omega, ?_, hb⟩, rfl⟩
    intro h hh
    have := hhi (n + h) (Option.mem_map.mpr ⟨h, hh, rfl⟩)
    omega

namespace Regex

/-- A pattern without anchors and without memory. -/
def Plain : Regex → Prop
  | .empty | .chars _ => True
  | .seq p q | .alt p q => p.Plain ∧ q.Plain
  | .capture _ p | .iterate _ _ _ p => p.Plain
  | .anchor _ | .ahead .. | .behind .. | .atomic _ | .backref .. | .groupSet _ | .choose ..
  | .keepOut | .searchStart => False

def language : Regex → Language Char
  | .empty => 1
  | .chars s => s.language
  | .seq p q => p.language * q.language
  | .alt p q => p.language + q.language
  | .capture _ p => p.language
  | .iterate lo hi _ p => counted lo hi p.language
  | .anchor _ | .ahead .. | .behind .. | .atomic _ | .backref .. | .groupSet _ | .choose ..
  | .keepOut | .searchStart => 0

/-- A sequence with all its elements on the spine. -/
def spine (ps : List Regex) : Regex := ps.foldr .seq .empty

theorem ofElements_eq_spine {ps : List Regex} (h : 2 ≤ ps.length) : ofElements ps = spine ps := by
  match ps with
  | [] => simp at h
  | [_] => simp at h
  | _ :: _ :: _ => rfl

theorem spine_induction {P : Regex → Prop} (hempty : P .empty)
    (hseq : ∀ p q, P p → P q → P (.seq p q)) {ps : List Regex} (h : ∀ p ∈ ps, P p) :
    P (spine ps) := by
  induction ps with
  | nil => exact hempty
  | cons p ps ih =>
    obtain ⟨hp, hps⟩ := List.forall_mem_cons.mp h
    exact hseq _ _ hp (ih hps)

/-- A property that sequences inherit from their parts holds of a list of elements. -/
theorem ofElements_induction {P : Regex → Prop} (hempty : P .empty)
    (hseq : ∀ p q, P p → P q → P (.seq p q)) {ps : List Regex} (h : ∀ p ∈ ps, P p) :
    P (.ofElements ps) := by
  match ps with
  | [] => exact hempty
  | [p] => exact h p List.mem_cons_self
  | p :: q :: ps => exact spine_induction hempty hseq h

/-- A property that choices inherit from their parts holds of a list of alternatives. -/
theorem ofAlternatives_induction {P : Regex → Prop} (halt : ∀ p q, P p → P q → P (.alt p q))
    {first : Regex} (hfirst : P first) {others : List Regex} (h : ∀ p ∈ others, P p) :
    P (.ofAlternatives first others) := by
  induction others generalizing first with
  | nil => exact hfirst
  | cons p others ih =>
    obtain ⟨hp, hothers⟩ := List.forall_mem_cons.mp h
    exact halt _ _ hfirst (ih hp hothers)

theorem language_spine (ps : List Regex) : (spine ps).language = (ps.map language).prod := by
  induction ps with
  | nil => rfl
  | cons p ps ih =>
    rw [List.map_cons, List.prod_cons, ← ih]
    rfl

theorem language_ofElements (ps : List Regex) :
    (Regex.ofElements ps).language = (ps.map language).prod := by
  match ps with
  | [] => rfl
  | [p] => exact (List.prod_singleton).symm
  | p :: q :: ps => exact language_spine (p :: q :: ps)

theorem mem_language_ofAlternatives {first : Regex} {others : List Regex} {w : Text} :
    w ∈ (Regex.ofAlternatives first others).language ↔ ∃ p ∈ first :: others, w ∈ p.language := by
  induction others generalizing first with
  | nil => simp [ofAlternatives]
  | cons p others ih =>
    rw [ofAlternatives, language, Language.mem_add, ih, List.exists_mem_cons_iff,
      List.exists_mem_cons_iff, List.exists_mem_cons_iff]

end Regex

namespace Simple

/-- The walks of a pattern are over the words of a language, wherever they start. -/
structure Spells (p : Simple) (l : Language Char) : Prop where
  sound : ∀ {beyond : Option Char} {s u : Place}, Walk beyond p s u →
    ∃ w ∈ l, s.ahead = w ++ u.ahead ∧ u.offset = s.offset + w.length
  complete : ∀ (beyond : Option Char) {s : Place} {w rest : Text}, w ∈ l → s.ahead = w ++ rest →
    ∃ u, Walk beyond p s u ∧ u.ahead = rest

namespace Spells

variable {p q : Simple} {l m : Language Char}

theorem empty : Spells .empty 1 where
  sound h := by
    cases h
    exact ⟨[], rfl, rfl, rfl⟩
  complete beyond s w rest hw hs := by
    rw [Language.mem_one] at hw
    exact ⟨s, .empty, by rw [hs, hw, List.nil_append]⟩

theorem chars (s : CharClass) : Spells (.chars s) s.language where
  sound h := by
    cases h with
    | chars hs hc => exact ⟨[_], ⟨_, hc, rfl⟩, hs, rfl⟩
  complete beyond s w rest hw hs := by
    obtain ⟨d, hd, rfl⟩ := hw
    exact ⟨_, .chars hs hd, rfl⟩

theorem seq (hp : Spells p l) (hq : Spells q m) : Spells (.seq p q) (l * m) where
  sound h := by
    cases h with
    | seq hwp hwq =>
      obtain ⟨a, ha, hsa, hoa⟩ := hp.sound hwp
      obtain ⟨b, hb, hsb, hob⟩ := hq.sound hwq
      refine ⟨a ++ b, Language.append_mem_mul ha hb, ?_, ?_⟩
      · rw [hsa, hsb, List.append_assoc]
      · rw [hob, hoa, List.length_append, Nat.add_assoc]
  complete beyond s w rest hw hs := by
    obtain ⟨a, ha, b, hb, rfl⟩ := Language.mem_mul.mp hw
    rw [List.append_assoc] at hs
    obtain ⟨t, hwp, ht⟩ := hp.complete beyond ha hs
    obtain ⟨u, hwq, hu⟩ := hq.complete beyond hb ht
    exact ⟨u, .seq hwp hwq, hu⟩

theorem alt (hp : Spells p l) (hq : Spells q m) : Spells (.alt p q) (l + m) where
  sound h := by
    cases h with
    | left h =>
      obtain ⟨w, hw, hrest⟩ := hp.sound h
      exact ⟨w, Or.inl hw, hrest⟩
    | right h =>
      obtain ⟨w, hw, hrest⟩ := hq.sound h
      exact ⟨w, Or.inr hw, hrest⟩
  complete beyond s w rest hw hs := by
    rcases (Language.mem_add _ _ _).mp hw with hw | hw
    · exact (hp.complete beyond hw hs).imp fun _ h => ⟨.left h.1, h.2⟩
    · exact (hq.complete beyond hw hs).imp fun _ h => ⟨.right h.1, h.2⟩

theorem capture (hp : Spells p l) (g : Nat) : Spells (.capture g p) l where
  sound h := by
    cases h with
    | capture h =>
      obtain ⟨w, hw, hs, ho⟩ := hp.sound h
      exact ⟨w, hw, hs, ho⟩
  complete beyond s w rest hw hs := by
    obtain ⟨u, hu, hrest⟩ :=
      hp.complete beyond (s := s.withSlots (s.slots.openAt g s.offset)) hw hs
    exact ⟨_, .capture hu, hrest⟩

theorem optional (hp : Spells p l) (greedy : Bool) : Spells (.optional greedy p) (1 + l) where
  sound h := by
    cases h with
    | without => exact ⟨[], Or.inl rfl, rfl, rfl⟩
    | once h => exact (hp.sound h).imp fun w h => ⟨Or.inr h.1, h.2⟩
  complete beyond s w rest hw hs := by
    rcases (Language.mem_add _ _ _).mp hw with hw | hw
    · rw [Language.mem_one] at hw
      exact ⟨s, .without, by rw [hs, hw, List.nil_append]⟩
    · exact (hp.complete beyond hw hs).imp fun _ h => ⟨.once h.1, h.2⟩

theorem plus (hp : Spells p l) (greedy : Bool) : Spells (.plus greedy p) (counted 1 none l) where
  sound {beyond s u} h := by
    generalize hplus : Simple.plus greedy p = r at h
    induction h with
    | lastTime h =>
      cases hplus
      obtain ⟨w, hw, hrest⟩ := hp.sound h
      exact ⟨w, ⟨1, le_refl _, by simp, by rwa [pow_one]⟩, hrest⟩
    | oneMore h _ _ ih =>
      cases hplus
      obtain ⟨a, ha, hsa, hoa⟩ := hp.sound h
      obtain ⟨b, ⟨k, -, -, hb⟩, hsb, hob⟩ := ih rfl
      refine ⟨a ++ b, ⟨k + 1, by omega, by simp, ?_⟩, ?_, ?_⟩
      · exact pow_succ' l k ▸ Language.append_mem_mul ha hb
      · rw [hsa, hsb, List.append_assoc]
      · rw [hob, hoa, List.length_append, Nat.add_assoc]
    | empty | chars | anchor | seq | left | right | capture | without | once | noTime | someTimes =>
      exact absurd hplus (by simp)
  complete beyond s w rest hw hs := by
    obtain ⟨k, hk, -, hw⟩ := hw
    obtain ⟨k, rfl⟩ : ∃ k', k = k' + 1 := ⟨k - 1, by omega⟩
    induction k generalizing s w with
    | zero =>
      rw [Nat.zero_add, pow_one] at hw
      exact (hp.complete beyond hw hs).imp fun _ h => ⟨.lastTime h.1, h.2⟩
    | succ k ih =>
      rw [pow_succ'] at hw
      obtain ⟨a, ha, b, hb, rfl⟩ := Language.mem_mul.mp hw
      rw [List.append_assoc] at hs
      obtain ⟨t, hwalk, ht⟩ := hp.complete beyond ha hs
      obtain ⟨u, hmore, hu⟩ := ih t _ ht (by omega) hb
      exact ⟨u, .oneMore hwalk hmore, hu⟩

/-- Any number of words is none or at least one. -/
theorem one_add_counted_one (l : Language Char) : 1 + counted 1 none l = counted 0 none l := by
  ext w
  rw [Language.mem_add, Language.mem_one, mem_counted, mem_counted]
  constructor
  · rintro (rfl | ⟨k, -, -, hw⟩)
    · exact ⟨0, le_refl _, by simp, rfl⟩
    · exact ⟨k, Nat.zero_le _, by simp, hw⟩
  · rintro ⟨k, -, -, hw⟩
    cases k with
    | zero => exact Or.inl hw
    | succ k => exact Or.inr ⟨k + 1, by omega, by simp, hw⟩

theorem star (hp : Spells p l) (greedy : Bool) : Spells (.star greedy p) (counted 0 none l) where
  sound h := by
    rw [← one_add_counted_one]
    cases h with
    | noTime => exact ⟨[], Or.inl rfl, rfl, rfl⟩
    | someTimes h => exact ((hp.plus greedy).sound h).imp fun w h => ⟨Or.inr h.1, h.2⟩
  complete beyond s w rest hw hs := by
    rw [← one_add_counted_one] at hw
    rcases (Language.mem_add _ _ _).mp hw with hw | hw
    · rw [Language.mem_one] at hw
      exact ⟨s, .noTime, by rw [hs, hw, List.nil_append]⟩
    · exact ((hp.plus greedy).complete beyond hw hs).imp fun _ h => ⟨.someTimes h.1, h.2⟩

theorem anyTimes (hp : Spells p l) (greedy : Bool) :
    Spells (Simple.anyTimes greedy p) (counted 0 none l) := by
  unfold Simple.anyTimes
  split
  · exact one_add_counted_one l ▸ (hp.plus greedy).optional greedy
  · exact hp.star greedy

theorem times (hp : Spells p l) (hq : Spells q m) (n : Nat) :
    Spells (Simple.times p n q) (l ^ n * m) := by
  induction n with
  | zero => rwa [pow_zero, one_mul]
  | succ n ih => exact pow_succ' l n ▸ mul_assoc l (l ^ n) m ▸ hp.seq ih

/-- At most `n + 1` words are none or one in front of at most `n`. -/
theorem one_add_mul_counted (n : Nat) (l : Language Char) :
    1 + l * counted 0 (some n) l = counted 0 (some (n + 1)) l := by
  have hmul : l * counted 0 (some n) l = counted 1 (some (n + 1)) l := by
    have := pow_mul_counted 1 0 (some n) l
    rwa [pow_one, Option.map_some, Nat.add_comm 1 n] at this
  rw [hmul]
  ext w
  rw [Language.mem_add, Language.mem_one, mem_counted, mem_counted]
  constructor
  · rintro (rfl | ⟨k, -, hk, hw⟩)
    · exact ⟨0, le_refl _, by simp, rfl⟩
    · exact ⟨k, Nat.zero_le _, hk, hw⟩
  · rintro ⟨k, -, hk, hw⟩
    cases k with
    | zero => exact Or.inl hw
    | succ k => exact Or.inr ⟨k + 1, by omega, hk, hw⟩

theorem upTo (hp : Spells p l) (greedy : Bool) (n : Nat) :
    Spells (Simple.upTo greedy p n) (counted 0 (some n) l) := by
  induction n with
  | zero =>
    have h : counted 0 (some 0) l = 1 := by
      ext w
      rw [mem_counted, Language.mem_one]
      constructor
      · rintro ⟨k, -, hk, hw⟩
        obtain rfl : k = 0 := Nat.le_zero.mp (hk 0 rfl)
        exact hw
      · rintro rfl
        exact ⟨0, le_refl _, by simp, rfl⟩
    exact h ▸ empty
  | succ n ih => exact one_add_mul_counted n l ▸ (hp.seq ih).optional greedy

theorem repeated (hp : Spells p l) {lo : Nat} {hi : Option Nat} (hle : lo ≤ hi.getD lo)
    (greedy : Bool) : Spells (Simple.repeated lo hi greedy p) (counted lo hi l) := by
  cases hi with
  | some hi =>
    have h := hp.times (hp.upTo greedy (hi - lo)) lo
    have hsum : lo + (hi - lo) = hi := Nat.add_sub_cancel' hle
    rw [pow_mul_counted, Option.map_some, Nat.add_zero, hsum] at h
    cases lo <;> exact h
  | none =>
    cases lo with
    | zero => exact hp.anyTimes greedy
    | succ n => exact pow_mul_counted n 1 none l ▸ hp.times (hp.plus greedy) n

end Spells

end Simple

/-- The one-pass form of a repetition is made of that of its body. -/
theorem Regex.simple?_iterate_eq_some {lo : Nat} {hi : Option Nat} {greedy : Bool} {r : Regex}
    {p : Simple} (h : (Regex.iterate lo hi greedy r).simple? = some p) :
    ∃ q, r.simple? = some q ∧ lo ≤ hi.getD lo ∧ Simple.repeated lo hi greedy q = p := by
  obtain ⟨q, hq, h⟩ : ∃ q, r.simple? = some q ∧ (if hi.getD lo < lo then none
      else if 1 < hi.getD lo ∧ hi.getD lo * q.size > Simple.sizeLimit then none
      else some (Simple.repeated lo hi greedy q)) = some p := by
    simpa [simple?, Option.bind_eq_some_iff] using h
  split at h
  · exact absurd h (by simp)
  · split at h
    · exact absurd h (by simp)
    · exact ⟨q, hq, by omega, Option.some.inj h⟩

/-- The one-pass form of a plain pattern walks over its words. -/
theorem Regex.Plain.spells {r : Regex} (hr : r.Plain) {p : Simple} (h : r.simple? = some p) :
    p.Spells r.language := by
  induction r generalizing p with
  | empty =>
    obtain rfl : Simple.empty = p := by simpa [simple?] using h
    exact .empty
  | chars s =>
    obtain rfl : Simple.chars s = p := by simpa [simple?] using h
    exact .chars s
  | seq r₁ r₂ ih₁ ih₂ =>
    obtain ⟨p₁, h₁, p₂, h₂, rfl⟩ : ∃ p₁, r₁.simple? = some p₁ ∧ ∃ p₂, r₂.simple? = some p₂ ∧
        Simple.seq p₁ p₂ = p := by simpa [simple?, Option.bind_eq_some_iff] using h
    exact (ih₁ hr.1 h₁).seq (ih₂ hr.2 h₂)
  | alt r₁ r₂ ih₁ ih₂ =>
    obtain ⟨p₁, h₁, p₂, h₂, rfl⟩ : ∃ p₁, r₁.simple? = some p₁ ∧ ∃ p₂, r₂.simple? = some p₂ ∧
        Simple.alt p₁ p₂ = p := by simpa [simple?, Option.bind_eq_some_iff] using h
    exact (ih₁ hr.1 h₁).alt (ih₂ hr.2 h₂)
  | capture g r ih =>
    obtain ⟨q, hq, rfl⟩ : ∃ q, r.simple? = some q ∧ Simple.capture g q = p := by
      simpa [simple?, Option.bind_eq_some_iff] using h
    exact (ih hr hq).capture g
  | iterate lo hi greedy r ih =>
    obtain ⟨q, hq, hle, rfl⟩ := simple?_iterate_eq_some h
    exact (ih hr hq).repeated hle greedy
  | anchor | ahead | behind | atomic | backref | groupSet | choose | keepOut | searchStart =>
    exact hr.elim

end PatternLoom
