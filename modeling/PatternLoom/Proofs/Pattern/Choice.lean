import PatternLoom.Proofs.Pattern.Literal
import PatternLoom.Proofs.Pattern.Preference
import PatternLoom.Proofs.Pattern.SuccessiveSearch

/-!
# Ordered choice

A choice between texts prefers the first text in its list that stands at a place, even where a later
one is longer. The program of such a choice in a capture group takes these texts one after the other.
-/

namespace PatternLoom

set_option autoImplicit false

open Reader (literals choice)

namespace Simple

/-- What a pattern without loops takes at a place depends on the text ahead. It sets no boundaries. -/
structure Prefers (p : Simple) (choose : Text → Option Text) : Prop where
  loopless : p.Loopless
  head : ∀ s : Place, (p.ways none s).head?.map Place.hit =
    (choose s.ahead).map fun w => ⟨s.offset + w.length, s.slots⟩

theorem Prefers.literal {p : Simple} {t : Text} (hp : p.Spells {t}) (hl : p.Loopless)
    (hc : p.captures = []) : p.Prefers fun ahead => if t <+: ahead then some t else none where
  loopless := hl
  head s := by
    by_cases ht : t <+: s.ahead
    · obtain ⟨rest, hrest⟩ := ht
      obtain ⟨v, hv, -⟩ := hp.complete none rfl hrest.symm
      obtain ⟨u, us, hus⟩ := List.exists_cons_of_ne_nil
        (List.ne_nil_of_mem ((mem_ways_iff hl).mpr hv))
      have hu : Walk none p s u := (mem_ways_iff hl).mp (hus ▸ List.mem_cons_self)
      obtain ⟨w, hw, -, hoffset⟩ := hp.sound hu
      rw [hus, if_pos ⟨rest, hrest⟩, List.head?_cons, Option.map_some, Option.map_some, Place.hit,
        hoffset, hu.slots_eq hc, Set.mem_singleton_iff.mp hw]
    · have hnil : p.ways none s = [] := by
        apply List.eq_nil_iff_forall_not_mem.mpr
        intro u hu
        obtain ⟨w, rfl, hs, -⟩ := hp.sound ((mem_ways_iff hl).mp hu)
        exact ht ⟨u.ahead, hs.symm⟩
      rw [hnil, if_neg ht]
      rfl

theorem Prefers.alt {p q : Simple} {choose choose' : Text → Option Text} (hp : p.Prefers choose)
    (hq : q.Prefers choose') : (Simple.alt p q).Prefers fun ahead =>
      (choose ahead).or (choose' ahead) where
  loopless := ⟨hp.loopless, hq.loopless⟩
  head s := by
    rw [ways, List.head?_append, Option.map_or, Option.map_or, hp.head, hq.head]

theorem loopless_literals {t : Text} {p : Simple} (hp : (literals t).simple? = some p) :
    p.Loopless := by
  have hall : ∀ q, (literals t).simple? = some q → q.Loopless := by
    apply Regex.ofElements_induction (P := fun r => ∀ q, r.simple? = some q → q.Loopless)
    · intro q hq
      obtain rfl := Option.some.inj hq
      trivial
    · intro r₁ r₂ ih₁ ih₂ q hq
      simp only [Regex.simple?, Option.bind_eq_bind, Option.bind_eq_some_iff] at hq
      obtain ⟨q₁, h₁, q₂, h₂, hq⟩ := hq
      cases hq
      exact ⟨ih₁ q₁ h₁, ih₂ q₂ h₂⟩
    · intro r hr q hq
      obtain ⟨c, -, rfl⟩ := List.mem_map.mp hr
      obtain rfl := Option.some.inj hq
      trivial
  exact hall p hp

def Hit.close (g : Nat) (h : Hit) : Hit := ⟨h.stop, h.slots.closeAt g h.stop⟩

theorem head?_ways_capture (g : Nat) (p : Simple) (s : Place) :
    ((Simple.capture g p).ways none s).head?.map Place.hit =
      ((p.ways none (s.withSlots (s.slots.openAt g s.offset))).head?.map Place.hit).map
        (Hit.close g) := by
  rw [ways, List.head?_map, Option.map_map, Option.map_map]
  rfl

theorem prefers_literals {t : Text} {p : Simple} (hp : (literals t).simple? = some p) :
    p.Prefers fun ahead => if t <+: ahead then some t else none := by
  have hdenotes := Regex.denotes_literals t
  exact .literal (hdenotes.spells hp) (loopless_literals hp) (hdenotes.captures_eq_nil hp)

/-- A choice between texts takes the first of them that stands at a place. -/
theorem prefers_choice {first : Text} {others : List Text} {p : Simple}
    (hp : (choice first others).simple? = some p) :
    p.Prefers fun ahead => (first :: others).find? fun w => w <+: ahead := by
  have hchoose (t : Text) (rest : List Text) (ahead : Text) :
      ((t :: rest).find? fun w => w <+: ahead) =
        (if t <+: ahead then some t else none).or (rest.find? fun w => w <+: ahead) := by
    by_cases ht : t <+: ahead
    · simp [ht]
    · simp [ht]
  induction others generalizing first p with
  | nil =>
    have hliteral := prefers_literals hp
    refine ⟨hliteral.loopless, ?_⟩
    intro s
    rw [hliteral.head, hchoose, List.find?_nil, Option.or_none]
  | cons second others ih =>
    obtain ⟨p₁, h₁, p₂, h₂, rfl⟩ : ∃ p₁, (literals first).simple? = some p₁ ∧
        ∃ p₂, (choice second others).simple? = some p₂ ∧ Simple.alt p₁ p₂ = p := by
      simpa [choice, Regex.ofAlternatives, Regex.simple?, Option.bind_eq_some_iff] using hp
    have halt := (prefers_literals h₁).alt (ih h₂)
    refine ⟨halt.loopless, ?_⟩
    intro s
    rw [halt.head, hchoose first]

end Simple

namespace Program

/-- What the program of a captured choice finds: the whole match and, with the same span, group one. -/
def foundTwice (x : Nat × Text) : Found :=
  [some x.1, some (x.1 + x.2.length), some x.1, some (x.1 + x.2.length)]

theorem seeks_choice {g : Program} {first : Text} {others : List Text} {p : Simple}
    (hwords : ∀ w ∈ first :: others, w ≠ []) (hgroups : g.groups = 1)
    (hp : (choice first others).simple? = some p)
    (hm : g.matcher = .onePass (.capture 0 (.capture 1 p))) (limit : Nat) (s : Text) :
    g.Seeks limit none s (fun q => (first :: others).find? fun w => w <+: s.drop q) foundTwice := by
  have hprefers := Simple.prefers_choice hp
  apply seeks_of_onePass hm
  · intro c hs
    have hahead : c.ahead = s.drop c.offset := hs ▸ c.drop_text.symm
    have hloopless : (Simple.capture 0 (.capture 1 p)).Loopless := hprefers.loopless
    have hmatch := @Simple.matchAt?_eq_head? none _ hloopless
      ⟨c.behind.head?, c.ahead, c.offset, Slots.unset g.groups⟩
    refine (congrArg (Option.map Simple.Hit.slots) hmatch).trans ?_
    rw [Simple.head?_ways_capture, Simple.head?_ways_capture, hprefers.head, hgroups]
    simp only [Option.map_map, ← hahead]
    rfl
  · intro q w
    rfl
  · intro q w hw
    have hne := hwords w (List.mem_of_find?_eq_some hw)
    have hfront : w <+: s.drop q := by simpa using List.find?_some hw
    exact ⟨hne, Text.add_length_le_of_prefix_drop hne hfront⟩

end Program

end PatternLoom
