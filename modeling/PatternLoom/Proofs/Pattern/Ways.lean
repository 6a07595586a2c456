import PatternLoom.Proofs.Pattern.Path

/-!
# Walks in order of preference

The walks through a pattern without loops, listed in the order in which a search prefers them: those of
the first alternative come before those of the second, and greed tells whether an optional part comes
before its absence. The ways of a list of tasks split up like those of a sequence.
-/

namespace PatternLoom.Simple

set_option autoImplicit false

variable {beyond : Option Char}

/-- Nothing in the pattern is repeated. -/
def Loopless : Simple → Prop
  | .empty | .chars _ | .anchor _ => True
  | .seq p q | .alt p q => p.Loopless ∧ q.Loopless
  | .capture _ p | .optional _ p => p.Loopless
  | .plus .. | .star .. => False

/-- Where a pattern without loops leads, the preferred way first. -/
def ways (beyond : Option Char) : Simple → Place → List Place
  | .empty, s => [s]
  | .chars m, s =>
    match s.ahead with
    | [] => []
    | c :: rest => if m.contains c then [s.step c rest] else []
  | .anchor a, s => if a.holds (s.site beyond) then [s] else []
  | .seq p q, s => (p.ways beyond s).flatMap (q.ways beyond)
  | .alt p q, s => p.ways beyond s ++ q.ways beyond s
  | .capture g p, s =>
    (p.ways beyond (s.withSlots (s.slots.openAt g s.offset))).map fun u =>
      u.withSlots (u.slots.closeAt g u.offset)
  | .optional greedy p, s => if greedy then p.ways beyond s ++ [s] else s :: p.ways beyond s
  | .plus .., _ | .star .., _ => []

def Task.Loopless : Task → Prop
  | .run p => p.Loopless
  | .close _ => True
  | .again .. => False

def Task.ways (beyond : Option Char) : Task → Place → List Place
  | .run p, s => p.ways beyond s
  | .close g, s => [s.withSlots (s.slots.closeAt g s.offset)]
  | .again .., _ => []

/-- Where a list of tasks leads, one task after the other. -/
def Task.allWays (beyond : Option Char) : List Task → Place → List Place
  | [], s => [s]
  | task :: rest, s => (task.ways beyond s).flatMap (Task.allWays beyond rest)

theorem mem_ways_iff {p : Simple} (hp : p.Loopless) {s u : Place} :
    u ∈ p.ways beyond s ↔ Walk beyond p s u := by
  induction p generalizing s u with
  | empty =>
    rw [ways, List.mem_singleton]
    constructor
    · rintro rfl
      exact .empty
    · intro h
      cases h
      rfl
  | chars m =>
    rw [ways]
    constructor
    · intro h
      split at h
      · cases h
      · rename_i c rest hs
        split at h
        · rename_i hc
          obtain rfl := List.mem_singleton.mp h
          exact .chars hs hc
        · cases h
    · intro h
      cases h with
      | chars hs hc => simp [hs, hc]
  | anchor a =>
    rw [ways]
    constructor
    · intro h
      split at h
      · rename_i ha
        obtain rfl := List.mem_singleton.mp h
        exact .anchor ha
      · cases h
    · intro h
      cases h with
      | anchor ha => simp [ha]
  | seq p q ihp ihq =>
    rw [ways, List.mem_flatMap]
    constructor
    · rintro ⟨t, ht, hu⟩
      exact .seq ((ihp hp.1).mp ht) ((ihq hp.2).mp hu)
    · intro h
      cases h with
      | seq ht hu => exact ⟨_, (ihp hp.1).mpr ht, (ihq hp.2).mpr hu⟩
  | alt p q ihp ihq =>
    rw [ways, List.mem_append, ihp hp.1, ihq hp.2]
    constructor
    · rintro (h | h)
      · exact .left h
      · exact .right h
    · intro h
      cases h with
      | left h => exact Or.inl h
      | right h => exact Or.inr h
  | capture g p ih =>
    rw [ways, List.mem_map]
    constructor
    · rintro ⟨t, ht, rfl⟩
      exact .capture ((ih hp).mp ht)
    · intro h
      cases h with
      | capture h => exact ⟨_, (ih hp).mpr h, rfl⟩
  | optional greedy p ih =>
    have hmem : u ∈ (Simple.optional greedy p).ways beyond s ↔ u ∈ p.ways beyond s ∨ u = s := by
      rw [ways]
      cases greedy <;> simp [or_comm]
    rw [hmem, ih hp]
    constructor
    · rintro (h | rfl)
      · exact .once h
      · exact .without
    · intro h
      cases h with
      | without => exact Or.inr rfl
      | once h => exact Or.inl h
  | plus | star => exact hp.elim

theorem Task.mem_allWays_iff {todo : List Task} (htodo : ∀ t ∈ todo, t.Loopless) {s u : Place} :
    u ∈ Task.allWays beyond todo s ↔ Path beyond todo s u := by
  rw [path_iff_walks]
  induction todo generalizing s with
  | nil => exact List.mem_singleton.trans eq_comm
  | cons task rest ih =>
    have htask : ∀ t, t ∈ task.ways beyond s ↔ task.Walk beyond s t := by
      intro t
      have hloopless := htodo task List.mem_cons_self
      cases task with
      | run p => exact mem_ways_iff hloopless
      | close g => exact List.mem_singleton
      | again => exact hloopless.elim
    rw [Task.allWays, List.mem_flatMap]
    simp only [htask, ih fun t ht => htodo t (List.mem_cons_of_mem _ ht), Task.Walks]

theorem Task.map_shape {todo : List Task} (htodo : ∀ t ∈ todo, t.Loopless) :
    todo.map Task.shape = todo := by
  induction todo with
  | nil => rfl
  | cons task rest ih =>
    have htask := htodo task List.mem_cons_self
    rw [List.map_cons, ih fun t ht => htodo t (List.mem_cons_of_mem _ ht)]
    cases task with
    | run p => rfl
    | close g => rfl
    | again => exact htask.elim

theorem Task.allWays_ne_nil_iff {todo : List Task} (htodo : ∀ t ∈ todo, t.Loopless) {s : Place}
    (slots : Slots) :
    Task.allWays beyond todo (s.withSlots slots) ≠ [] ↔ ∃ u, Path beyond todo s u := by
  constructor
  · intro hne
    obtain ⟨u, hu⟩ := List.exists_mem_of_ne_nil _ hne
    exact ((Task.mem_allWays_iff htodo).mp hu).of_shape rfl s.slots
  · rintro ⟨u, hu⟩
    obtain ⟨u', hu'⟩ := hu.of_shape rfl slots
    exact List.ne_nil_of_mem ((Task.mem_allWays_iff htodo).mpr hu')

section

variable {s : Place} {rest : List Task}

theorem Task.allWays_close (g : Nat) : Task.allWays beyond (.close g :: rest) s =
    Task.allWays beyond rest (s.withSlots (s.slots.closeAt g s.offset)) := by
  rw [allWays, Task.ways, List.flatMap_singleton]

theorem Task.allWays_empty :
    Task.allWays beyond (.run .empty :: rest) s = Task.allWays beyond rest s := by
  rw [allWays, Task.ways, Simple.ways, List.flatMap_singleton]

theorem Task.allWays_seq (p q : Simple) : Task.allWays beyond (.run (.seq p q) :: rest) s =
    Task.allWays beyond (.run p :: .run q :: rest) s := by
  rw [allWays, Task.ways, Simple.ways, List.flatMap_assoc]
  rfl

theorem Task.allWays_capture (g : Nat) (p : Simple) :
    Task.allWays beyond (.run (.capture g p) :: rest) s =
      Task.allWays beyond (.run p :: .close g :: rest)
        (s.withSlots (s.slots.openAt g s.offset)) := by
  rw [allWays, Task.ways, Simple.ways, List.flatMap_map, allWays, Task.ways]
  congr 1
  funext u
  exact (allWays_close g).symm

theorem Task.allWays_anchor {a : Anchor} (ha : a.holds (s.site beyond) = true)
    (slots : Slots) : Task.allWays beyond (.run (.anchor a) :: rest) (s.withSlots slots) =
      Task.allWays beyond rest (s.withSlots slots) := by
  have hsite : (s.withSlots slots).site beyond = s.site beyond := rfl
  rw [allWays, Task.ways, Simple.ways, hsite, if_pos ha, List.flatMap_singleton]

theorem Task.allWays_blocked {a : Anchor} (ha : ¬a.holds (s.site beyond) = true)
    (slots : Slots) : Task.allWays beyond (.run (.anchor a) :: rest) (s.withSlots slots) = [] := by
  have hsite : (s.withSlots slots).site beyond = s.site beyond := rfl
  rw [allWays, Task.ways, Simple.ways, hsite, if_neg ha, List.flatMap_nil]

end

end PatternLoom.Simple
