import PatternLoom.Proofs.Pattern.Scan
import PatternLoom.Proofs.Pattern.Ways

/-!
# The preferred walk

A scan for a pattern without loops finds the walk that is preferred to all others. Each thread stands
for a list of walks. A list of tasks that an expansion meets a second time can be dropped, because it
either leads nowhere or comes after a thread that leads somewhere.
-/

namespace PatternLoom.Simple

set_option autoImplicit false

variable {beyond : Option Char}

/-- The walks that a thread stands for. -/
def Thread.ways (beyond : Option Char) (s : Place) : Thread → List Place
  | .finished slots => [s.withSlots slots]
  | .reading r =>
    match s.ahead with
    | [] => []
    | c :: rest =>
      if r.members.contains c then
        Task.allWays beyond r.todo ((s.withSlots r.slots).step c rest)
      else []

def Thread.Loopless : Thread → Prop
  | .finished _ => True
  | .reading r => ∀ t ∈ r.todo, t.Loopless

/-- The place that the preferred one of some threads leads to. -/
def first (beyond : Option Char) (s : Place) (threads : List Thread) : Option Place :=
  (threads.flatMap (Thread.ways beyond s)).head?

theorem first_append (s : Place) (threads threads' : List Thread) :
    first beyond s (threads ++ threads') =
      (first beyond s threads).or (first beyond s threads') := by
  rw [first, List.flatMap_append, List.head?_append]
  rfl

theorem first_singleton (s : Place) (t : Thread) :
    first beyond s [t] = (t.ways beyond s).head? := by
  rw [first, List.flatMap_singleton]

theorem first_cons (s : Place) (t : Thread) (threads : List Thread) :
    first beyond s (t :: threads) = (t.ways beyond s).head?.or (first beyond s threads) := by
  rw [← first_singleton, ← first_append]
  rfl

/-- The place that the threads found so far lead to. -/
def Front.first (beyond : Option Char) (s : Place) (f : Front) : Option Place :=
  Simple.first beyond s f.threads.reverse

theorem Front.first_add (s : Place) (f : Front) (t : Thread) :
    (f.add t).first beyond s = (f.first beyond s).or (t.ways beyond s).head? := by
  rw [Front.first, Front.add, List.reverse_cons, first_append, first_singleton]
  rfl

/-- A list of tasks need not be expanded again: it leads nowhere, or some thread leads somewhere. -/
def Front.Covers (beyond : Option Char) (s : Place) (f : Front) (todo : List Task) : Prop :=
  (∃ u, Path beyond todo s u) → (f.first beyond s).isSome = true

/-- The lists met that are no longer than `weight` need not be expanded again. Longer ones may be in
the course of expansion. -/
def Front.Ready (beyond : Option Char) (s : Place) (f : Front) (weight : Nat) : Prop :=
  ∀ m ∈ f.met, todoWeight s.offset m ≤ weight → f.Covers beyond s m

/-- A front has become another by an expansion of tasks with some walks. -/
structure Front.Extends (beyond : Option Char) (s : Place) (f f' : Front) (walks : List Place) :
    Prop where
  first : f'.first beyond s = (f.first beyond s).or walks.head?
  met : ∀ m ∈ f'.met, m ∈ f.met ∨ f'.Covers beyond s m

theorem Front.Ready.mono {s : Place} {f : Front} {n n' : Nat} (h : f.Ready beyond s n)
    (hle : n' ≤ n) : f.Ready beyond s n' :=
  fun m hm hweight => h m hm (hweight.trans hle)

theorem Front.Extends.isSome_first {s : Place} {f f' : Front} {walks : List Place}
    (h : f.Extends beyond s f' walks) (hwalks : walks ≠ []) : (f'.first beyond s).isSome = true := by
  obtain ⟨u, rest, rfl⟩ := List.exists_cons_of_ne_nil hwalks
  rw [h.first, List.head?_cons, Option.isSome_or, Option.isSome_some, Bool.or_true]

theorem Front.Covers.mono {s : Place} {f f' : Front} {walks : List Place} {m : List Task}
    (h : f.Covers beyond s m) (hf : f.Extends beyond s f' walks) : f'.Covers beyond s m := by
  intro hm
  rw [hf.first, Option.isSome_or, h hm, Bool.true_or]

theorem Front.Extends.trans {s : Place} {f f' f'' : Front} {walks walks' : List Place}
    (h : f.Extends beyond s f' walks) (h' : f'.Extends beyond s f'' walks') :
    f.Extends beyond s f'' (walks ++ walks') where
  first := by rw [h'.first, h.first, List.head?_append, Option.or_assoc]
  met m hm := by
    rcases h'.met m hm with hm | hcovers
    · exact (h.met m hm).imp_right fun hcovers => hcovers.mono h'
    · exact Or.inr hcovers

theorem Front.Extends.same {s : Place} {f : Front} {walks : List Place}
    (h : walks ≠ [] → (f.first beyond s).isSome = true) : f.Extends beyond s f walks where
  first := by
    cases walks with
    | nil => rw [List.head?_nil, Option.or_none]
    | cons u walks =>
      obtain ⟨v, hv⟩ := Option.isSome_iff_exists.mp (h (List.cons_ne_nil u walks))
      rw [hv, Option.some_or]
  met m hm := Or.inl hm

theorem Front.Extends.add (s : Place) (f : Front) (t : Thread) :
    f.Extends beyond s (f.add t) (t.ways beyond s) :=
  ⟨Front.first_add s f t, fun _ hm => Or.inl hm⟩

theorem Task.Fork.loopless {here : Nat} {todo a b : List Task} (h : Task.Fork here todo a b)
    (htodo : ∀ t ∈ todo, t.Loopless) : (∀ t ∈ a, t.Loopless) ∧ ∀ t ∈ b, t.Loopless := by
  cases h with
  | alt =>
    obtain ⟨⟨hp, hq⟩, hrest⟩ := List.forall_mem_cons.mp htodo
    exact ⟨List.forall_mem_cons.mpr ⟨hp, hrest⟩, List.forall_mem_cons.mpr ⟨hq, hrest⟩⟩
  | once =>
    obtain ⟨hp, hrest⟩ := List.forall_mem_cons.mp htodo
    exact ⟨List.forall_mem_cons.mpr ⟨hp, hrest⟩, hrest⟩
  | without =>
    obtain ⟨hp, hrest⟩ := List.forall_mem_cons.mp htodo
    exact ⟨hrest, List.forall_mem_cons.mpr ⟨hp, hrest⟩⟩
  | more | enough => exact (htodo _ List.mem_cons_self).elim

theorem Task.Fork.todoWeight_lt {here : Nat} {todo a b : List Task} (h : Task.Fork here todo a b)
    (htodo : ∀ t ∈ todo, t.Loopless) :
    todoWeight here a < todoWeight here todo ∧ todoWeight here b < todoWeight here todo := by
  cases h with
  | alt | once | without =>
    simp only [todoWeight, Task.weight, Simple.weight]
    omega
  | more | enough => exact (htodo _ List.mem_cons_self).elim

theorem Task.Fork.allWays {s : Place} {here : Nat} {todo a b : List Task}
    (h : Task.Fork here todo a b) (htodo : ∀ t ∈ todo, t.Loopless) :
    Task.allWays beyond todo s = Task.allWays beyond a s ++ Task.allWays beyond b s := by
  cases h with
  | alt => simp only [Task.allWays, Task.ways, Simple.ways, List.flatMap_append]
  | once | without => simp [Task.allWays, Task.ways, Simple.ways]
  | more | enough => exact (htodo _ List.mem_cons_self).elim

theorem Front.Ready.extends {s : Place} {f f' : Front} {walks : List Place} {n : Nat}
    (h : f.Ready beyond s n) (hf : f.Extends beyond s f' walks) : f'.Ready beyond s n := by
  intro m hm hweight
  rcases hf.met m hm with hm | hcovers
  · exact (h m hm hweight).mono hf
  · exact hcovers

section

variable {s : Place} {todo : List Task} {f f' : Front}

/-- A list that is in the course of expansion is too long to be met by what it is expanded into. -/
theorem Front.Ready.meet (htodo : ∀ t ∈ todo, t.Loopless)
    (h : f.Ready beyond s (todoWeight s.offset todo)) {n : Nat} (hn : n < todoWeight s.offset todo) :
    (f.meet todo).Ready beyond s n := by
  intro m hm hweight
  rcases List.mem_cons.mp hm with rfl | hm
  -- the list itself weighs more than `n`
  · rw [Task.map_shape htodo] at hweight
    omega
  · exact h m hm (by omega)

/-- Once it has been expanded, a list need not be expanded again. -/
theorem Front.Extends.of_meet (htodo : ∀ t ∈ todo, t.Loopless) (slots : Slots)
    (h : (f.meet todo).Extends beyond s f' (Task.allWays beyond todo (s.withSlots slots))) :
    f.Extends beyond s f' (Task.allWays beyond todo (s.withSlots slots)) := by
  refine ⟨h.first, ?_⟩
  intro m hm
  rcases h.met m hm with hm | hcovers
  · rcases List.mem_cons.mp hm with rfl | hm
    · right
      rw [Task.map_shape htodo]
      intro hpath
      exact h.isSome_first ((Task.allWays_ne_nil_iff htodo slots).mpr hpath)
    · exact Or.inl hm
  · exact Or.inr hcovers

end

theorem Task.allWays_chars (s : Place) (m : CharClass) (rest : List Task) (slots : Slots) :
    Task.allWays beyond (.run (.chars m) :: rest) (s.withSlots slots) =
      (Thread.reading ⟨m, rest, slots⟩).ways beyond s := by
  have hahead : (s.withSlots slots).ahead = s.ahead := rfl
  rw [allWays, Task.ways, Simple.ways, Thread.ways, hahead]
  cases s.ahead with
  | nil => rfl
  | cons c t =>
    by_cases hc : m.contains c = true
    · simp only [if_pos hc, List.flatMap_singleton]
    · simp only [if_neg hc, List.flatMap_nil]

/-- An expansion leads where the front has led before or, failing that, where its tasks lead. -/
theorem Expands.preference {s : Place} {todo : List Task} {slots : Slots} {f f' : Front}
    (h : Expands (s.site beyond) s.offset todo slots f f') (htodo : ∀ t ∈ todo, t.Loopless)
    (hready : f.Ready beyond s (todoWeight s.offset todo)) :
    f.Extends beyond s f' (Task.allWays beyond todo (s.withSlots slots)) := by
  induction h with
  | @done slots f => exact .add s f (.finished slots)
  | @close g rest slots f f' _ ih =>
    rw [Task.allWays_close]
    apply ih (List.forall_mem_cons.mp htodo).2
    apply hready.mono
    simp only [todoWeight]
    omega
  | @empty rest slots f f' _ ih =>
    rw [Task.allWays_empty]
    apply ih (List.forall_mem_cons.mp htodo).2
    apply hready.mono
    simp only [todoWeight]
    omega
  | @chars m rest slots f =>
    rw [Task.allWays_chars]
    exact .add s f (.reading ⟨m, rest, slots⟩)
  | @anchor a rest slots f f' ha _ ih =>
    rw [Task.allWays_anchor ha]
    apply ih (List.forall_mem_cons.mp htodo).2
    apply hready.mono
    simp only [todoWeight]
    omega
  | blocked ha =>
    rw [Task.allWays_blocked ha]
    exact .same fun h => absurd rfl h
  | @seq p q rest slots f f' _ ih =>
    obtain ⟨⟨hp, hq⟩, hrest⟩ := List.forall_mem_cons.mp htodo
    rw [Task.allWays_seq]
    apply ih (List.forall_mem_cons.mpr ⟨hp, List.forall_mem_cons.mpr ⟨hq, hrest⟩⟩)
    apply hready.mono
    simp only [todoWeight, Task.weight, weight]
    omega
  | @capture g p rest slots f f' _ ih =>
    obtain ⟨hp, hrest⟩ := List.forall_mem_cons.mp htodo
    rw [Task.allWays_capture]
    apply ih (List.forall_mem_cons.mpr ⟨hp, List.forall_mem_cons.mpr ⟨trivial, hrest⟩⟩)
    apply hready.mono
    simp only [todoWeight, Task.weight, weight]
    omega
  | @met todo slots f h =>
    rw [Task.map_shape htodo] at h
    apply Front.Extends.same
    intro hways
    exact hready todo h (Nat.le_refl _) ((Task.allWays_ne_nil_iff htodo slots).mp hways)
  | @fork todo a b slots f f' f'' hfork _ _ iha ihb =>
    obtain ⟨ha, hb⟩ := hfork.loopless htodo
    obtain ⟨hlta, hltb⟩ := hfork.todoWeight_lt htodo
    have hways : Task.allWays beyond todo (s.withSlots slots) =
        Task.allWays beyond a (s.withSlots slots) ++ Task.allWays beyond b (s.withSlots slots) :=
      hfork.allWays htodo
    have hextends := iha ha (hready.meet htodo hlta)
    have hready' : f'.Ready beyond s (todoWeight s.offset b) :=
      (hready.meet htodo hltb).extends hextends
    have hboth := hextends.trans (ihb hb hready')
    rw [← hways] at hboth
    exact hboth.of_meet htodo slots
  | plus | star | idle => exact (htodo _ List.mem_cons_self).elim

theorem Expands.loopless {site : Site} {here : Nat} {todo : List Task} {slots : Slots}
    {f f' : Front} (h : Expands site here todo slots f f') (htodo : ∀ t ∈ todo, t.Loopless)
    (hf : ∀ t ∈ f.threads, t.Loopless) : ∀ t ∈ f'.threads, t.Loopless := by
  induction h with
  | done => exact List.forall_mem_cons.mpr ⟨trivial, hf⟩
  | chars => exact List.forall_mem_cons.mpr ⟨(List.forall_mem_cons.mp htodo).2, hf⟩
  | blocked | met => exact hf
  | close _ ih | empty _ ih | anchor _ _ ih => exact ih (List.forall_mem_cons.mp htodo).2 hf
  | seq _ ih =>
    obtain ⟨⟨hp, hq⟩, hrest⟩ := List.forall_mem_cons.mp htodo
    exact ih (List.forall_mem_cons.mpr ⟨hp, List.forall_mem_cons.mpr ⟨hq, hrest⟩⟩) hf
  | capture _ ih =>
    obtain ⟨hp, hrest⟩ := List.forall_mem_cons.mp htodo
    exact ih (List.forall_mem_cons.mpr ⟨hp, List.forall_mem_cons.mpr ⟨trivial, hrest⟩⟩) hf
  | fork hfork _ _ iha ihb =>
    obtain ⟨ha, hb⟩ := hfork.loopless htodo
    exact ihb hb (iha ha hf)
  | plus | star | idle => exact (htodo _ List.mem_cons_self).elim

/-- The readers of a character lead, in their order, where the threads lead that they become. -/
theorem first_foldl_expandNext {s : Place} {c : Char} {rest : Text} (hs : s.ahead = c :: rest)
    (reading : List Reading) (hreading : ∀ r ∈ reading, ∀ t ∈ r.todo, t.Loopless) (f : Front)
    (hmet : ∀ m ∈ f.met, f.Covers beyond (s.step c rest) m) :
    (reading.foldl (expandNext ((s.step c rest).site beyond) (s.offset + 1) c) f).first beyond
        (s.step c rest) =
      (f.first beyond (s.step c rest)).or (first beyond s (reading.map .reading)) := by
  induction reading generalizing f with
  | nil => exact (Option.or_none).symm
  | cons r reading ih =>
    obtain ⟨hr, hreading⟩ := List.forall_mem_cons.mp hreading
    have hways : (Thread.reading r).ways beyond s = if r.members.contains c then
        Task.allWays beyond r.todo ((s.step c rest).withSlots r.slots) else [] := by
      simp only [Thread.ways, hs]
      rfl
    rw [List.foldl_cons, List.map_cons, first_cons, hways]
    by_cases hc : r.members.contains c = true
    · have hexpands := expands ((s.step c rest).site beyond) (s.offset + 1) r.todo r.slots f
      have hextends := hexpands.preference hr fun m hm _ => hmet m hm
      rw [expandNext, if_pos hc, if_pos hc, ← Option.or_assoc, ← hextends.first]
      apply ih hreading
      intro m hm
      rcases hextends.met m hm with hm | hcovers
      · exact (hmet m hm).mono hextends
      · exact hcovers
    · rw [expandNext, if_neg hc, if_neg hc, List.head?_nil, Option.none_or]
      exact ih hreading f hmet

theorem first_advance {s : Place} {c : Char} {rest : Text} (hs : s.ahead = c :: rest)
    {reading : List Reading} (hreading : ∀ r ∈ reading, ∀ t ∈ r.todo, t.Loopless) :
    first beyond (s.step c rest) (advance ((s.step c rest).site beyond) (s.offset + 1) c reading) =
      first beyond s (reading.map .reading) :=
  (first_foldl_expandNext hs reading hreading {} (List.forall_mem_nil _)).trans (Option.none_or)

theorem loopless_foldl_expandNext {site : Site} {here : Nat} {c : Char} (reading : List Reading)
    (hreading : ∀ r ∈ reading, ∀ t ∈ r.todo, t.Loopless) (f : Front)
    (hf : ∀ t ∈ f.threads, t.Loopless) :
    ∀ t ∈ (reading.foldl (expandNext site here c) f).threads, t.Loopless := by
  induction reading generalizing f with
  | nil => exact hf
  | cons r reading ih =>
    obtain ⟨hr, hreading⟩ := List.forall_mem_cons.mp hreading
    apply ih hreading
    by_cases hc : r.members.contains c = true
    · rw [expandNext, if_pos hc]
      exact (expands _ _ _ _ _).loopless hr hf
    · rw [expandNext, if_neg hc]
      exact hf

/-- Behind the first finished thread no thread matters. -/
theorem first_cut (s : Place) (threads : List Thread) :
    first beyond s threads = (first beyond s ((cut threads).1.map .reading)).or
      ((cut threads).2.map s.withSlots) := by
  induction threads with
  | nil => rfl
  | cons t threads ih =>
    cases t with
    | finished slots =>
      rw [first_cons, cut]
      rfl
    | reading r =>
      rw [first_cons, ih, cut, List.map_cons, first_cons, Option.or_assoc]

def Place.hit (u : Place) : Hit := ⟨u.offset, u.slots⟩

theorem Place.map_hit_withSlots (s : Place) (o : Option Slots) :
    (o.map s.withSlots).map Place.hit = o.map fun slots => ⟨s.offset, slots⟩ := by
  rw [Option.map_map]
  rfl

theorem first_reading_of_nil {s : Place} (hs : s.ahead = []) (reading : List Reading) :
    first beyond s (reading.map .reading) = none := by
  have hways : (reading.map Thread.reading).flatMap (Thread.ways beyond s) = [] := by
    apply List.flatMap_eq_nil_iff.mpr
    intro t ht
    obtain ⟨r, -, rfl⟩ := List.mem_map.mp ht
    rw [Thread.ways, hs]
  rw [first, hways, List.head?_nil]

/-- A run finds where the preferred thread leads. -/
theorem run_eq_first {s : Place} {threads : List Thread} {best : Option Hit}
    (hthreads : ∀ t ∈ threads, t.Loopless) :
    run beyond s.offset threads best s.ahead = ((first beyond s threads).map Place.hit).or best := by
  obtain ⟨text, htext⟩ : ∃ text, s.ahead = text := ⟨_, rfl⟩
  induction text generalizing s threads best with
  | nil =>
    rw [htext, run, first_cut, first_reading_of_nil htext, Option.none_or, Place.map_hit_withSlots]
  | cons c rest ih =>
    have hreading : ∀ r ∈ (cut threads).1, ∀ t ∈ r.todo, t.Loopless :=
      fun r hr => hthreads _ (mem_of_mem_cut hr)
    rw [htext, run_cons, first_cut, Option.map_or, Place.map_hit_withSlots, Option.or_assoc]
    split
    · rename_i hempty
      rw [List.isEmpty_iff.mp hempty]
      rfl
    · rw [← first_advance htext hreading]
      apply ih (s := s.step c rest) _ rfl
      intro t ht
      exact loopless_foldl_expandNext _ hreading {} (List.forall_mem_nil _) t
        (List.mem_reverse.mp ht)

/-- A scan for a pattern without loops finds where the preferred of its walks leads. -/
theorem matchAt?_eq_head? {p : Simple} (hp : p.Loopless) (s : Place) :
    p.matchAt? s.before s.offset s.slots s.ahead beyond =
      (p.ways beyond s).head?.map Place.hit := by
  have htodo : ∀ t ∈ [Task.run p], t.Loopless := List.forall_mem_singleton.mpr hp
  have hexpands := expands (s.site beyond) s.offset [.run p] s.slots {}
  have hthreads := hexpands.loopless htodo (List.forall_mem_nil _)
  have hfirst := (hexpands.preference htodo fun m hm => absurd hm List.not_mem_nil).first
  have hways : Task.allWays beyond [.run p] s = p.ways beyond s := List.flatMap_singleton' _
  rw [matchAt?, ← hways]
  refine (run_eq_first fun t ht => hthreads t (List.mem_reverse.mp ht)).trans ?_
  rw [Option.or_none]
  exact congrArg (Option.map Place.hit) (hfirst.trans Option.none_or)

end PatternLoom.Simple
