import Mathlib.Data.Set.Insert
import PatternLoom.Proofs.Pattern.Path

/-!
# Expanding threads

An expansion finds threads that stand for paths, and enough of them: whatever path the expanded tasks
have, some thread has a path too. For this the lists of tasks met so far are taken together with those
passed on the way. Once an expansion is over, each of them is settled, which means that what follows it
belongs to the same set or is a thread. The recursion is first recast as a relation in which both
orders of preference are one rule.
-/

namespace PatternLoom.Simple

set_option autoImplicit false

/-- A list of tasks has two ways to go on, in some order of preference. -/
inductive Task.Fork (here : Nat) : List Task → List Task → List Task → Prop where
  | alt {p q : Simple} {rest : List Task} :
      Fork here (.run (.alt p q) :: rest) (.run p :: rest) (.run q :: rest)
  | once {p : Simple} {rest : List Task} :
      Fork here (.run (.optional true p) :: rest) (.run p :: rest) rest
  | without {p : Simple} {rest : List Task} :
      Fork here (.run (.optional false p) :: rest) rest (.run p :: rest)
  | more {since : Option Nat} {p : Simple} {rest : List Task} :
      Fork here (.again since true p :: rest) (.run p :: .again (some here) true p :: rest) rest
  | enough {since : Option Nat} {p : Simple} {rest : List Task} :
      Fork here (.again since false p :: rest) rest (.run p :: .again (some here) false p :: rest)

/-- The steps of an expansion. -/
inductive Expands (site : Site) (here : Nat) : List Task → Slots → Front → Front → Prop where
  | done {slots : Slots} {f : Front} : Expands site here [] slots f (f.add (.finished slots))
  | close {g : Nat} {rest : List Task} {slots : Slots} {f f' : Front}
      (h : Expands site here rest (slots.closeAt g here) f f') :
      Expands site here (.close g :: rest) slots f f'
  | empty {rest : List Task} {slots : Slots} {f f' : Front} (h : Expands site here rest slots f f') :
      Expands site here (.run .empty :: rest) slots f f'
  | chars {m : CharClass} {rest : List Task} {slots : Slots} {f : Front} :
      Expands site here (.run (.chars m) :: rest) slots f (f.add (.reading ⟨m, rest, slots⟩))
  | anchor {a : Anchor} {rest : List Task} {slots : Slots} {f f' : Front} (ha : a.holds site = true)
      (h : Expands site here rest slots f f') :
      Expands site here (.run (.anchor a) :: rest) slots f f'
  | blocked {a : Anchor} {rest : List Task} {slots : Slots} {f : Front} (ha : ¬a.holds site = true) :
      Expands site here (.run (.anchor a) :: rest) slots f f
  | seq {p q : Simple} {rest : List Task} {slots : Slots} {f f' : Front}
      (h : Expands site here (.run p :: .run q :: rest) slots f f') :
      Expands site here (.run (.seq p q) :: rest) slots f f'
  | capture {g : Nat} {p : Simple} {rest : List Task} {slots : Slots} {f f' : Front}
      (h : Expands site here (.run p :: .close g :: rest) (slots.openAt g here) f f') :
      Expands site here (.run (.capture g p) :: rest) slots f f'
  | plus {greedy : Bool} {p : Simple} {rest : List Task} {slots : Slots} {f f' : Front}
      (h : Expands site here (.run p :: .again (some here) greedy p :: rest) slots f f') :
      Expands site here (.run (.plus greedy p) :: rest) slots f f'
  | star {greedy : Bool} {p : Simple} {rest : List Task} {slots : Slots} {f f' : Front}
      (h : Expands site here (.again none greedy p :: rest) slots f f') :
      Expands site here (.run (.star greedy p) :: rest) slots f f'
  | met {todo : List Task} {slots : Slots} {f : Front} (h : todo.map Task.shape ∈ f.met) :
      Expands site here todo slots f f
  /-- The iteration under way has consumed nothing. -/
  | idle {greedy : Bool} {p : Simple} {rest : List Task} {slots : Slots} {f f' : Front}
      (h : Expands site here rest slots (f.meet (.again (some here) greedy p :: rest)) f') :
      Expands site here (.again (some here) greedy p :: rest) slots f f'
  | fork {todo a b : List Task} {slots : Slots} {f f' f'' : Front} (hfork : Task.Fork here todo a b)
      (ha : Expands site here a slots (f.meet todo) f') (hb : Expands site here b slots f' f'') :
      Expands site here todo slots f f''

theorem Front.mem_met {f : Front} {todo : List Task} (h : f.hasMet todo = true) :
    todo.map Task.shape ∈ f.met := by
  simpa [hasMet] using h

theorem expands (site : Site) (here : Nat) (todo : List Task) (slots : Slots) (f : Front) :
    Expands site here todo slots f (expand site here todo slots f) := by
  fun_induction expand site here todo slots f with
  | case1 => exact .done
  | case2 _ _ _ _ ih => exact .close ih
  | case3 _ _ _ ih => exact .empty ih
  | case4 => exact .chars
  | case5 _ _ _ _ ha ih => exact .anchor ha ih
  | case6 _ _ _ _ ha => exact .blocked ha
  | case7 _ _ _ _ _ ih => exact .seq ih
  | case8 _ _ _ _ _ ih => exact .capture ih
  | case9 _ _ _ _ _ h => rw [if_pos h]; exact .met (Front.mem_met h)
  | case10 _ _ _ _ _ h ihp ihq => rw [if_neg h]; exact .fork .alt ihp ihq
  | case11 _ _ _ _ _ h => rw [if_pos h]; exact .met (Front.mem_met h)
  | case12 _ _ _ _ h iha ihb => rw [if_neg h, if_pos rfl]; exact .fork .once iha ihb
  | case13 _ _ _ _ _ hg h iha ihb =>
    obtain rfl := Bool.eq_false_iff.mpr hg
    rw [if_neg h, if_neg hg]
    exact .fork .without iha ihb
  | case14 _ _ _ _ _ ih => exact .plus ih
  | case15 _ _ _ _ _ ih => exact .star ih
  | case16 _ _ _ _ _ _ h => rw [if_pos h]; exact .met (Front.mem_met h)
  | case17 _ _ _ _ _ h ih => rw [if_neg h, if_pos rfl]; exact .idle ih
  | case18 _ _ _ _ _ hs _ h _ iha ihb =>
    rw [if_neg h, if_neg hs]
    exact .fork .more iha ihb
  | case19 _ _ _ _ _ _ hs _ hg h iha ihb =>
    obtain rfl := Bool.eq_false_iff.mpr hg
    rw [if_neg h, if_neg hs, if_neg hg]
    exact .fork .enough iha ihb

variable {beyond : Option Char}

/-- A thread that has been found at a place leads from there to another place. -/
def Thread.Reaches (beyond : Option Char) (s : Place) : Thread → Place → Prop
  | .finished slots, u => u = s.withSlots slots
  | .reading r, u => ∃ c rest, s.ahead = c :: rest ∧ r.members.contains c = true ∧
      Path beyond r.todo ((s.withSlots r.slots).step c rest) u

theorem Task.Fork.path {here : Nat} {todo a b : List Task} (h : Task.Fork here todo a b)
    {s u : Place} (hpath : Path beyond a s u ∨ Path beyond b s u) : Path beyond todo s u := by
  cases h with
  | alt => exact hpath.elim .left .right
  | once => exact hpath.elim .once .without
  | without => exact hpath.elim .without .once
  | more => exact hpath.elim .more .enough
  | enough => exact hpath.elim .enough .more

/-- A thread that an expansion finds stands for paths of the expanded tasks. -/
theorem Expands.sound {s : Place} {todo : List Task} {slots : Slots} {f f' : Front}
    (h : Expands (s.site beyond) s.offset todo slots f f') {t : Thread} (ht : t ∈ f'.threads) :
    t ∈ f.threads ∨ ∀ u, t.Reaches beyond s u → Path beyond todo (s.withSlots slots) u := by
  induction h with
  | done =>
    rcases List.mem_cons.mp ht with rfl | ht
    · exact Or.inr fun u hu => hu ▸ .done
    · exact Or.inl ht
  | chars =>
    rcases List.mem_cons.mp ht with rfl | ht
    · exact Or.inr fun u ⟨c, rest, hs, hc, hpath⟩ => .chars hs hc hpath
    · exact Or.inl ht
  | close _ ih => exact (ih ht).imp_right fun hr u hu => .close (hr u hu)
  | empty _ ih => exact (ih ht).imp_right fun hr u hu => .empty (hr u hu)
  | anchor ha _ ih => exact (ih ht).imp_right fun hr u hu => .anchor ha (hr u hu)
  | blocked _ => exact Or.inl ht
  | seq _ ih => exact (ih ht).imp_right fun hr u hu => .seq (hr u hu)
  | capture _ ih => exact (ih ht).imp_right fun hr u hu => .capture (hr u hu)
  | plus _ ih => exact (ih ht).imp_right fun hr u hu => .plus _ (hr u hu)
  | star _ ih => exact (ih ht).imp_right fun hr u hu => .star _ (hr u hu)
  | met _ => exact Or.inl ht
  | idle _ ih => exact (ih ht).imp_right fun hr u hu => .enough (hr u hu)
  | fork hfork _ _ iha ihb =>
    rcases ihb ht with ht | hb
    · exact (iha ht).imp_right fun hr u hu => hfork.path (Or.inl (hr u hu))
    · exact Or.inr fun u hu => hfork.path (Or.inr (hb u hu))

theorem Expands.threads_subset {site : Site} {here : Nat} {todo : List Task} {slots : Slots}
    {f f' : Front} (h : Expands site here todo slots f f') : f.threads ⊆ f'.threads := by
  induction h with
  | done | chars => exact List.subset_cons_self ..
  | blocked | met => exact List.Subset.refl _
  | fork _ _ _ iha ihb => exact List.Subset.trans iha ihb
  | close _ ih | empty _ ih | anchor _ _ ih | seq _ ih | capture _ ih | plus _ ih | star _ ih
  | idle _ ih => exact ih

/-- What can follow a list of tasks is in a set or is a thread. -/
def Settled (site : Site) (threads : List Thread) (lists : Set (List Task)) : List Task → Prop
  | [] => ∃ slots, .finished slots ∈ threads
  | .close _ :: rest => rest ∈ lists
  | .run .empty :: rest => rest ∈ lists
  | .run (.chars m) :: rest =>
    ∃ todo slots, .reading ⟨m, todo, slots⟩ ∈ threads ∧ todo.map Task.shape = rest
  | .run (.anchor a) :: rest => a.holds site = true → rest ∈ lists
  | .run (.seq p q) :: rest => .run p :: .run q :: rest ∈ lists
  | .run (.capture g p) :: rest => .run p :: .close g :: rest ∈ lists
  | .run (.alt p q) :: rest => .run p :: rest ∈ lists ∧ .run q :: rest ∈ lists
  | .run (.optional _ p) :: rest => .run p :: rest ∈ lists ∧ rest ∈ lists
  | .run (.plus greedy p) :: rest => .run p :: .again none greedy p :: rest ∈ lists
  | .run (.star greedy p) :: rest => .again none greedy p :: rest ∈ lists
  | .again _ greedy p :: rest => .run p :: .again none greedy p :: rest ∈ lists ∧ rest ∈ lists

theorem Settled.mono {site : Site} {threads threads' : List Thread} {lists lists' : Set (List Task)}
    {todo : List Task} (h : Settled site threads lists todo) (ht : threads ⊆ threads')
    (hl : lists ⊆ lists') : Settled site threads' lists' todo := by
  match todo with
  | [] => exact h.imp fun _ hs => ht hs
  | .run (.chars m) :: rest => exact h.imp fun _ ⟨slots, hr, he⟩ => ⟨slots, ht hr, he⟩
  | .run (.anchor a) :: rest => exact fun ha => hl (h ha)
  | .close _ :: rest | .run .empty :: rest | .run (.seq p q) :: rest | .run (.capture g p) :: rest
  | .run (.plus greedy p) :: rest | .run (.star greedy p) :: rest => exact hl h
  | .run (.alt p q) :: rest | .run (.optional _ p) :: rest | .again _ greedy p :: rest =>
    exact ⟨hl h.1, hl h.2⟩

/-- The bodies of the iterations that have begun at offset `here` are in a set. -/
def Begun (here : Nat) (lists : Set (List Task)) (todo : List Task) : Prop :=
  ∀ greedy p rest, .again (some here) greedy p :: rest <:+ todo →
    (.run p :: .again (some here) greedy p :: rest).map Task.shape ∈ lists

theorem Begun.mono {here : Nat} {lists lists' : Set (List Task)} {todo todo' : List Task}
    (h : Begun here lists todo) (hl : lists ⊆ lists') (ht : todo' <:+ todo) :
    Begun here lists' todo' :=
  fun greedy p rest hsuffix => hl (h greedy p rest (hsuffix.trans ht))

theorem Begun.cons {here : Nat} {lists : Set (List Task)} {task : Task} {rest : List Task}
    (h : Begun here lists rest) (ht : ∀ greedy p, task ≠ .again (some here) greedy p) :
    Begun here lists (task :: rest) := by
  intro greedy p rest' hsuffix
  rcases List.suffix_cons_iff.mp hsuffix with heq | hsuffix
  · exact absurd (List.cons.inj heq).1.symm (ht greedy p)
  · exact h greedy p rest' hsuffix

/-- An iteration has begun when its body is expanded. -/
theorem Begun.iterate {here : Nat} {lists : Set (List Task)} {greedy : Bool} {p : Simple}
    {rest : List Task} (h : Begun here lists rest) :
    Begun here (insert ((.run p :: .again (some here) greedy p :: rest).map Task.shape) lists)
      (.run p :: .again (some here) greedy p :: rest) := by
  refine Begun.cons ?_ (by simp)
  intro greedy' p' rest' hsuffix
  rcases List.suffix_cons_iff.mp hsuffix with heq | hsuffix
  · cases heq
    exact Set.mem_insert _ _
  · exact Set.mem_insert_of_mem _ (h greedy' p' rest' hsuffix)

/-- An expansion adds lists to a set: those met and those passed, all of which are settled. -/
structure Closes (site : Site) (f : Front) (lists lists' : Set (List Task)) : Prop where
  old : lists ⊆ lists'
  met : ∀ x ∈ f.met, x ∈ lists'
  settled : ∀ x ∈ lists', x ∈ lists ∨ Settled site f.threads lists' x

theorem Closes.trans {site : Site} {f f' : Front} {lists lists' lists'' : Set (List Task)}
    (h : Closes site f lists lists') (h' : Closes site f' lists' lists'')
    (ht : f.threads ⊆ f'.threads) : Closes site f' lists lists'' where
  old := h.old.trans h'.old
  met := h'.met
  settled x hx := by
    rcases h'.settled x hx with hx' | hs
    · exact (h.settled x hx').imp_right fun hs => hs.mono ht h'.old
    · exact Or.inr hs

/-- A list that is settled by what follows it. -/
theorem Closes.of_insert {site : Site} {f : Front} {lists lists' : Set (List Task)}
    {x : List Task} (h : Closes site f (insert x lists) lists')
    (hx : Settled site f.threads lists' x) : Closes site f lists lists' where
  old := (Set.subset_insert _ _).trans h.old
  met := h.met
  settled y hy := by
    rcases h.settled y hy with hy | hs
    · exact (Set.mem_insert_iff.mp hy).elim (fun heq => Or.inr (heq ▸ hx)) Or.inl
    · exact Or.inr hs

theorem closes_leaf {site : Site} {f : Front} {lists : Set (List Task)} {x : List Task}
    (hmet : ∀ y ∈ f.met, y ∈ lists) (hx : Settled site f.threads (insert x lists) x) :
    ∃ lists', Closes site f lists lists' ∧ x ∈ lists' := by
  refine ⟨insert x lists, ⟨Set.subset_insert _ _, fun y hy => Set.mem_insert_of_mem _ (hmet y hy),
    fun y hy => ?_⟩, Set.mem_insert _ _⟩
  exact (Set.mem_insert_iff.mp hy).elim (fun heq => Or.inr (heq ▸ hx)) Or.inl

theorem closes_of_next {site : Site} {f : Front} {lists : Set (List Task)} {x next : List Task}
    (h : ∃ lists', Closes site f (insert x lists) lists' ∧ next ∈ lists')
    (hx : ∀ lists', insert x lists ⊆ lists' → next ∈ lists' →
      Settled site f.threads lists' x) : ∃ lists', Closes site f lists lists' ∧ x ∈ lists' := by
  obtain ⟨lists', hc, hnext⟩ := h
  exact ⟨lists', hc.of_insert (hx lists' hc.old hnext), hc.old (Set.mem_insert _ _)⟩

theorem Task.Fork.begun {here : Nat} {todo a b : List Task} (h : Task.Fork here todo a b)
    {lists : Set (List Task)} (hb : Begun here lists todo) :
    Begun here (insert (a.map Task.shape) lists) a ∧
      Begun here (insert (b.map Task.shape) lists) b := by
  cases h with
  | alt =>
    have hrest := hb.mono (Set.Subset.refl _) (List.suffix_cons _ _)
    exact ⟨(hrest.mono (Set.subset_insert _ _) (List.suffix_refl _)).cons (by simp),
      (hrest.mono (Set.subset_insert _ _) (List.suffix_refl _)).cons (by simp)⟩
  | once =>
    have hrest := hb.mono (Set.Subset.refl _) (List.suffix_cons _ _)
    exact ⟨(hrest.mono (Set.subset_insert _ _) (List.suffix_refl _)).cons (by simp),
      hrest.mono (Set.subset_insert _ _) (List.suffix_refl _)⟩
  | without =>
    have hrest := hb.mono (Set.Subset.refl _) (List.suffix_cons _ _)
    exact ⟨hrest.mono (Set.subset_insert _ _) (List.suffix_refl _),
      (hrest.mono (Set.subset_insert _ _) (List.suffix_refl _)).cons (by simp)⟩
  | more =>
    have hrest := hb.mono (Set.Subset.refl _) (List.suffix_cons _ _)
    exact ⟨hrest.iterate, hrest.mono (Set.subset_insert _ _) (List.suffix_refl _)⟩
  | enough =>
    have hrest := hb.mono (Set.Subset.refl _) (List.suffix_cons _ _)
    exact ⟨hrest.mono (Set.subset_insert _ _) (List.suffix_refl _), hrest.iterate⟩

theorem Task.Fork.settled {site : Site} {here : Nat} {todo a b : List Task}
    (h : Task.Fork here todo a b) {threads : List Thread} {lists : Set (List Task)}
    (ha : a.map Task.shape ∈ lists) (hb : b.map Task.shape ∈ lists) :
    Settled site threads lists (todo.map Task.shape) := by
  cases h with
  | alt | once | more => exact ⟨ha, hb⟩
  | without | enough => exact ⟨hb, ha⟩

/-- An expansion leaves its tasks and all they lead to settled. -/
theorem Expands.closes {site : Site} {here : Nat} {todo : List Task} {slots : Slots} {f f' : Front}
    (h : Expands site here todo slots f f') (lists : Set (List Task))
    (hmet : ∀ x ∈ f.met, x ∈ lists) (hb : Begun here (insert (todo.map Task.shape) lists) todo) :
    ∃ lists', Closes site f' lists lists' ∧ todo.map Task.shape ∈ lists' := by
  induction h generalizing lists with
  | done => exact closes_leaf hmet ⟨_, List.mem_cons_self⟩
  | chars => exact closes_leaf hmet ⟨_, _, List.mem_cons_self, rfl⟩
  | blocked ha => exact closes_leaf hmet fun h => absurd h ha
  | met h =>
    exact ⟨lists, ⟨Set.Subset.refl _, hmet, fun _ hx => Or.inl hx⟩, hmet _ h⟩
  | close _ ih | empty _ ih =>
    refine closes_of_next (ih _ (fun x hx => Set.mem_insert_of_mem _ (hmet x hx)) ?_)
      fun _ _ hnext => hnext
    exact hb.mono (Set.subset_insert _ _) (List.suffix_cons _ _)
  | anchor ha _ ih =>
    refine closes_of_next (ih _ (fun x hx => Set.mem_insert_of_mem _ (hmet x hx)) ?_)
      fun _ _ hnext _ => hnext
    exact hb.mono (Set.subset_insert _ _) (List.suffix_cons _ _)
  | seq _ ih | capture _ ih =>
    refine closes_of_next (ih _ (fun x hx => Set.mem_insert_of_mem _ (hmet x hx)) ?_)
      fun _ _ hnext => hnext
    exact ((hb.mono (Set.subset_insert _ _) (List.suffix_cons _ _)).cons (by simp)).cons (by simp)
  | star _ ih =>
    refine closes_of_next (ih _ (fun x hx => Set.mem_insert_of_mem _ (hmet x hx)) ?_)
      fun _ _ hnext => hnext
    exact (hb.mono (Set.subset_insert _ _) (List.suffix_cons _ _)).cons (by simp)
  | plus _ ih =>
    refine closes_of_next (ih _ (fun x hx => Set.mem_insert_of_mem _ (hmet x hx)) ?_)
      fun _ _ hnext => hnext
    exact (hb.mono (Set.Subset.refl _) (List.suffix_cons _ _)).iterate
  | @idle greedy p rest slots f f' _ ih =>
    -- The body of the iteration is not expanded again: it has been passed when the iteration began.
    refine closes_of_next (ih _ ?_ ?_) fun lists' hl hnext =>
      ⟨hl (hb greedy p rest (List.suffix_refl _)), hnext⟩
    · intro x hx
      rcases List.mem_cons.mp hx with rfl | hx
      · exact Set.mem_insert _ _
      · exact Set.mem_insert_of_mem _ (hmet x hx)
    · exact hb.mono (Set.subset_insert _ _) (List.suffix_cons _ _)
  | @fork todo a b slots f f' f'' hfork _ hexpands iha ihb =>
    have hmet' : ∀ x ∈ (f.meet todo).met, x ∈ insert (todo.map Task.shape) lists := by
      intro x hx
      rcases List.mem_cons.mp hx with rfl | hx
      · exact Set.mem_insert _ _
      · exact Set.mem_insert_of_mem _ (hmet x hx)
    obtain ⟨lists₁, hc₁, ha⟩ := iha _ hmet' (hfork.begun hb).1
    obtain ⟨lists₂, hc₂, hb⟩ :=
      ihb lists₁ hc₁.met (hfork.begun (hb.mono hc₁.old (List.suffix_refl _))).2
    have hc := hc₁.trans hc₂ hexpands.threads_subset
    exact ⟨lists₂, hc.of_insert (hfork.settled (hc₂.old ha) hb), hc.old (Set.mem_insert _ _)⟩

/-- From settled tasks every path is that of a thread: a set of settled lists that holds the tasks at
the start of a path holds those along it, up to the next character. -/
theorem Path.exists_thread {s u : Place} {todo : List Task} (h : Path beyond todo s u)
    {threads : List Thread} {lists : Set (List Task)}
    (hlists : ∀ x ∈ lists, Settled (s.site beyond) threads lists x)
    (htodo : todo.map Task.shape ∈ lists) : ∃ t ∈ threads, ∃ u, t.Reaches beyond s u := by
  induction h with
  | done =>
    obtain ⟨slots, ht⟩ := hlists _ htodo
    exact ⟨_, ht, _, rfl⟩
  | @chars m rest s u c t hs hc h _ =>
    obtain ⟨todo, slots, ht, hshape⟩ := hlists _ htodo
    obtain ⟨u', hpath⟩ := h.of_shape hshape slots
    exact ⟨_, ht, u', c, t, hs, hc, hpath⟩
  | close _ ih | capture _ ih | empty _ ih | seq _ ih | plus _ _ ih | star _ _ ih =>
    exact ih hlists (hlists _ htodo)
  | anchor ha _ ih => exact ih hlists (hlists _ htodo ha)
  | left _ ih | once _ ih | more _ ih => exact ih hlists (hlists _ htodo).1
  | right _ ih | without _ ih | enough _ ih => exact ih hlists (hlists _ htodo).2

end PatternLoom.Simple
