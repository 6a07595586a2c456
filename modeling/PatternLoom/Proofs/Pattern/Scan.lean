import PatternLoom.Proofs.Pattern.Expansion

/-!
# Scans find walks

A scan finds a match exactly when the pattern has a walk from where the scan starts, and what it finds
is where such a walk ends. The statement about a run is by induction on the text, with the threads at
hand in place of the pattern.
-/

namespace PatternLoom.Simple

set_option autoImplicit false

variable {beyond : Option Char}

/-- The iterations under way have begun at offset `here` or before. -/
def Task.Old (here : Nat) (todo : List Task) : Prop :=
  ∀ since greedy p, .again (some since) greedy p ∈ todo → since ≤ here

def Thread.Old (here : Nat) : Thread → Prop
  | .reading r => Task.Old here r.todo
  | .finished _ => True

theorem Task.Old.tail {here : Nat} {task : Task} {rest : List Task} (h : Task.Old here (task :: rest)) :
    Task.Old here rest :=
  fun since greedy p hm => h since greedy p (List.mem_cons_of_mem _ hm)

theorem Task.Old.cons {here : Nat} {task : Task} {rest : List Task} (h : Task.Old here rest)
    (ht : ∀ since greedy p, task = .again (some since) greedy p → since ≤ here) :
    Task.Old here (task :: rest) := by
  intro since greedy p hm
  rcases List.mem_cons.mp hm with heq | hm
  · exact ht since greedy p heq.symm
  · exact h since greedy p hm

theorem Task.Old.mono {here here' : Nat} {todo : List Task} (h : Task.Old here todo)
    (hle : here ≤ here') : Task.Old here' todo :=
  fun since greedy p hm => (h since greedy p hm).trans hle

theorem Task.Fork.old {here : Nat} {todo a b : List Task} (h : Task.Fork here todo a b)
    (ho : Task.Old here todo) : Task.Old here a ∧ Task.Old here b := by
  cases h with
  | alt => exact ⟨ho.tail.cons (by simp), ho.tail.cons (by simp)⟩
  | once => exact ⟨ho.tail.cons (by simp), ho.tail⟩
  | without => exact ⟨ho.tail, ho.tail.cons (by simp)⟩
  | more => exact ⟨(ho.tail.cons (by simp)).cons (by simp), ho.tail⟩
  | enough => exact ⟨ho.tail, (ho.tail.cons (by simp)).cons (by simp)⟩

/-- An expansion begins iterations nowhere but at its own place. -/
theorem Expands.old {site : Site} {here : Nat} {todo : List Task} {slots : Slots} {f f' : Front}
    (h : Expands site here todo slots f f') (ho : Task.Old here todo)
    (hf : ∀ t ∈ f.threads, t.Old here) : ∀ t ∈ f'.threads, t.Old here := by
  induction h with
  | done => exact List.forall_mem_cons.mpr ⟨trivial, hf⟩
  | chars => exact List.forall_mem_cons.mpr ⟨ho.tail, hf⟩
  | blocked | met => exact hf
  | close _ ih | empty _ ih | anchor _ _ ih | idle _ ih => exact ih ho.tail hf
  | seq _ ih | capture _ ih | plus _ ih => exact ih ((ho.tail.cons (by simp)).cons (by simp)) hf
  | star _ ih => exact ih (ho.tail.cons (by simp)) hf
  | fork hfork _ _ iha ihb => exact ihb (hfork.old ho).2 (iha (hfork.old ho).1 hf)

/-- No iteration has begun at a place that no thread has been expanded at. -/
theorem Task.Old.begun {here : Nat} {todo : List Task} (ho : Task.Old here todo)
    (lists : Set (List Task)) : Begun (here + 1) lists todo := by
  intro greedy p rest hsuffix
  have := ho _ _ _ (hsuffix.subset List.mem_cons_self)
  omega

/-- The threads that the readers of a character become are settled, and so are the tasks of those
readers that accept it. -/
theorem exists_closes_foldl (site : Site) {here : Nat} (c : Char) (reading : List Reading)
    (ho : ∀ r ∈ reading, Task.Old here r.todo) (f : Front) (lists : Set (List Task))
    (hmet : ∀ x ∈ f.met, x ∈ lists) :
    ∃ lists', Closes site (reading.foldl (expandNext site (here + 1) c) f) lists lists' ∧
      f.threads ⊆ (reading.foldl (expandNext site (here + 1) c) f).threads ∧
      ∀ r ∈ reading, r.members.contains c = true → r.todo.map Task.shape ∈ lists' := by
  induction reading generalizing f lists with
  | nil =>
    exact ⟨lists, ⟨Set.Subset.refl _, hmet, fun _ hx => Or.inl hx⟩, List.Subset.refl _,
      fun r hr => absurd hr List.not_mem_nil⟩
  | cons r reading ih =>
    have hor := ho r List.mem_cons_self
    have ho' : ∀ r ∈ reading, Task.Old here r.todo := fun r hr => ho r (List.mem_cons_of_mem _ hr)
    rw [List.foldl_cons]
    by_cases hc : r.members.contains c = true
    · rw [expandNext, if_pos hc]
      have hexpands := expands site (here + 1) r.todo r.slots f
      obtain ⟨lists₁, hc₁, hr₁⟩ := hexpands.closes lists hmet (hor.begun _)
      obtain ⟨lists₂, hc₂, ht₂, hr₂⟩ := ih ho' _ lists₁ hc₁.met
      refine ⟨lists₂, hc₁.trans hc₂ ht₂, List.Subset.trans hexpands.threads_subset ht₂, ?_⟩
      exact List.forall_mem_cons.mpr ⟨fun _ => hc₂.old hr₁, hr₂⟩
    · rw [expandNext, if_neg hc]
      obtain ⟨lists₂, hc₂, ht₂, hr₂⟩ := ih ho' f lists hmet
      exact ⟨lists₂, hc₂, ht₂, List.forall_mem_cons.mpr ⟨fun h => absurd h hc, hr₂⟩⟩

/-- A thread found after reading a character stands for paths of a thread that read it. -/
theorem mem_foldl_expandNext {s : Place} {c : Char} (reading : List Reading) (f : Front) {t : Thread}
    (ht : t ∈ (reading.foldl (expandNext (s.site beyond) s.offset c) f).threads) :
    t ∈ f.threads ∨ ∃ r ∈ reading, r.members.contains c = true ∧
      ∀ u, t.Reaches beyond s u → Path beyond r.todo (s.withSlots r.slots) u := by
  induction reading generalizing f with
  | nil => exact Or.inl ht
  | cons r reading ih =>
    rcases ih _ ht with ht | ⟨r', hr', hpath⟩
    · by_cases hc : r.members.contains c = true
      · rw [expandNext, if_pos hc] at ht
        exact ((expands _ _ _ _ _).sound ht).imp_right fun hpath =>
          ⟨r, List.mem_cons_self, hc, hpath⟩
      · rw [expandNext, if_neg hc] at ht
        exact Or.inl ht
    · exact Or.inr ⟨r', List.mem_cons_of_mem _ hr', hpath⟩

theorem old_foldl_expandNext {site : Site} {here : Nat} {c : Char} (reading : List Reading)
    (ho : ∀ r ∈ reading, Task.Old here r.todo) (f : Front) (hf : ∀ t ∈ f.threads, t.Old here) :
    ∀ t ∈ (reading.foldl (expandNext site here c) f).threads, t.Old here := by
  induction reading generalizing f with
  | nil => exact hf
  | cons r reading ih =>
    refine ih (fun r hr => ho r (List.mem_cons_of_mem _ hr)) _ ?_
    by_cases hc : r.members.contains c = true
    · rw [expandNext, if_pos hc]
      exact (expands _ _ _ _ _).old (ho r List.mem_cons_self) hf
    · rw [expandNext, if_neg hc]
      exact hf

theorem mem_of_mem_cut {threads : List Thread} {r : Reading} (h : r ∈ (cut threads).1) :
    .reading r ∈ threads := by
  induction threads with
  | nil => exact absurd h List.not_mem_nil
  | cons t threads ih =>
    cases t with
    | finished slots => exact absurd h List.not_mem_nil
    | reading r' =>
      rcases List.mem_cons.mp h with rfl | h
      · exact List.mem_cons_self
      · exact List.mem_cons_of_mem _ (ih h)

theorem mem_of_cut_eq_some {threads : List Thread} {slots : Slots}
    (h : (cut threads).2 = some slots) : .finished slots ∈ threads := by
  induction threads with
  | nil => exact absurd h (by simp [cut])
  | cons t threads ih =>
    cases t with
    | finished slots' =>
      obtain rfl : slots' = slots := by simpa [cut] using h
      exact List.mem_cons_self
    | reading r => exact List.mem_cons_of_mem _ (ih h)

/-- A cut without a finished thread loses no thread. -/
theorem exists_mem_cut {threads : List Thread} (h : (cut threads).2 = none) {t : Thread}
    (ht : t ∈ threads) : ∃ r ∈ (cut threads).1, t = .reading r := by
  induction threads with
  | nil => exact absurd ht List.not_mem_nil
  | cons t' threads ih =>
    cases t' with
    | finished slots => exact absurd h (by simp [cut])
    | reading r =>
      rcases List.mem_cons.mp ht with rfl | ht
      · exact ⟨r, List.mem_cons_self, rfl⟩
      · obtain ⟨r', hr', heq⟩ := ih h ht
        exact ⟨r', List.mem_cons_of_mem _ hr', heq⟩

theorem Thread.Reaches.of_mem_advance {s : Place} {c : Char} {rest : Text}
    (hs : s.ahead = c :: rest) {reading : List Reading} {t : Thread}
    (ht : t ∈ advance ((s.step c rest).site beyond) (s.step c rest).offset c reading) :
    ∃ r ∈ reading, ∀ u, t.Reaches beyond (s.step c rest) u → (Thread.reading r).Reaches beyond s u := by
  rw [advance, List.mem_reverse] at ht
  rcases mem_foldl_expandNext reading _ ht with ht | ⟨r, hr, hc, hpath⟩
  · exact absurd ht List.not_mem_nil
  · exact ⟨r, hr, fun u hu => ⟨c, rest, hs, hc, hpath u hu⟩⟩

theorem Thread.Reaches.advance {s u : Place} {c : Char} {rest : Text} (hs : s.ahead = c :: rest)
    {reading : List Reading} (ho : ∀ r ∈ reading, Task.Old s.offset r.todo) {r : Reading}
    (hr : r ∈ reading) (h : (Thread.reading r).Reaches beyond s u) :
    ∃ t ∈ advance ((s.step c rest).site beyond) (s.offset + 1) c reading,
      ∃ u, t.Reaches beyond (s.step c rest) u := by
  obtain ⟨c', rest', hs', hc, hpath⟩ := h
  obtain ⟨rfl, rfl⟩ := List.cons.inj (hs.symm.trans hs')
  obtain ⟨lists, hcloses, -, htodo⟩ :=
    exists_closes_foldl ((s.step c rest).site beyond) c reading ho {} ∅ (by simp)
  have hsettled : ∀ x ∈ lists, Settled ((s.step c rest).site beyond) _ lists x :=
    fun x hx => (hcloses.settled x hx).resolve_left (Set.notMem_empty x)
  obtain ⟨t, ht, hreaches⟩ :=
    hpath.exists_thread hsettled (htodo r hr hc)
  refine ⟨t, List.mem_reverse.mpr ht, ?_⟩
  cases t with
  | finished slots => exact hreaches
  | reading r' => exact hreaches

theorem run_cons (here : Nat) (threads : List Thread) (best : Option Hit) (c : Char) (rest : Text) :
    run beyond here threads best (c :: rest) =
      let best := ((cut threads).2.map fun slots => ⟨here, slots⟩).or best
      if (cut threads).1.isEmpty = true then best
      else run beyond (here + 1)
        (advance ⟨some c, (rest.head?).or beyond⟩ (here + 1) c (cut threads).1) best rest := rfl

theorem reaches_of_cut_or {s : Place} {threads : List Thread} {best : Option Hit} {hit : Hit}
    (h : ((cut threads).2.map fun slots => ⟨s.offset, slots⟩).or best = some hit) :
    best = some hit ∨ ∃ t ∈ threads, ∃ u, t.Reaches beyond s u ∧ hit = ⟨u.offset, u.slots⟩ := by
  cases hcut : (cut threads).2 with
  | none => exact Or.inl (by simpa [hcut] using h)
  | some slots =>
    rw [hcut] at h
    refine Or.inr ⟨_, mem_of_cut_eq_some hcut, s.withSlots slots, rfl, ?_⟩
    exact (Option.some.inj h).symm

theorem run_sound {s : Place} {threads : List Thread} {best : Option Hit} {hit : Hit}
    (h : run beyond s.offset threads best s.ahead = some hit) :
    best = some hit ∨ ∃ t ∈ threads, ∃ u, t.Reaches beyond s u ∧ hit = ⟨u.offset, u.slots⟩ := by
  obtain ⟨text, htext⟩ : ∃ text, s.ahead = text := ⟨_, rfl⟩
  induction text generalizing s threads best with
  | nil =>
    rw [htext] at h
    exact reaches_of_cut_or h
  | cons c rest ih =>
    rw [htext, run_cons] at h
    split at h
    · exact reaches_of_cut_or h
    · rcases ih (s := s.step c rest) h rfl with hb | ⟨t, ht, u, hu, hhit⟩
      · exact reaches_of_cut_or hb
      · obtain ⟨r, hr, hreaches⟩ := Thread.Reaches.of_mem_advance htext ht
        exact Or.inr ⟨_, mem_of_mem_cut hr, u, hreaches u hu, hhit⟩

theorem isSome_run {s : Place} {threads : List Thread} {best : Option Hit}
    (ho : ∀ t ∈ threads, t.Old s.offset)
    (h : best.isSome = true ∨ ∃ t ∈ threads, ∃ u, t.Reaches beyond s u) :
    (run beyond s.offset threads best s.ahead).isSome = true := by
  obtain ⟨text, htext⟩ : ∃ text, s.ahead = text := ⟨_, rfl⟩
  induction text generalizing s threads best with
  | nil =>
    rw [htext, run, Option.isSome_or]
    rcases h with hb | ⟨t, ht, u, hu⟩
    · simp [hb]
    · cases hcut : (cut threads).2 with
      | some slots => rfl
      | none =>
        obtain ⟨r, hr, rfl⟩ := exists_mem_cut hcut ht
        obtain ⟨c, rest, hs, -⟩ := hu
        exact absurd (htext.symm.trans hs) (by simp)
  | cons c rest ih =>
    have ho' : ∀ r ∈ (cut threads).1, Task.Old s.offset r.todo :=
      fun r hr => ho _ (mem_of_mem_cut hr)
    have hnext : ∀ t ∈ advance ((s.step c rest).site beyond) (s.offset + 1) c (cut threads).1,
        t.Old (s.offset + 1) := by
      intro t ht
      refine old_foldl_expandNext _ (fun r hr => ?_) {} (by simp) t (List.mem_reverse.mp ht)
      exact (ho' r hr).mono (Nat.le_succ _)
    have hstep : ((((cut threads).2.map fun slots => ⟨s.offset, slots⟩).or best).isSome = true) ∨
        ∃ r ∈ (cut threads).1, ∃ u, (Thread.reading r).Reaches beyond s u := by
      rcases h with hb | ⟨t, ht, u, hu⟩
      · exact Or.inl (by simp [hb])
      · cases hcut : (cut threads).2 with
        | some slots => exact Or.inl rfl
        | none =>
          obtain ⟨r, hr, rfl⟩ := exists_mem_cut hcut ht
          exact Or.inr ⟨r, hr, u, hu⟩
    rw [htext, run_cons]
    split
    · rename_i hempty
      refine hstep.resolve_right fun ⟨r, hr, _⟩ => ?_
      exact absurd (List.isEmpty_iff.mp hempty) (List.ne_nil_of_mem hr)
    · refine ih (s := s.step c rest) hnext ?_ rfl
      exact hstep.imp_right fun ⟨r, hr, u, hu⟩ => hu.advance htext ho' hr

/-- A match begins where the scan starts and ends where a walk does. -/
theorem walk_of_matchAt? {p : Simple} {s : Place} {hit : Hit}
    (h : p.matchAt? s.before s.offset s.slots s.ahead beyond = some hit) :
    ∃ u, Walk beyond p s u ∧ hit = ⟨u.offset, u.slots⟩ := by
  rcases run_sound h with hb | ⟨t, ht, u, hu, hhit⟩
  · exact absurd hb (by simp)
  · rw [List.mem_reverse] at ht
    rcases (expands (s.site beyond) s.offset _ s.slots {}).sound ht with ht | hpath
    · exact absurd ht List.not_mem_nil
    · exact ⟨u, path_iff_walk.mp (hpath u hu), hhit⟩

/-- A scan finds a match exactly when the pattern has a walk. -/
theorem isSome_matchAt?_iff {p : Simple} {s : Place} :
    (p.matchAt? s.before s.offset s.slots s.ahead beyond).isSome = true ↔
      ∃ u, Walk beyond p s u := by
  constructor
  · intro h
    obtain ⟨hit, hhit⟩ := Option.isSome_iff_exists.mp h
    obtain ⟨u, hu, -⟩ := walk_of_matchAt? hhit
    exact ⟨u, hu⟩
  · rintro ⟨u, hu⟩
    have hexpands := expands (s.site beyond) s.offset [.run p] s.slots {}
    have hold : Task.Old s.offset [.run p] := by simp [Task.Old]
    have hbegun : Begun s.offset (insert ([Task.run p].map Task.shape) ∅) [.run p] := by
      intro greedy q rest hsuffix
      exact absurd (hsuffix.subset List.mem_cons_self) (by simp)
    obtain ⟨lists, hcloses, htodo⟩ := hexpands.closes ∅ (by simp) hbegun
    have hsettled : ∀ x ∈ lists, Settled (s.site beyond) _ lists x :=
      fun x hx => (hcloses.settled x hx).resolve_left (Set.notMem_empty x)
    obtain ⟨t, ht, hreaches⟩ := (path_iff_walk.mpr hu).exists_thread hsettled htodo
    refine isSome_run (fun t ht => ?_) (Or.inr ⟨t, List.mem_reverse.mpr ht, hreaches⟩)
    exact hexpands.old hold (by simp) t (List.mem_reverse.mp ht)

end PatternLoom.Simple
