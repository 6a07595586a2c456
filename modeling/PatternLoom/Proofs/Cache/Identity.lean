import Mathlib.Data.List.Nodup
import PatternLoom.Proofs.Cache.Stages

/-!
# One live object for each key

A compiled object is told from all others by the serial of the call that made it. An entry, once
there, stays the same object until it is evicted or cleared, and every call that returns meanwhile
returns that object, also a call that has compiled another one itself.
-/

namespace PatternLoom

set_option autoImplicit false

variable {α : Type}

namespace Cache

theorem lookup_filter_ne {entries : List (Text × Compiled α)} {key other : Text} (h : key ≠ other) :
    (entries.filter (·.1 != other)).lookup key = entries.lookup key := by
  induction entries with
  | nil => rfl
  | cons e entries ih =>
    obtain ⟨k, v⟩ := e
    by_cases hk : k = other
    · have hne : (key == k) = false := by simpa [hk] using h
      rw [List.filter_cons_of_neg (by simpa using hk), ih, List.lookup_cons, hne]
    · rw [List.filter_cons_of_pos (by simpa using hk), List.lookup_cons, List.lookup_cons, ih]

theorem mem_entries_of_find? {c : Cache α} {key : Text} {v : Compiled α} (h : c.find? key = some v) :
    (key, v) ∈ c.entries := by
  obtain ⟨front, rear, hsplit, -⟩ := List.lookup_eq_some_iff.mp h
  rw [hsplit]
  exact List.mem_append_right front List.mem_cons_self

theorem find?_touch (c : Cache α) (key other : Text) :
    (c.touch other).find? key = c.find? key := by
  rw [find?, entries_touch, find?]

theorem find?_insert_self (c : Cache α) (key : Text) (v : Compiled α) :
    (c.insert key v).1.find? key = some v :=
  List.lookup_cons_self

theorem find?_evict {c : Cache α} {key : Text} {v : Compiled α} (h : c.find? key = some v)
    (hkept : .evicting key ∉ c.evict.2) : c.evict.1.find? key = some v := by
  unfold evict at hkept ⊢
  split at hkept
  · rename_i hfull
    rw [if_pos hfull]
    cases ho : c.order with
    | nil => exact h
    | cons oldest rest =>
      simp only [ho] at hkept ⊢
      have hne : key ≠ oldest := by
        rintro rfl
        exact hkept List.mem_cons_self
      rw [find?, lookup_filter_ne hne]
      exact h
  · rename_i hroom
    rw [if_neg hroom]
    exact h

theorem find?_insert {c : Cache α} {key other : Text} {v w : Compiled α} (h : c.find? key = some v)
    (hne : key ≠ other) (hkept : .evicting key ∉ (c.insert other w).2) :
    (c.insert other w).1.find? key = some v := by
  have hevict : c.evict.1.find? key = some v := find?_evict h hkept
  have hcons : (key == other) = false := beq_eq_false_iff_ne.mpr hne
  change ((other, w) :: c.evict.1.entries.filter (·.1 != other)).lookup key = some v
  rw [List.lookup_cons, hcons, lookup_filter_ne hne]
  exact hevict

end Cache

namespace Stage

/-- The object is returned by the call that has made it. -/
def Issues (x : Stage α) (key : Text) (v : Compiled α) : Prop :=
  x.incident = .returned key v.serial (.ok v.value) (.ok v)

theorem Issues.closes? {x : Stage α} {key : Text} {v : Compiled α} (h : x.Issues key v) :
    x.closes? = some v.serial := by
  rw [Stage.closes?, h]

namespace Step

variable {x : Stage α} {key : Text} {v : Compiled α}

theorem maxSize_after (h : x.Step) : x.after.maxSize = x.before.maxSize := by
  cases h with
  | found => exact Cache.maxSize_touch ..
  | missed => rfl
  | failed => rfl
  | passed => rfl
  | yielded => exact Cache.maxSize_touch ..
  | kept => exact Cache.maxSize_insert ..
  | cleared => rfl

/-- The misses are counted where calls begin to compile, and nowhere else. -/
theorem misses_after (h : x.Step) :
    (x.opens? = none ∧ x.after.misses = x.before.misses) ∨
      (x.opens? = some x.after.misses ∧ x.after.misses = x.before.misses + 1) := by
  cases h with
  | found => exact .inl ⟨rfl, Cache.misses_touch ..⟩
  | missed => exact .inr ⟨rfl, rfl⟩
  | failed => exact .inl ⟨rfl, rfl⟩
  | passed => exact .inl ⟨rfl, rfl⟩
  | yielded => exact .inl ⟨rfl, Cache.misses_touch ..⟩
  | kept => exact .inl ⟨rfl, Cache.misses_evict _⟩
  | cleared => exact .inl ⟨rfl, rfl⟩

/-- What a call returns was in the cache, or the call has just made it. In a cache that keeps something
it is the entry of the key then. -/
theorem of_returns (h : x.Step) (hr : x.Returns key v) :
    (x.before.find? key = some v ∨ x.Issues key v) ∧
      (x.before.maxSize ≠ 0 → x.after.find? key = some v) := by
  cases h with
  | found hfound =>
    obtain hr | ⟨n, made, hr⟩ := hr
    · cases hr
      exact ⟨.inl hfound, fun _ => (Cache.find?_touch ..).trans hfound⟩
    · cases hr
  | missed => simp [Returns] at hr
  | failed => simp [Returns] at hr
  | passed hzero =>
    obtain hr | ⟨n, made, hr⟩ := hr
    · cases hr
    · cases hr
      exact ⟨.inr rfl, fun hsize => absurd hzero hsize⟩
  | yielded _ hfound =>
    obtain hr | ⟨n, made, hr⟩ := hr
    · cases hr
    · cases hr
      exact ⟨.inl hfound, fun _ => (Cache.find?_touch ..).trans hfound⟩
  | kept =>
    obtain hr | ⟨n, made, hr⟩ := hr
    · cases hr
    · cases hr
      exact ⟨.inr rfl, fun _ => Cache.find?_insert_self ..⟩
  | cleared => simp [Returns] at hr

/-- An entry stays as it is unless it is evicted or cleared. -/
theorem find?_of_not_drops (h : x.Step) (hfound : x.before.find? key = some v)
    (hd : ¬ x.Drops key) : x.after.find? key = some v := by
  cases h with
  | found => exact (Cache.find?_touch ..).trans hfound
  | missed => exact hfound
  | failed => exact hfound
  | passed => exact hfound
  | yielded => exact (Cache.find?_touch ..).trans hfound
  | @kept c other n value _ hnone =>
    have hne : key ≠ other := by
      rintro rfl
      rw [hnone] at hfound
      cases hfound
    exact Cache.find?_insert hfound hne fun he => hd (.inr he)
  | cleared => exact absurd (.inl rfl) hd

theorem found_of_calls (h : x.Step) (hfound : x.before.find? key = some v) (hc : x.Calls key) :
    x.incident = .found key (.ok v) ∧
      x.after = { x.before.touch key with hits := x.before.hits + 1 } := by
  cases h with
  | found hv =>
    obtain ⟨answer, hc⟩ | ⟨n, hc⟩ := hc
    · cases hc
      rw [hv] at hfound
      cases hfound
      exact ⟨rfl, rfl⟩
    · cases hc
  | missed hnone =>
    obtain ⟨answer, hc⟩ | ⟨n, hc⟩ := hc
    · cases hc
    · cases hc
      rw [hnone] at hfound
      cases hfound
  | failed => simp [Calls] at hc
  | passed => simp [Calls] at hc
  | yielded => simp [Calls] at hc
  | kept => simp [Calls] at hc
  | cleared => simp [Calls] at hc

/-- A call that has compiled gives way to an entry its key has got meanwhile. -/
theorem answer_of_find? (h : x.Step) (hsize : x.before.maxSize ≠ 0)
    (hfound : x.before.find? key = some v) {n : Nat} {value : α}
    {answer : Except PatternError (Compiled α)}
    (hr : x.incident = .returned key n (.ok value) answer) : answer = .ok v := by
  cases h with
  | found => cases hr
  | missed => cases hr
  | failed => cases hr
  | passed hzero => exact absurd hzero hsize
  | yielded _ hv =>
    cases hr
    rw [hv] at hfound
    cases hfound
    rfl
  | kept _ hnone =>
    cases hr
    rw [hnone] at hfound
    cases hfound
  | cleared => cases hr

theorem mem_entries_before (h : x.Step) (hm : (key, v) ∈ x.after.entries) :
    (key, v) ∈ x.before.entries ∨ (x.before.maxSize ≠ 0 ∧ x.Issues key v) := by
  cases h with
  | found =>
    rw [Cache.entries_touch] at hm
    exact .inl hm
  | missed => exact .inl hm
  | failed => exact .inl hm
  | passed => exact .inl hm
  | yielded =>
    rw [Cache.entries_touch] at hm
    exact .inl hm
  | @kept c other n value hsize _ =>
    obtain hm | hm := List.mem_cons.mp hm
    · cases hm
      exact .inr ⟨hsize, rfl⟩
    · exact .inl (Cache.entries_evict_subset c (List.mem_of_mem_filter hm))
  | cleared => cases hm

end Step

end Stage

namespace Course

variable {c d : Cache α} {log : List (Stage α)}

theorem maxSize_eq (h : Course c log d) : d.maxSize = c.maxSize :=
  h.invariant (P := fun b => b.maxSize = c.maxSize) (fun _ _ hx hb => hx.maxSize_after.trans hb) rfl

theorem maxSize_of_mem (h : Course c log d) {x : Stage α} (hx : x ∈ log) :
    x.before.maxSize = c.maxSize := by
  obtain ⟨front, rear, rfl⟩ := List.append_of_mem hx
  exact h.split.1.maxSize_eq

theorem opens_increasing (h : Course c log d) :
    (log.filterMap Stage.opens?).Pairwise (· < ·) ∧
      ∀ n ∈ log.filterMap Stage.opens?, c.misses < n := by
  induction log generalizing c with
  | nil => exact ⟨.nil, fun n hn => absurd hn List.not_mem_nil⟩
  | cons x log ih =>
    obtain ⟨rfl, hx, hrest⟩ := h
    obtain ⟨hsorted, hlater⟩ := ih hrest
    obtain ⟨hopens, hmisses⟩ | ⟨hopens, hmisses⟩ := hx.misses_after
    · rw [List.filterMap_cons_none hopens]
      rw [hmisses] at hlater
      exact ⟨hsorted, hlater⟩
    · rw [List.filterMap_cons_some hopens]
      refine ⟨List.pairwise_cons.mpr ⟨hlater, hsorted⟩, ?_⟩
      intro n hn
      obtain rfl | hn := List.mem_cons.mp hn
      · omega
      · have := hlater n hn
        omega

/-- Every entry has been there from the start, or is an object that the call returned which had made
it. -/
theorem exists_issues (h : Course c log d) {key : Text} {v : Compiled α}
    (hm : (key, v) ∈ d.entries) : (key, v) ∈ c.entries ∨ ∃ x ∈ log, x.Issues key v := by
  refine h.invariant
    (P := fun b => (key, v) ∈ b.entries → (key, v) ∈ c.entries ∨ ∃ x ∈ log, x.Issues key v)
    ?_ .inl hm
  intro x hx hs hb hm
  obtain hm | ⟨-, hi⟩ := hs.mem_entries_before hm
  · exact hb hm
  · exact .inr ⟨x, hx, hi⟩

/-- What was returned stays in a cache that keeps something, until it is evicted or cleared. -/
theorem find?_between {front between rear : List (Stage α)} {x y : Stage α}
    (h : Course c (front ++ x :: between ++ y :: rear) d) (hsize : c.maxSize ≠ 0) {key : Text}
    {v : Compiled α} (hr : x.Returns key v) (hd : ∀ z ∈ between, ¬ z.Drops key) :
    y.before.find? key = some v := by
  obtain ⟨hfront, -, -⟩ := h.split
  obtain ⟨hbefore, hx, hbetween⟩ := hfront.split
  have hxsize : x.before.maxSize ≠ 0 := by rwa [hbefore.maxSize_eq]
  exact hbetween.invariant (P := fun b => b.find? key = some v)
    (fun z hz hs hb => hs.find?_of_not_drops hb (hd z hz)) ((hx.of_returns hr).2 hxsize)

end Course

namespace Session

theorem nodup_opens (s : Session α) (c : Cache α) :
    ((s.stages c).filterMap Stage.opens?).Nodup :=
  (s.course c).1.opens_increasing.1.imp fun h => Nat.ne_of_lt h

theorem pairwise_closes (s : Session α) (c : Cache α) :
    (s.stages c).Pairwise fun x y => ∀ m, x.closes? = some m → ∀ n, y.closes? = some n → m ≠ n :=
  List.pairwise_filterMap.mp ((s.closes_perm_opens c).nodup_iff.mpr (s.nodup_opens c))

theorem eq_of_closes? {s : Session α} {c : Cache α} {x y : Stage α} {n : Nat}
    (hx : x ∈ s.stages c) (hy : y ∈ s.stages c) (hxn : x.closes? = some n)
    (hyn : y.closes? = some n) : x = y := by
  by_contra hne
  have : Std.Symm fun x y : Stage α =>
      ∀ m, x.closes? = some m → ∀ n, y.closes? = some n → m ≠ n :=
    ⟨fun _ _ h m hm n hn => (h n hn m hm).symm⟩
  exact (s.pairwise_closes c).forall hx hy hne n hxn n hyn rfl

theorem exists_issues_of_mem {s : Session α} {maxSize : Nat} {z : Stage α}
    (hz : z ∈ s.stages (.new maxSize)) {key : Text} {v : Compiled α}
    (hm : (key, v) ∈ z.after.entries) : ∃ x ∈ s.stages (.new maxSize), x.Issues key v := by
  have hcourse := (s.course (.new maxSize)).1
  obtain ⟨before, after, hsplit⟩ := List.append_of_mem hz
  have hthrough : Course (.new maxSize) (before ++ [z]) z.after := by
    obtain ⟨hbefore, hstep, -⟩ := (hsplit ▸ hcourse).split
    exact hbefore.append ⟨rfl, hstep, rfl⟩
  obtain hm | ⟨x, hx, hi⟩ := hthrough.exists_issues hm
  · exact absurd hm List.not_mem_nil
  · refine ⟨x, ?_, hi⟩
    rw [hsplit, List.append_cons]
    exact List.mem_append_left after hx

/-- An entry that a returning call meets was made by another call, which has returned before. -/
theorem serial_ne_of_find? {s : Session α} {maxSize : Nat} {front rear : List (Stage α)} {y : Stage α}
    (hlog : s.stages (.new maxSize) = front ++ y :: rear) {key : Text} {v : Compiled α}
    (hfound : y.before.find? key = some v) {n : Nat} (hyn : y.closes? = some n) :
    v.serial ≠ n := by
  have hcourse := (s.course (.new maxSize)).1
  have hpair := s.pairwise_closes (.new maxSize)
  rw [hlog] at hcourse hpair
  obtain hm | ⟨x, hx, hi⟩ := hcourse.split.1.exists_issues (Cache.mem_entries_of_find? hfound)
  · exact absurd hm List.not_mem_nil
  · exact (List.pairwise_append.mp hpair).2.2 x hx y List.mem_cons_self _ hi.closes? n hyn

/-- A call that has compiled while its key got an entry returns that entry. Its own object is never
in the cache, and no call returns it. -/
theorem discarded {s : Session α} {maxSize : Nat} (hsize : maxSize ≠ 0) {front rear : List (Stage α)}
    {y : Stage α} (hlog : s.stages (.new maxSize) = front ++ y :: rear) {key : Text}
    {v : Compiled α} (hfound : y.before.find? key = some v) {n : Nat} {value : α}
    {answer : Except PatternError (Compiled α)}
    (hy : y.incident = .returned key n (.ok value) answer) :
    answer = .ok v ∧ v.serial ≠ n ∧ ∀ z ∈ s.stages (.new maxSize), ∀ k,
      (k, ⟨value, n⟩) ∉ z.after.entries ∧ ¬ z.Returns k ⟨value, n⟩ := by
  have hcourse := (s.course (.new maxSize)).1
  have hyn : y.closes? = some n := by rw [Stage.closes?, hy]
  have hmem : y ∈ s.stages (.new maxSize) := by
    rw [hlog]
    exact List.mem_append_right front List.mem_cons_self
  have hserial : v.serial ≠ n := serial_ne_of_find? hlog hfound hyn
  have hanswer : answer = .ok v :=
    (hcourse.step_of_mem hmem).answer_of_find? (by rwa [hcourse.maxSize_of_mem hmem]) hfound hy
  -- only the call itself could have put its object into the cache
  have hout : ∀ z ∈ s.stages (.new maxSize), ∀ k, (k, ⟨value, n⟩) ∉ z.after.entries := by
    intro z hz k hm
    obtain ⟨x, hx, hi⟩ := exists_issues_of_mem hz hm
    have hxy : x = y := eq_of_closes? hx hmem hi.closes? hyn
    rw [hxy, Stage.Issues, hy, hanswer] at hi
    cases hi
    exact hserial rfl
  refine ⟨hanswer, hserial, fun z hz k => ⟨hout z hz k, fun hr => ?_⟩⟩
  have hzsize : z.before.maxSize ≠ 0 := by rwa [hcourse.maxSize_of_mem hz]
  exact hout z hz k (Cache.mem_entries_of_find? (((hcourse.step_of_mem hz).of_returns hr).2 hzsize))

/-- A cache of size zero has no entries at any stage, so every object is returned by its own call. -/
theorem issues_of_size_zero {s : Session α} {x : Stage α} (hx : x ∈ s.stages (.new 0)) {key : Text}
    {v : Compiled α} (hr : x.Returns key v) : x.Issues key v := by
  have hcourse := (s.course (.new 0)).1
  obtain ⟨front, rear, hsplit⟩ := List.append_of_mem hx
  have hfront := (hsplit ▸ hcourse).split.1
  have hempty : x.before.maxSize = 0 ∧ x.before.entries = [] := by
    refine hfront.invariant (P := fun b => b.maxSize = 0 ∧ b.entries = []) ?_ ⟨rfl, rfl⟩
    intro y _ hy ⟨hsize, hb⟩
    refine ⟨hy.maxSize_after.trans hsize, List.eq_nil_iff_forall_not_mem.mpr ?_⟩
    intro e he
    obtain he | ⟨hne, -⟩ := hy.mem_entries_before he
    · exact absurd (hb ▸ he) List.not_mem_nil
    · exact hne hsize
  obtain hfound | hi := ((hcourse.step_of_mem hx).of_returns hr).1
  · rw [Cache.find?, hempty.2] at hfound
    cases hfound
  · exact hi

/-- One live object for each key, over the stages of every session with a new cache. Every call that
begins to compile returns once, under a serial of its own. If the cache keeps something, an object that
is returned is the entry of its key then; from there on, while the key is neither evicted nor cleared,
a call for it finds that object, whatever its compile function, and a call that has compiled returns
that object and leaves its own to nobody. If the cache keeps nothing, every object is returned by the
call that has made it. -/
theorem one_object_per_key (maxSize : Nat) (s : Session α) :
    let log := s.stages (.new maxSize)
    (s.run (.new maxSize)).events = log.flatMap Stage.events ∧
      (log.filterMap Stage.closes?).Perm (log.filterMap Stage.opens?) ∧
      (log.filterMap Stage.opens?).Nodup ∧
      (0 < maxSize →
        (∀ x ∈ log, ∀ key v, x.Returns key v → x.after.find? key = some v) ∧
        ∀ front x between y rear key v, log = front ++ x :: between ++ y :: rear →
          x.Returns key v → (∀ z ∈ between, ¬ z.Drops key) →
          (y.Calls key → y.incident = .found key (.ok v) ∧
            ∀ compile, y.before.getOrCompile key compile = { result := .ok v, cache := y.after }) ∧
          ∀ n value answer, y.incident = .returned key n (.ok value) answer →
            answer = .ok v ∧ v.serial ≠ n ∧ ∀ z ∈ log, ∀ k,
              (k, ⟨value, n⟩) ∉ z.after.entries ∧ ¬ z.Returns k ⟨value, n⟩) ∧
      (maxSize = 0 → ∀ x ∈ log, ∀ key v, x.Returns key v →
        x.incident = .returned key v.serial (.ok v.value) (.ok v)) := by
  intro log
  obtain ⟨hcourse, hevents⟩ := s.course (.new maxSize)
  refine ⟨hevents, s.closes_perm_opens _, s.nodup_opens _, ?_, ?_⟩
  · intro hpos
    have hsize : maxSize ≠ 0 := Nat.ne_of_gt hpos
    refine ⟨?_, ?_⟩
    · intro x hx key v hr
      have hxsize : x.before.maxSize ≠ 0 := by rwa [hcourse.maxSize_of_mem hx]
      exact ((hcourse.step_of_mem hx).of_returns hr).2 hxsize
    · intro front x between y rear key v hlog hr hd
      rw [show s.stages (.new maxSize) = _ from hlog] at hcourse
      have hfound : y.before.find? key = some v := hcourse.find?_between hsize hr hd
      have hy : y.Step := hcourse.split.2.1
      refine ⟨?_, ?_⟩
      · intro hc
        obtain ⟨hincident, hafter⟩ := hy.found_of_calls hfound hc
        refine ⟨hincident, fun compile => ?_⟩
        rw [Cache.getOrCompile_of_found hfound, hafter]
      · intro n value answer hreturned
        exact discarded hsize hlog hfound hreturned
  · rintro rfl x hx key v hr
    exact issues_of_size_zero hx hr

/-- A look-up of `a` whose compile function looks up `a` itself. -/
def lookUpInside : Session Nat :=
  .get ['a'] (.get ['a'] (.finish (.ok 1)) fun _ => .finish (.ok 2)) fun _ => .finish (.ok 0)

/-- The object made inside is the one that both calls return. -/
theorem one_object_inside :
    let inner : Stage Nat :=
      ⟨⟨1, [], [], 0, 2⟩, .returned ['a'] 2 (.ok 1) (.ok ⟨1, 2⟩),
        ⟨1, [(['a'], ⟨1, 2⟩)], [['a']], 0, 2⟩, []⟩
    let outer : Stage Nat :=
      ⟨⟨1, [(['a'], ⟨1, 2⟩)], [['a']], 0, 2⟩, .returned ['a'] 1 (.ok 2) (.ok ⟨1, 2⟩),
        ⟨1, [(['a'], ⟨1, 2⟩)], [['a']], 0, 2⟩, []⟩
    inner ∈ lookUpInside.stages (.new 1) ∧ outer ∈ lookUpInside.stages (.new 1) ∧
      ∀ z ∈ lookUpInside.stages (.new 1), ∀ k,
        (k, ⟨2, 1⟩) ∉ z.after.entries ∧ ¬ z.Returns k ⟨2, 1⟩ := by
  intro inner outer
  have hlog : lookUpInside.stages (.new 1) =
      (lookUpInside.stages (.new 1)).take 2 ++ inner :: [] ++ outer :: [] := rfl
  obtain ⟨-, -, -, hkept, -⟩ := one_object_per_key 1 lookUpInside
  obtain ⟨-, hlater⟩ := hkept Nat.one_pos
  obtain ⟨-, houter⟩ := hlater _ inner [] outer [] ['a'] ⟨1, 2⟩ hlog (.inr ⟨2, _, rfl⟩) (by simp)
  refine ⟨?_, ?_, (houter 1 2 _ rfl).2.2⟩
  · rw [hlog]
    simp
  · rw [hlog]
    simp

end Session

end PatternLoom
