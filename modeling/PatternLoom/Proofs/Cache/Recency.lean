import Mathlib.Data.List.Dedup
import Mathlib.Data.List.DropRight
import PatternLoom.Proofs.Cache.Coherence
import PatternLoom.Proofs.Cache.Session

/-!
# The keys used last

The order of a cache is read off the history of a run: it holds the keys used most recently since the
cache was last emptied, as many as fit, the one used longest ago first. This holds at every moment of
every session.
-/

namespace PatternLoom

set_option autoImplicit false

variable {α : Type}

/-- The keys of all uses since the cache was last emptied, in the order of the uses. -/
def keysUsed (marks : List Mark) : List Text :=
  marks.foldl (fun keys mark => match mark with
    | .used key => keys ++ [key]
    | .cleared => []) []

/-- The last `n` distinct keys of a list of uses, in the order of their last uses. -/
def lastDistinct (n : Nat) (keys : List Text) : List Text := keys.dedup.rtake n

@[simp] theorem keysUsed_nil : keysUsed [] = [] := rfl

@[simp] theorem keysUsed_used (marks : List Mark) (key : Text) :
    keysUsed (marks ++ [.used key]) = keysUsed marks ++ [key] := by
  simp [keysUsed]

@[simp] theorem keysUsed_cleared (marks : List Mark) : keysUsed (marks ++ [.cleared]) = [] := by
  simp [keysUsed]

theorem dedup_concat (keys : List Text) (key : Text) :
    (keys ++ [key]).dedup = keys.dedup.erase key ++ [key] := by
  induction keys with
  | nil => rfl
  | cons k keys ih =>
    rw [List.cons_append, List.dedup_cons, List.dedup_cons, ih]
    by_cases hk : k ∈ keys
    · rw [if_pos (List.mem_append_left _ hk), if_pos hk]
    · rw [if_neg hk]
      by_cases heq : k = key
      · subst k
        have herase : keys.dedup.erase key = keys.dedup :=
          List.erase_of_not_mem (by rwa [List.mem_dedup])
        rw [if_pos (by simp), List.erase_cons_head, herase]
      · rw [if_neg (by simp [hk, heq]), List.erase_cons_tail (by simpa using heq)]
        rfl

theorem rtake_append_of_length_le {n : Nat} {front rear : List Text}
    (h : n ≤ rear.length) : (front ++ rear).rtake n = rear.drop (rear.length - n) := by
  rw [List.rtake, List.length_append,
    show front.length + rear.length - n = front.length + (rear.length - n) by omega,
    List.drop_length_add_append]

/-- A list ends in its last elements, and these are fewer than asked for only if they are all. -/
theorem exists_append_rtake (n : Nat) (keys : List Text) :
    ∃ front, keys = front ++ keys.rtake n ∧ (keys.rtake n).length ≤ n ∧
      ((keys.rtake n).length < n → front = []) := by
  refine ⟨keys.take (keys.length - n), (List.take_append_drop _ _).symm, ?_, ?_⟩
  · rw [List.rtake, List.length_drop]
    omega
  · intro h
    rw [List.rtake, List.length_drop] at h
    rw [show keys.length - n = 0 by omega, List.take_zero]

/-- A key used again moves to the end. -/
theorem lastDistinct_concat_of_mem {n : Nat} {keys : List Text} {key : Text}
    (h : key ∈ lastDistinct n keys) :
    lastDistinct n (keys ++ [key]) = (lastDistinct n keys).erase key ++ [key] := by
  obtain ⟨front, hsplit, hle, hshort⟩ := exists_append_rtake n keys.dedup
  cases n with
  | zero => simp [lastDistinct] at h
  | succ n =>
    unfold lastDistinct at h ⊢
    rw [dedup_concat, List.rtake_concat_succ]
    congr 1
    generalize keys.dedup.rtake (n + 1) = rear at h hsplit hle hshort ⊢
    have hnodup : (front ++ rear).Nodup := hsplit ▸ List.nodup_dedup keys
    have hfront : key ∉ front := fun hf => (List.nodup_append.mp hnodup).2.2 key hf key h rfl
    have hlen : (rear.erase key).length = rear.length - 1 := List.length_erase_of_mem h
    rw [hsplit, List.erase_append_right _ hfront]
    by_cases hfull : rear.length = n + 1
    · rw [rtake_append_of_length_le (by omega), hlen, hfull, Nat.add_sub_cancel, Nat.sub_self,
        List.drop_zero]
    · rw [hshort (by omega), List.nil_append, List.rtake, hlen,
        show rear.length - 1 - n = 0 by omega, List.drop_zero]

/-- A key used for the first time, or not recently, is put at the end; the one used longest ago goes
if there are too many then. -/
theorem lastDistinct_concat_of_not_mem {n : Nat} (hn : n ≠ 0) {keys : List Text} {key : Text}
    (h : key ∉ lastDistinct n keys) :
    lastDistinct n (keys ++ [key]) =
      (if n ≤ (lastDistinct n keys).length then (lastDistinct n keys).tail
        else lastDistinct n keys) ++ [key] := by
  obtain ⟨front, hsplit, hle, hshort⟩ := exists_append_rtake n keys.dedup
  obtain ⟨n, rfl⟩ := Nat.exists_eq_succ_of_ne_zero hn
  unfold lastDistinct at h ⊢
  rw [dedup_concat, Nat.succ_eq_add_one, List.rtake_concat_succ]
  congr 1
  rw [Nat.succ_eq_add_one] at h hsplit hle hshort
  generalize keys.dedup.rtake (n + 1) = rear at h hsplit hle hshort ⊢
  have herase : (front ++ rear).erase key = front.erase key ++ rear := by
    by_cases hf : key ∈ front
    · exact List.erase_append_left rear hf
    · rw [List.erase_append_right _ hf, List.erase_of_not_mem h, List.erase_of_not_mem hf]
  rw [hsplit, herase]
  by_cases hfull : n + 1 ≤ rear.length
  · rw [if_pos hfull, rtake_append_of_length_le (by omega),
      show rear.length - n = 1 by omega, List.drop_one]
  · rw [if_neg hfull, hshort (by omega), List.erase_nil, List.nil_append, List.rtake,
      show rear.length - n = 0 by omega, List.drop_zero]

theorem length_lastDistinct_le (n : Nat) (keys : List Text) : (lastDistinct n keys).length ≤ n := by
  obtain ⟨_, _, hle, _⟩ := exists_append_rtake n keys.dedup
  exact hle

namespace Cache

theorem order_evict (c : Cache α) :
    c.evict.1.order = if c.maxSize ≤ c.size then c.order.tail else c.order := by
  unfold evict
  split
  · split
    · rename_i ho
      rw [ho]
      rfl
    · rename_i oldest rest ho
      rw [ho]
      rfl
  · rfl

theorem order_insert (c : Cache α) (key : Text) (v : Compiled α) :
    (c.insert key v).1.order =
      (if c.maxSize ≤ c.size then c.order.tail else c.order) ++ [key] := by
  rw [← order_evict]
  rfl

end Cache

/-- The cache of a moment has its size, is coherent, and its order is that of the last uses. -/
structure Moment.Recent (maxSize : Nat) (m : Moment α) : Prop where
  capacity : m.cache.maxSize = maxSize
  coherent : m.cache.Coherent
  order_eq : m.cache.order = lastDistinct maxSize (keysUsed m.marks)

namespace Moment.Recent

variable {maxSize : Nat} {m : Moment α}

theorem start (maxSize : Nat) : (⟨[], .new maxSize⟩ : Moment α).Recent maxSize := by
  refine ⟨rfl, .new maxSize, ?_⟩
  simp [lastDistinct, Cache.new]

theorem miss (h : m.Recent maxSize) : (⟨m.marks, m.cache.miss⟩ : Moment α).Recent maxSize :=
  ⟨h.capacity, ⟨h.coherent.perm, h.coherent.nodup⟩, h.order_eq⟩

theorem clear (h : m.Recent maxSize) :
    (⟨m.marks ++ [.cleared], m.cache.clear⟩ : Moment α).Recent maxSize := by
  refine ⟨h.capacity, .clear m.cache, ?_⟩
  simp [lastDistinct, Cache.clear]

theorem touch (h : m.Recent maxSize) {key : Text} (hk : key ∈ m.cache.keys) :
    (⟨m.marks ++ [.used key], m.cache.touch key⟩ : Moment α).Recent maxSize := by
  have ho : key ∈ m.cache.order := h.coherent.mem_order_iff.mpr hk
  refine ⟨(Cache.maxSize_touch ..).trans h.capacity, h.coherent.touch, ?_⟩
  have horder : (m.cache.touch key).order = m.cache.order.erase key ++ [key] := by
    rw [Cache.touch, if_pos ho]
  rw [h.order_eq] at ho
  rw [keysUsed_used, lastDistinct_concat_of_mem ho, horder, h.order_eq]

/-- Settling a fresh object is a use of its key, whether the object is kept, gives way to an entry
made in the meantime, or finds a cache that keeps nothing. -/
theorem settle (h : m.Recent maxSize) (key : Text) (fresh : Compiled α) :
    (⟨m.marks ++ [.used key], (m.cache.settle key fresh).2.1⟩ : Moment α).Recent maxSize := by
  refine ⟨(Cache.maxSize_settle ..).trans h.capacity, h.coherent.settle key fresh, ?_⟩
  by_cases hzero : m.cache.maxSize = 0
  -- a cache of size zero keeps nothing
  · have hnone : m.cache.settle key fresh = (fresh, m.cache, []) := by
      rw [Cache.settle, if_pos hzero]
    rw [hnone, h.order_eq, ← h.capacity, hzero]
    simp [lastDistinct]
  -- a nested request may have cached the key while the compile function was running
  cases hfound : m.cache.find? key with
  | some v =>
    have hv : m.cache.settle key fresh = (v, m.cache.touch key, []) := by
      rw [Cache.settle, if_neg hzero, hfound]
    rw [hv]
    exact (h.touch (Cache.mem_keys_of_find? hfound)).order_eq
  | none =>
    have hv : m.cache.settle key fresh = (fresh, m.cache.insert key fresh) := by
      rw [Cache.settle, if_neg hzero, hfound]
    have hk : key ∉ m.cache.keys := (Cache.find?_eq_none_iff ..).mp hfound
    have ho : key ∉ lastDistinct maxSize (keysUsed m.marks) := by
      rw [← h.order_eq, h.coherent.mem_order_iff]
      exact hk
    rw [hv, keysUsed_used, lastDistinct_concat_of_not_mem (h.capacity ▸ hzero) ho, Cache.order_insert,
      h.capacity, ← h.coherent.length_order, h.order_eq]

end Moment.Recent

namespace Session

/-- From a moment at which the order is that of the last uses, every moment of a run is one. The
induction follows the requests; the moments inside a compile function are those of a session of its
own, and at its last one the waiting look-up goes on. -/
theorem recent_of_mem_moments {maxSize : Nat} (s : Session α) :
    ∀ {m d : Moment α}, m.Recent maxSize → d ∈ s.moments m → d.Recent maxSize := by
  induction s with
  | finish outcome =>
    intro m d hm hd
    exact List.mem_singleton.mp hd ▸ hm
  | get key compile next ihc ihn =>
    intro m d hm hd
    simp only [moments, List.mem_append, List.mem_cons] at hd
    cases hfound : m.cache.find? key with
    | some v =>
      have hc : m.cache.contains key = true := by rw [Cache.contains, hfound]; rfl
      rw [Cache.getOrCompile_of_found hfound, if_pos hc, if_pos hc] at hd
      rcases hd with (rfl | hd) | hd
      · exact hm
      · exact absurd hd List.not_mem_nil
      · have ht := hm.touch (Cache.mem_keys_of_find? hfound)
        refine ihn (.ok v) ?_ hd
        rw [List.append_nil]
        exact ⟨ht.capacity, ⟨ht.coherent.perm, ht.coherent.nodup⟩, ht.order_eq⟩
    | none =>
      have hc : ¬ m.cache.contains key = true := by rw [Cache.contains, hfound]; simp
      rw [if_neg hc, if_neg hc] at hd
      have hlast : (⟨m.marks ++ compile.marks m.cache.miss, (compile.run m.cache.miss).cache⟩ :
          Moment α).Recent maxSize :=
        ihc hm.miss (last_mem_moments compile ⟨m.marks, m.cache.miss⟩)
      rcases hd with (rfl | hd) | hd
      · exact hm
      · exact ihc hm.miss hd
      · refine ihn _ ?_ hd
        cases hout : (compile.run m.cache.miss).result with
        | error e =>
          obtain ⟨hr, hcache⟩ := Cache.getOrCompile_of_failed hfound hout
          rw [hr, hcache, Mark.ofAnswer, List.append_nil]
          exact hlast
        | ok value =>
          obtain ⟨hr, hcache⟩ := Cache.getOrCompile_of_compiled hfound hout
          rw [hr, hcache]
          exact hlast.settle key _
  | contains key next ih =>
    intro m d hm hd
    rcases List.mem_cons.mp hd with rfl | hd
    · exact hm
    · exact ih _ hm hd
  | clear next ih =>
    intro m d hm hd
    rcases List.mem_cons.mp hd with rfl | hd
    · exact hm
    · exact ih hm.clear hd

/-- At every moment of every session with a new cache, also while compile functions are running, the
order lists the keys of all entries, each once, there are no more than fit, and they are the ones used
last since the cache was last emptied. -/
theorem order_eq_lastDistinct (maxSize : Nat) (s : Session α) (m : Moment α)
    (hm : m ∈ s.moments ⟨[], .new maxSize⟩) :
    m.cache.order.Perm m.cache.keys ∧ m.cache.order.Nodup ∧ m.cache.size ≤ maxSize ∧
      m.cache.order = lastDistinct maxSize (keysUsed m.marks) := by
  have h := s.recent_of_mem_moments (.start maxSize) hm
  refine ⟨h.coherent.perm.symm, h.coherent.nodup, ?_, h.order_eq⟩
  rw [← h.coherent.length_order, h.order_eq]
  exact length_lastDistinct_le maxSize _

/-- A look-up of `a` whose compile function looks up `b` and then `a`, and fails in the end. -/
def nestedLookUps : Session Nat :=
  .get ['a'] (.get ['b'] (.finish (.ok 1)) fun _ => .get ['a'] (.finish (.ok 2)) fun _ =>
    .finish (.error (.malformed ['a']))) fun _ => .finish (.ok 0)

/-- While the outer compile function is running, `b` is in the cache. -/
theorem order_while_compiling :
    let m : Moment Nat := ⟨[.used ['b']], ⟨1, [(['b'], ⟨1, 2⟩)], [['b']], 0, 2⟩⟩
    m ∈ nestedLookUps.moments ⟨[], .new 1⟩ ∧ m.cache.order.Perm m.cache.keys ∧
      m.cache.order.Nodup ∧ m.cache.size ≤ 1 ∧
      m.cache.order = lastDistinct 1 (keysUsed m.marks) := by
  intro m
  have hm : m ∈ nestedLookUps.moments ⟨[], .new 1⟩ := by
    refine List.mem_of_getElem? (i := 3) ?_
    rfl
  exact ⟨hm, order_eq_lastDistinct 1 nestedLookUps m hm⟩

end Session

end PatternLoom
