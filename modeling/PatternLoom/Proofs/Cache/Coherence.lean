import Mathlib.Data.List.Nodup
import Mathlib.Data.List.Perm.Basic
import PatternLoom.Cache

/-!
# Entries and order of a cache

The entries of a cache and the order of its keys are kept apart. They are coherent when both hold the
same keys and none of them twice. Every operation keeps that.
-/

namespace PatternLoom.Cache

set_option autoImplicit false

variable {α : Type}

def keys (c : Cache α) : List Text := c.entries.map Prod.fst

/-- The entries and the order hold the same keys, each of them once. -/
structure Coherent (c : Cache α) : Prop where
  perm : c.keys.Perm c.order
  nodup : c.order.Nodup

theorem find?_isSome_iff (c : Cache α) (key : Text) : (c.find? key).isSome ↔ key ∈ c.keys := by
  rw [find?, keys, List.lookup_isSome_iff, List.mem_map]
  constructor
  · rintro ⟨e, he, hk⟩
    exact ⟨e, he, (beq_iff_eq.mp hk).symm⟩
  · rintro ⟨e, he, hk⟩
    exact ⟨e, he, beq_iff_eq.mpr hk.symm⟩

theorem find?_eq_none_iff (c : Cache α) (key : Text) : c.find? key = none ↔ key ∉ c.keys := by
  rw [← find?_isSome_iff, Option.not_isSome_iff_eq_none]

theorem mem_keys_of_find? {c : Cache α} {key : Text} {v : Compiled α} (h : c.find? key = some v) :
    key ∈ c.keys :=
  (find?_isSome_iff c key).mp (by rw [h]; rfl)

theorem length_keys (c : Cache α) : c.keys.length = c.size := by simp [keys, size]

@[simp] theorem entries_touch (c : Cache α) (key : Text) : (c.touch key).entries = c.entries := by
  unfold touch
  split <;> rfl

@[simp] theorem maxSize_touch (c : Cache α) (key : Text) : (c.touch key).maxSize = c.maxSize := by
  unfold touch
  split <;> rfl

@[simp] theorem maxSize_evict (c : Cache α) : c.evict.1.maxSize = c.maxSize := by
  unfold evict
  split
  · split <;> rfl
  · rfl

@[simp] theorem maxSize_insert (c : Cache α) (key : Text) (v : Compiled α) :
    (c.insert key v).1.maxSize = c.maxSize := maxSize_evict c

@[simp] theorem maxSize_settle (c : Cache α) (key : Text) (fresh : Compiled α) :
    (c.settle key fresh).2.1.maxSize = c.maxSize := by
  unfold settle
  split
  · rfl
  · split
    · exact maxSize_touch c key
    · exact maxSize_insert c key fresh

@[simp] theorem hits_touch (c : Cache α) (key : Text) : (c.touch key).hits = c.hits := by
  unfold touch
  split <;> rfl

@[simp] theorem misses_touch (c : Cache α) (key : Text) : (c.touch key).misses = c.misses := by
  unfold touch
  split <;> rfl

@[simp] theorem hits_evict (c : Cache α) : c.evict.1.hits = c.hits := by
  unfold evict
  split
  · split <;> rfl
  · rfl

@[simp] theorem misses_evict (c : Cache α) : c.evict.1.misses = c.misses := by
  unfold evict
  split
  · split <;> rfl
  · rfl

@[simp] theorem hits_settle (c : Cache α) (key : Text) (fresh : Compiled α) :
    (c.settle key fresh).2.1.hits = c.hits := by
  unfold settle
  split
  · rfl
  · split
    · exact hits_touch c key
    · exact hits_evict c

@[simp] theorem misses_settle (c : Cache α) (key : Text) (fresh : Compiled α) :
    (c.settle key fresh).2.1.misses = c.misses := by
  unfold settle
  split
  · rfl
  · split
    · exact misses_touch c key
    · exact misses_evict c

theorem map_fst_filter (entries : List (Text × Compiled α)) (key : Text) :
    (entries.filter (·.1 != key)).map Prod.fst = (entries.map Prod.fst).filter (· != key) := by
  rw [List.filter_map]
  rfl

theorem entries_evict_subset (c : Cache α) : c.evict.1.entries ⊆ c.entries := by
  unfold evict
  split
  · split
    · exact List.Subset.refl _
    · exact List.filter_subset_self _
  · exact List.Subset.refl _

/-- What is in a cache once a fresh object has been settled was there before, or is that object. -/
theorem mem_entries_settle {c : Cache α} {key : Text} {fresh : Compiled α} {e : Text × Compiled α}
    (h : e ∈ (c.settle key fresh).2.1.entries) : e ∈ c.entries ∨ e = (key, fresh) := by
  unfold settle at h
  split at h
  · exact Or.inl h
  · split at h
    · rw [entries_touch] at h
      exact Or.inl h
    · rcases List.mem_cons.mp h with h | h
      · exact Or.inr h
      · exact Or.inl (entries_evict_subset c (List.mem_of_mem_filter h))

/-- The object that is given out was in the cache under the key, or it is the fresh one. -/
theorem settle_fst (c : Cache α) (key : Text) (fresh : Compiled α) :
    c.find? key = some (c.settle key fresh).1 ∨ (c.settle key fresh).1 = fresh := by
  unfold settle
  split
  · exact Or.inr rfl
  · split
    · rename_i v hv
      exact Or.inl hv
    · exact Or.inr rfl

namespace Coherent

variable {c : Cache α} {key : Text}

theorem new (maxSize : Nat) : (Cache.new maxSize : Cache α).Coherent :=
  ⟨List.Perm.nil, List.nodup_nil⟩

theorem clear (c : Cache α) : c.clear.Coherent := ⟨List.Perm.nil, List.nodup_nil⟩

theorem mem_order_iff (h : c.Coherent) : key ∈ c.order ↔ key ∈ c.keys := h.perm.mem_iff.symm

theorem length_order (h : c.Coherent) : c.order.length = c.size :=
  h.perm.length_eq.symm.trans (length_keys c)

theorem touch (h : c.Coherent) : (c.touch key).Coherent := by
  by_cases hk : key ∈ c.order
  · have hp : (c.order.erase key ++ [key]).Perm c.order :=
      List.perm_append_singleton key _ |>.trans (List.perm_cons_erase hk).symm
    simp only [Cache.touch, if_pos hk]
    exact ⟨h.perm.trans hp.symm, hp.nodup_iff.mpr h.nodup⟩
  · simpa only [Cache.touch, if_neg hk] using h

theorem evict (h : c.Coherent) : c.evict.1.Coherent := by
  unfold Cache.evict
  split
  · split
    · exact h
    · rename_i oldest rest ho
      have hn : (oldest :: rest).Nodup := ho ▸ h.nodup
      have hk : c.keys.Nodup := h.perm.nodup_iff.mpr h.nodup
      refine ⟨?_, hn.of_cons⟩
      have he := (ho ▸ h.perm).erase oldest
      rw [List.erase_cons_head, hk.erase_eq_filter] at he
      rw [keys, map_fst_filter]
      exact he
  · exact h

theorem insert (h : c.Coherent) (hk : key ∉ c.keys) (v : Compiled α) :
    (c.insert key v).1.Coherent := by
  have he := h.evict
  have hnew : key ∉ c.evict.1.keys := fun hm =>
    hk (List.map_subset Prod.fst (entries_evict_subset c) hm)
  have hall : c.evict.1.keys.filter (· != key) = c.evict.1.keys := by
    apply List.filter_eq_self.mpr
    intro k hm
    exact bne_iff_ne.mpr fun heq => hnew (heq ▸ hm)
  have hp : (c.insert key v).1.keys.Perm (c.evict.1.order ++ [key]) := by
    have hkeys : (c.insert key v).1.keys = key :: c.evict.1.keys := by
      change key :: (c.evict.1.entries.filter (·.1 != key)).map Prod.fst = _
      rw [map_fst_filter]
      exact congrArg (key :: ·) hall
    rw [hkeys]
    exact (he.perm.cons key).trans (List.perm_append_singleton key _).symm
  refine ⟨hp, ?_⟩
  change (c.evict.1.order ++ [key]).Nodup
  rw [List.nodup_append]
  refine ⟨he.nodup, List.nodup_singleton key, ?_⟩
  intro a ha b hb
  rw [List.mem_singleton.mp hb]
  rintro rfl
  exact hnew (he.mem_order_iff.mp ha)

theorem settle (h : c.Coherent) (key : Text) (fresh : Compiled α) :
    (c.settle key fresh).2.1.Coherent := by
  unfold Cache.settle
  split
  · exact h
  · split
    · exact h.touch
    · rename_i hnone
      exact h.insert ((find?_eq_none_iff c key).mp hnone) fresh

end Coherent

end PatternLoom.Cache
