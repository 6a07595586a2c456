import PatternLoom.Proofs.Cache.Identity
import PatternLoom.Proofs.Cache.Recency

/-!
# Larger caches

Two caches are asked the same, and their compile functions leave them alone. Whether a look-up succeeds
depends on its key alone then, so both caches have the same history of uses, from which their orders
are read off. The order of the smaller cache is the end of the order of the larger one; the larger one
never misses where the smaller one does not.
-/

namespace PatternLoom

set_option autoImplicit false

variable {α : Type}

theorem lastDistinct_suffix {n m : Nat} (h : n ≤ m) (keys : List Text) :
    lastDistinct n keys <:+ lastDistinct m keys := by
  have hdrop : lastDistinct n keys =
      (lastDistinct m keys).drop (keys.dedup.length - n - (keys.dedup.length - m)) := by
    rw [lastDistinct, lastDistinct, List.rtake, List.rtake, List.drop_drop]
    congr 1
    omega
  rw [hdrop]
  exact List.drop_suffix _ _

namespace Cache

inductive Call where
  | get (key : Text)
  | clear
deriving DecidableEq, Repr

section

variable (outcome : Text → Except PatternError α)

/-- A compile function whose outcome depends on the key, and which leaves the cache alone. -/
def compileBy (key : Text) (c : Cache α) : CacheRun α α := { result := outcome key, cache := c }

def answer (c : Cache α) (key : Text) : Except PatternError (Compiled α) :=
  (c.getOrCompile key (compileBy outcome key)).result

def respond (c : Cache α) : Call → Cache α
  | .get key => (c.getOrCompile key (compileBy outcome key)).cache
  | .clear => c.clear

def after (c : Cache α) (calls : List Call) : Cache α := calls.foldl (respond outcome) c

/-- The marks that a call leaves, whatever the cache is. -/
def Call.marks : Call → List Mark
  | .get key => if (outcome key).isOk then [.used key] else []
  | .clear => [.cleared]

/-- A cache of some size after calls that have left marks. Its order is that of the last uses, and its
entries are the outcomes of their keys. -/
structure Traces (maxSize : Nat) (marks : List Mark) (c : Cache α) : Prop where
  recent : (⟨marks, c⟩ : Moment α).Recent maxSize
  faithful : ∀ e ∈ c.entries, outcome e.1 = .ok e.2.value

end

variable {outcome : Text → Except PatternError α}

theorem respond_get_of_found {c : Cache α} {key : Text} {v : Compiled α} (h : c.find? key = some v) :
    c.answer outcome key = .ok v ∧
      c.respond outcome (.get key) = { c.touch key with hits := c.hits + 1 } := by
  rw [answer, respond, getOrCompile_of_found h]
  exact ⟨rfl, rfl⟩

theorem respond_get_of_failed {c : Cache α} {key : Text} {err : PatternError}
    (h : c.find? key = none) (hout : outcome key = .error err) :
    c.answer outcome key = .error err ∧ c.respond outcome (.get key) = c.miss := by
  rw [answer, respond]
  exact getOrCompile_of_failed h hout

theorem respond_get_of_compiled {c : Cache α} {key : Text} {value : α} (h : c.find? key = none)
    (hout : outcome key = .ok value) :
    let settled := c.miss.settle key ⟨value, c.miss.misses⟩
    c.answer outcome key = .ok settled.1 ∧ c.respond outcome (.get key) = settled.2.1 := by
  rw [answer, respond]
  exact getOrCompile_of_compiled h hout

variable (outcome) in
/-- A look-up counts a hit if its key has an entry, and else a miss. -/
theorem counts_respond_get (c : Cache α) (key : Text) :
    (c.contains key = true → (c.respond outcome (.get key)).hits = c.hits + 1 ∧
      (c.respond outcome (.get key)).misses = c.misses) ∧
    (c.contains key = false → (c.respond outcome (.get key)).hits = c.hits ∧
      (c.respond outcome (.get key)).misses = c.misses + 1) := by
  cases hfound : c.find? key with
  | some v =>
    rw [contains_of_find? hfound, (respond_get_of_found hfound).2]
    exact ⟨fun _ => ⟨rfl, misses_touch c key⟩, nofun⟩
  | none =>
    refine ⟨fun h => absurd h (not_contains_of_find? hfound), fun _ => ?_⟩
    cases hout : outcome key with
    | error err =>
      rw [(respond_get_of_failed hfound hout).2]
      exact ⟨rfl, rfl⟩
    | ok value =>
      rw [(respond_get_of_compiled hfound hout).2]
      exact ⟨hits_settle .., misses_settle ..⟩

namespace Traces

variable {maxSize : Nat} {marks : List Mark} {c : Cache α}

variable (outcome) in
theorem new (maxSize : Nat) : Traces outcome maxSize [] (.new maxSize) where
  recent := .start maxSize
  faithful _ he := absurd he List.not_mem_nil

theorem contains_iff (h : Traces outcome maxSize marks c) (key : Text) :
    c.contains key = true ↔ key ∈ c.order := by
  rw [contains, find?_isSome_iff]
  exact h.recent.coherent.mem_order_iff.symm

theorem outcome_of_find? (h : Traces outcome maxSize marks c) {key : Text} {v : Compiled α}
    (hv : c.find? key = some v) : outcome key = .ok v.value :=
  h.faithful (key, v) (mem_entries_of_find? hv)

theorem value_answer (h : Traces outcome maxSize marks c) (key : Text) :
    (c.answer outcome key).map (·.value) = outcome key := by
  cases hfound : c.find? key with
  | some v =>
    rw [(respond_get_of_found hfound).1, h.outcome_of_find? hfound]
    rfl
  | none =>
    cases hout : outcome key with
    | error err =>
      rw [(respond_get_of_failed hfound hout).1]
      rfl
    | ok value =>
      rw [(respond_get_of_compiled hfound hout).1]
      rcases settle_fst c.miss key ⟨value, c.miss.misses⟩ with hold | hfresh
      · exact absurd (hfound.symm.trans hold) (by simp)
      · rw [hfresh]
        rfl

theorem respond_get (h : Traces outcome maxSize marks c) (key : Text) :
    Traces outcome maxSize (marks ++ (Call.get key).marks outcome)
      (c.respond outcome (.get key)) := by
  rw [Call.marks]
  cases hfound : c.find? key with
  | some v =>
    have htouch := h.recent.touch (mem_keys_of_find? hfound)
    rw [(respond_get_of_found hfound).2, h.outcome_of_find? hfound]
    refine ⟨⟨htouch.capacity, ⟨htouch.coherent.perm, htouch.coherent.nodup⟩, htouch.order_eq⟩, ?_⟩
    intro e he
    apply h.faithful e
    rwa [entries_touch] at he
  | none =>
    cases hout : outcome key with
    | error err =>
      rw [(respond_get_of_failed hfound hout).2]
      refine ⟨?_, h.faithful⟩
      simpa [Except.isOk, Except.toBool] using h.recent.miss
    | ok value =>
      rw [(respond_get_of_compiled hfound hout).2]
      refine ⟨h.recent.miss.settle key _, ?_⟩
      intro e he
      rcases mem_entries_settle he with hold | rfl
      · exact h.faithful e hold
      · exact hout

theorem respond (h : Traces outcome maxSize marks c) (call : Call) :
    Traces outcome maxSize (marks ++ call.marks outcome) (c.respond outcome call) := by
  cases call with
  | get key => exact h.respond_get key
  | clear => exact ⟨h.recent.clear, fun e he => absurd he List.not_mem_nil⟩

theorem after (h : Traces outcome maxSize marks c) (calls : List Call) :
    Traces outcome maxSize (marks ++ calls.flatMap (Call.marks outcome)) (c.after outcome calls) := by
  induction calls generalizing marks c with
  | nil => simpa [Cache.after] using h
  | cons call calls ih =>
    rw [List.flatMap_cons, ← List.append_assoc]
    exact ih (h.respond call)

end Traces

section

variable {n m : Nat} {marks : List Mark} {small large : Cache α}

/-- Caches with the same history. -/
theorem Traces.order_suffix (hle : n ≤ m) (hs : Traces outcome n marks small)
    (hl : Traces outcome m marks large) : small.order <:+ large.order := by
  rw [hs.recent.order_eq, hl.recent.order_eq]
  exact lastDistinct_suffix hle _

theorem Traces.contains_of_contains (hle : n ≤ m) (hs : Traces outcome n marks small)
    (hl : Traces outcome m marks large) {key : Text} (h : small.contains key = true) :
    large.contains key = true := by
  rw [hs.contains_iff] at h
  rw [hl.contains_iff]
  exact (hs.order_suffix hle hl).subset h

/-- One call. The larger cache may count a hit where the smaller one counts a miss, and not the other
way round. -/
theorem Traces.counts_respond (hle : n ≤ m) (hs : Traces outcome n marks small)
    (hl : Traces outcome m marks large) (hhits : small.hits ≤ large.hits)
    (hmisses : large.misses ≤ small.misses) (call : Call) :
    (small.respond outcome call).hits ≤ (large.respond outcome call).hits ∧
      (large.respond outcome call).misses ≤ (small.respond outcome call).misses := by
  cases call with
  | clear => exact ⟨hhits, hmisses⟩
  | get key =>
    obtain ⟨hfound, habsent⟩ := small.counts_respond_get outcome key
    obtain ⟨hfound', habsent'⟩ := large.counts_respond_get outcome key
    cases hsmall : small.contains key with
    | true =>
      have hlarge := hs.contains_of_contains hle hl hsmall
      have hcounts := hfound hsmall
      have hcounts' := hfound' hlarge
      omega
    | false =>
      have hcounts := habsent hsmall
      cases hlarge : large.contains key with
      | true =>
        have hcounts' := hfound' hlarge
        omega
      | false =>
        have hcounts' := habsent' hlarge
        omega

theorem Traces.counts_after (hle : n ≤ m) (hs : Traces outcome n marks small)
    (hl : Traces outcome m marks large) (hhits : small.hits ≤ large.hits)
    (hmisses : large.misses ≤ small.misses) (calls : List Call) :
    (small.after outcome calls).hits ≤ (large.after outcome calls).hits ∧
      (large.after outcome calls).misses ≤ (small.after outcome calls).misses := by
  induction calls generalizing marks small large with
  | nil => exact ⟨hhits, hmisses⟩
  | cons call calls ih =>
    obtain ⟨hhits', hmisses'⟩ := hs.counts_respond hle hl hhits hmisses call
    exact ih (hs.respond call) (hl.respond call) hhits' hmisses'

end

/-- Of two new caches that are asked the same, the larger one holds every key that the smaller one
holds, in the same order of their last uses, and has counted no fewer hits and no more misses. This
holds after any calls, and the next look-up gives the same value or the same error in both. -/
theorem larger_holds_all (outcome : Text → Except PatternError α) {n m : Nat} (hle : n ≤ m)
    (calls : List Call) :
    let small := (Cache.new n).after outcome calls
    let large := (Cache.new m).after outcome calls
    (∀ key, small.contains key = true → large.contains key = true) ∧
      (small.order.Perm small.keys ∧ large.order.Perm large.keys ∧ small.order <:+ large.order) ∧
      small.hits ≤ large.hits ∧ large.misses ≤ small.misses ∧
      ∀ key, (small.answer outcome key).map (·.value) = (large.answer outcome key).map (·.value) := by
  intro small large
  have hs := (Traces.new outcome n).after calls
  have hl := (Traces.new outcome m).after calls
  obtain ⟨hhits, hmisses⟩ := (Traces.new outcome n).counts_after hle (.new outcome m)
    (Nat.le_refl 0) (Nat.le_refl 0) calls
  refine ⟨?_, ?_, hhits, hmisses, ?_⟩
  · exact fun key => hs.contains_of_contains hle hl
  · exact ⟨hs.recent.coherent.perm.symm, hl.recent.coherent.perm.symm, hs.order_suffix hle hl⟩
  · intro key
    rw [hs.value_answer, hl.value_answer]

/-- Room for one key and room for two. The key that does not compile is kept by neither cache, and the
last look-up is a hit for the larger one alone. -/
theorem larger_holds_all_pair :
    let outcome : Text → Except PatternError Nat := fun key =>
      if key = ['x'] then .error (.malformed key) else .ok key.length
    let calls : List Call := [.get ['a'], .get ['b'], .get ['x'], .get ['a']]
    let small := (Cache.new 1).after outcome calls
    let large := (Cache.new 2).after outcome calls
    1 ≤ 2 ∧ small.order = [['a']] ∧ large.order = [['b'], ['a']] ∧ small.hits = 0 ∧ large.hits = 1 ∧
      (∀ key, small.contains key = true → large.contains key = true) ∧
      (small.order.Perm small.keys ∧ large.order.Perm large.keys ∧ small.order <:+ large.order) ∧
      small.hits ≤ large.hits ∧ large.misses ≤ small.misses ∧
      ∀ key, (small.answer outcome key).map (·.value) = (large.answer outcome key).map (·.value) := by
  intro outcome calls small large
  exact ⟨by decide, by decide, by decide, by decide, by decide,
    larger_holds_all outcome (n := 1) (m := 2) (by decide) calls⟩

end Cache

end PatternLoom
