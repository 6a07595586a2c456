import Mathlib.Data.List.Pairwise
import PatternLoom.Proofs.Cache.Coherence
import PatternLoom.Proofs.Cache.Session

/-!
# The stages of a session

A run of a session is written down stage by stage: a look-up that finds its entry, a look-up that
misses and starts to compile, its return after that, and an emptying. The stages inside a compile
function stand between the miss and the return of the call around them. Each stage ends with the cache
the next one starts from, and there are only a few things it can do to a cache.
-/

namespace PatternLoom

set_option autoImplicit false

variable {α : Type}

namespace Event

def compiling (key : Text) : Event :=
  ⟨.debug, "compiling pattern", [("pattern", String.ofList key)]⟩

def evicting (key : Text) : Event :=
  ⟨.debug, "evicting compiled pattern", [("pattern", String.ofList key)]⟩

end Event

/-- What happens at a stage. A call that misses is told from the others by its serial. -/
inductive Incident (α : Type) where
  | found (key : Text) (answer : Except PatternError (Compiled α))
  | missed (key : Text) (serial : Nat)
  /-- A call returns, after its compile function has been run and has made something. -/
  | returned (key : Text) (serial : Nat) (made : Except PatternError α)
      (answer : Except PatternError (Compiled α))
  | cleared

structure Stage (α : Type) where
  before : Cache α
  incident : Incident α
  after : Cache α
  events : List Event

/-- The stages of a run, those of the compile functions included. -/
def Session.stages : Session α → Cache α → List (Stage α)
  | finish _, _ => []
  | get key compile next, c =>
    let call := c.getOrCompile key compile.run
    let made := compile.run c.miss
    let serial := c.miss.misses
    (if c.contains key then [⟨c, .found key call.result, call.cache, call.events⟩]
      else ⟨c, .missed key serial, c.miss, [.compiling key]⟩ :: compile.stages c.miss ++
        [⟨made.cache, .returned key serial made.result call.result, call.cache,
          call.events.drop (made.events.length + 1)⟩]) ++
      (next call.result).stages call.cache
  | contains key next, c => (next (c.contains key)).stages c
  | clear next, c => ⟨c, .cleared, c.clear, []⟩ :: next.stages c.clear

namespace Stage

def Returns (x : Stage α) (key : Text) (v : Compiled α) : Prop :=
  x.incident = .found key (.ok v) ∨ ∃ n made, x.incident = .returned key n made (.ok v)

def Calls (x : Stage α) (key : Text) : Prop :=
  (∃ answer, x.incident = .found key answer) ∨ ∃ n, x.incident = .missed key n

def Drops (x : Stage α) (key : Text) : Prop := x.incident = .cleared ∨ .evicting key ∈ x.events

/-- The serial of the call that begins to compile. -/
def opens? (x : Stage α) : Option Nat :=
  match x.incident with
  | .missed _ n => some n
  | _ => none

/-- The serial of the call that returns from compiling. -/
def closes? (x : Stage α) : Option Nat :=
  match x.incident with
  | .returned _ n _ _ => some n
  | _ => none

/-- All that a stage can be. -/
inductive Step : Stage α → Prop
  | found {c : Cache α} {key : Text} {v : Compiled α} (h : c.find? key = some v) :
      Step ⟨c, .found key (.ok v), { c.touch key with hits := c.hits + 1 }, []⟩
  | missed {c : Cache α} {key : Text} (h : c.find? key = none) :
      Step ⟨c, .missed key c.miss.misses, c.miss, [.compiling key]⟩
  | failed {c : Cache α} {key : Text} {n : Nat} {e : PatternError} :
      Step ⟨c, .returned key n (.error e) (.error e), c, []⟩
  /-- The cache keeps nothing. -/
  | passed {c : Cache α} {key : Text} {n : Nat} {value : α} (h : c.maxSize = 0) :
      Step ⟨c, .returned key n (.ok value) (.ok ⟨value, n⟩), c, []⟩
  /-- The key has got an entry while the compile function was running. -/
  | yielded {c : Cache α} {key : Text} {n : Nat} {value : α} {v : Compiled α}
      (hsize : c.maxSize ≠ 0) (h : c.find? key = some v) :
      Step ⟨c, .returned key n (.ok value) (.ok v), c.touch key, []⟩
  | kept {c : Cache α} {key : Text} {n : Nat} {value : α}
      (hsize : c.maxSize ≠ 0) (h : c.find? key = none) :
      Step ⟨c, .returned key n (.ok value) (.ok ⟨value, n⟩), (c.insert key ⟨value, n⟩).1,
        (c.insert key ⟨value, n⟩).2⟩
  | cleared {c : Cache α} : Step ⟨c, .cleared, c.clear, []⟩

end Stage

/-- The stages follow each other from the first cache to the last one, each of them a step. -/
def Course : Cache α → List (Stage α) → Cache α → Prop
  | c, [], d => c = d
  | c, x :: log, d => x.before = c ∧ x.Step ∧ Course x.after log d

namespace Course

theorem append {c b d : Cache α} {front rear : List (Stage α)} (hf : Course c front b)
    (hr : Course b rear d) : Course c (front ++ rear) d := by
  induction front generalizing c with
  | nil =>
    have hc : c = b := hf
    rw [hc]
    exact hr
  | cons x front ih => exact ⟨hf.1, hf.2.1, ih hf.2.2⟩

theorem split {c d : Cache α} {front rear : List (Stage α)} {x : Stage α}
    (h : Course c (front ++ x :: rear) d) :
    Course c front x.before ∧ x.Step ∧ Course x.after rear d := by
  induction front generalizing c with
  | nil => exact ⟨h.1.symm, h.2⟩
  | cons y front ih =>
    obtain ⟨hf, hr⟩ := ih h.2.2
    exact ⟨⟨h.1, h.2.1, hf⟩, hr⟩

theorem step_of_mem {c d : Cache α} {log : List (Stage α)} {x : Stage α} (h : Course c log d)
    (hx : x ∈ log) : x.Step := by
  obtain ⟨front, rear, rfl⟩ := List.append_of_mem hx
  exact h.split.2.1

/-- What every stage keeps holds all along a course. -/
theorem invariant {P : Cache α → Prop} {c d : Cache α} {log : List (Stage α)} (h : Course c log d)
    (hstep : ∀ x ∈ log, x.Step → P x.before → P x.after) (hc : P c) : P d := by
  induction log generalizing c with
  | nil =>
    have hd : c = d := h
    rw [← hd]
    exact hc
  | cons x log ih =>
    obtain ⟨rfl, hx, hrest⟩ := h
    exact ih hrest (fun y hy => hstep y (List.mem_cons_of_mem x hy))
      (hstep x List.mem_cons_self hx hc)

end Course

namespace Cache

theorem getOrCompile_eq_of_failed {c : Cache α} {key : Text} {compile : Cache α → CacheRun α α}
    {e : PatternError} (h : c.find? key = none) (hc : (compile c.miss).result = .error e) :
    c.getOrCompile key compile =
      { result := .error e, cache := (compile c.miss).cache,
        events := .compiling key :: (compile c.miss).events } := by
  simp [getOrCompile, lookUp?, h, hc, Event.compiling]

theorem getOrCompile_eq_of_compiled {c : Cache α} {key : Text} {compile : Cache α → CacheRun α α}
    {value : α} (h : c.find? key = none) (hc : (compile c.miss).result = .ok value) :
    let settled := (compile c.miss).cache.settle key ⟨value, c.miss.misses⟩
    c.getOrCompile key compile =
      { result := .ok settled.1, cache := settled.2.1,
        events := .compiling key :: (compile c.miss).events ++ settled.2.2 } := by
  simp [getOrCompile, lookUp?, h, hc, Event.compiling]

theorem contains_of_find? {c : Cache α} {key : Text} {v : Compiled α} (h : c.find? key = some v) :
    c.contains key = true := by
  rw [contains, h]
  rfl

theorem not_contains_of_find? {c : Cache α} {key : Text} (h : c.find? key = none) :
    ¬ c.contains key = true := by
  rw [contains, h]
  exact Bool.false_ne_true

theorem settle_of_size_zero {c : Cache α} {key : Text} {fresh : Compiled α} (h : c.maxSize = 0) :
    c.settle key fresh = (fresh, c, []) := by
  rw [settle, if_pos h]

theorem settle_of_found {c : Cache α} {key : Text} {fresh v : Compiled α} (hsize : c.maxSize ≠ 0)
    (h : c.find? key = some v) : c.settle key fresh = (v, c.touch key, []) := by
  rw [settle, if_neg hsize, h]

theorem settle_of_absent {c : Cache α} {key : Text} {fresh : Compiled α} (hsize : c.maxSize ≠ 0)
    (h : c.find? key = none) : c.settle key fresh = (fresh, c.insert key fresh) := by
  rw [settle, if_neg hsize, h]

/-- The return of a call that has compiled is a step from the cache its compile function left. -/
theorem step_of_settle (c : Cache α) (key : Text) (n : Nat) (value : α) :
    let settled := c.settle key ⟨value, n⟩
    Stage.Step ⟨c, .returned key n (.ok value) (.ok settled.1), settled.2.1, settled.2.2⟩ := by
  intro settled
  by_cases hsize : c.maxSize = 0
  · rw [show settled = _ from settle_of_size_zero hsize]
    exact .passed hsize
  · cases h : c.find? key with
    | some v =>
      rw [show settled = _ from settle_of_found hsize h]
      exact .yielded hsize h
    | none =>
      rw [show settled = _ from settle_of_absent hsize h]
      exact .kept hsize h

/-- The return of a call that has missed, whatever its compile function has made. -/
theorem step_of_missed {c : Cache α} {key : Text} (h : c.find? key = none)
    (compile : Cache α → CacheRun α α) :
    let made := compile c.miss
    let call := c.getOrCompile key compile
    Stage.Step ⟨made.cache, .returned key c.miss.misses made.result call.result, call.cache,
        call.events.drop (made.events.length + 1)⟩ ∧
      call.events =
        .compiling key :: made.events ++ call.events.drop (made.events.length + 1) := by
  intro made call
  cases hout : made.result with
  | error e =>
    have hcall : call = ⟨.error e, made.cache, .compiling key :: made.events⟩ :=
      getOrCompile_eq_of_failed h hout
    rw [hcall]
    simpa using .failed
  | ok value =>
    let settled := made.cache.settle key ⟨value, c.miss.misses⟩
    have hcall : call =
        ⟨.ok settled.1, settled.2.1, .compiling key :: made.events ++ settled.2.2⟩ :=
      getOrCompile_eq_of_compiled h hout
    have hdrop : (.compiling key :: made.events ++ settled.2.2).drop (made.events.length + 1) =
        settled.2.2 := by
      rw [← List.length_cons (a := .compiling key), List.drop_left]
    rw [hcall, hdrop]
    exact ⟨step_of_settle made.cache key c.miss.misses value, rfl⟩

end Cache

namespace Session

/-- The stages of a run lead from its first cache to its last one, and their events are its events. -/
theorem course (s : Session α) (c : Cache α) :
    Course c (s.stages c) (s.run c).cache ∧
      (s.run c).events = (s.stages c).flatMap Stage.events := by
  induction s generalizing c with
  | finish outcome => exact ⟨rfl, rfl⟩
  | get key compile next ihc ihn =>
    obtain ⟨hrest, hevents⟩ :=
      ihn (c.getOrCompile key compile.run).result (c.getOrCompile key compile.run).cache
    cases hfound : c.find? key with
    | some v =>
      have hcall := Cache.getOrCompile_of_found hfound compile.run
      rw [run, stages, if_pos (Cache.contains_of_find? hfound)]
      refine ⟨⟨rfl, ?_, hrest⟩, ?_⟩
      · rw [hcall]
        exact .found hfound
      · simp only [List.singleton_append, List.flatMap_cons, ← hevents]
    | none =>
      obtain ⟨hreturn, hsplit⟩ := Cache.step_of_missed hfound compile.run
      obtain ⟨hinner, hinnerEvents⟩ := ihc c.miss
      rw [run, stages, if_neg (Cache.not_contains_of_find? hfound)]
      refine ⟨?_, ?_⟩
      · exact Course.append ⟨rfl, .missed hfound, hinner.append ⟨rfl, hreturn, rfl⟩⟩ hrest
      · simp only [List.flatMap_append, List.flatMap_cons, List.flatMap_nil, List.append_nil,
          ← hevents, ← hinnerEvents]
        conv_lhs => rw [hsplit]
        simp only [List.cons_append, List.nil_append]
  | contains key next ih => exact ih (c.contains key) c
  | clear next ih => exact ⟨⟨rfl, .cleared, (ih c.clear).1⟩, (ih c.clear).2⟩

/-- The calls that return from compiling are those that have begun to compile, each of them once. -/
theorem closes_perm_opens (s : Session α) (c : Cache α) :
    ((s.stages c).filterMap Stage.closes?).Perm ((s.stages c).filterMap Stage.opens?) := by
  induction s generalizing c with
  | finish outcome => exact .nil
  | get key compile next ihc ihn =>
    have hrest :=
      ihn (c.getOrCompile key compile.run).result (c.getOrCompile key compile.run).cache
    rw [stages, List.filterMap_append, List.filterMap_append]
    refine List.Perm.append ?_ hrest
    split
    · exact .nil
    · simp only [List.filterMap_append, List.cons_append, List.filterMap_cons, Stage.closes?,
        Stage.opens?, List.filterMap_nil, List.append_nil]
      exact (List.perm_append_singleton _ _).trans ((ihc c.miss).cons _)
  | contains key next ih => exact ih (c.contains key) c
  | clear next ih => exact ih c.clear

end Session

end PatternLoom
