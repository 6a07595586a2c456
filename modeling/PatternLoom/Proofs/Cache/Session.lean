import PatternLoom.Cache

/-!
# Sessions with a cache

A session is a finite course of requests to one cache, in which every answer may decide how it goes
on. What a compile function does to the cache is a session of its own, so requests nest to any depth.
A run passes through moments: the cache, with what has happened so far that counts for recency. Those
inside a compile function, while the calls around it are still waiting, are among them.
-/

namespace PatternLoom

set_option autoImplicit false

/-- A course of requests to a cache, with the outcome at its end. -/
inductive Session (α : Type) where
  | finish (outcome : Except PatternError α)
  /-- A look-up of a key, and what its compile function does if it is run. -/
  | get (key : Text) (compile : Session α) (next : Except PatternError (Compiled α) → Session α)
  | contains (key : Text) (next : Bool → Session α)
  | clear (next : Session α)

/-- What counts for the recency of keys: a look-up that has returned an object, and an emptying. -/
inductive Mark where
  | used (key : Text)
  | cleared
deriving DecidableEq, Repr

/-- The marks that a look-up leaves when it returns: one use, unless it failed. -/
def Mark.ofAnswer {α : Type} (key : Text) : Except PatternError (Compiled α) → List Mark
  | .ok _ => [.used key]
  | .error _ => []

/-- A moment of a run: the marks so far, the earliest first, and the cache. -/
structure Moment (α : Type) where
  marks : List Mark
  cache : Cache α

namespace Session

variable {α : Type}

def run : Session α → Cache α → CacheRun α α
  | finish outcome, c => { result := outcome, cache := c }
  | get key compile next, c =>
    let call := c.getOrCompile key compile.run
    let rest := (next call.result).run call.cache
    { rest with events := call.events ++ rest.events }
  | contains key next, c => (next (c.contains key)).run c
  | clear next, c => next.run c.clear

/-- The marks that a run leaves, those of its compile functions included. -/
def marks : Session α → Cache α → List Mark
  | finish _, _ => []
  | get key compile next, c =>
    let call := c.getOrCompile key compile.run
    (if c.contains key then [] else compile.marks c.miss) ++ Mark.ofAnswer key call.result ++
      (next call.result).marks call.cache
  | contains key next, c => (next (c.contains key)).marks c
  | clear next, c => .cleared :: next.marks c.clear

/-- All moments of a run from a moment on. A key without an entry is compiled from the moment at which
the miss has been counted. -/
def moments : Session α → Moment α → List (Moment α)
  | finish _, m => [m]
  | get key compile next, m =>
    let call := m.cache.getOrCompile key compile.run
    let inner := if m.cache.contains key then [] else compile.marks m.cache.miss
    m :: (if m.cache.contains key then [] else compile.moments ⟨m.marks, m.cache.miss⟩) ++
      (next call.result).moments ⟨m.marks ++ inner ++ Mark.ofAnswer key call.result, call.cache⟩
  | contains key next, m => m :: (next (m.cache.contains key)).moments m
  | clear next, m => m :: next.moments ⟨m.marks ++ [.cleared], m.cache.clear⟩

def last (s : Session α) (m : Moment α) : Moment α :=
  ⟨m.marks ++ s.marks m.cache, (s.run m.cache).cache⟩

theorem last_mem_moments (s : Session α) (m : Moment α) : s.last m ∈ s.moments m := by
  induction s generalizing m with
  | finish outcome => simp [last, moments, marks, run]
  | get key compile next _ ih =>
    have h := ih (m.cache.getOrCompile key compile.run).result
      ⟨m.marks ++ (if m.cache.contains key then [] else compile.marks m.cache.miss) ++
        Mark.ofAnswer key (m.cache.getOrCompile key compile.run).result,
        (m.cache.getOrCompile key compile.run).cache⟩
    simp only [last, marks, run, moments, List.append_assoc] at h ⊢
    exact List.mem_append_right _ h
  | contains key next ih =>
    exact List.mem_cons_of_mem _ (ih (m.cache.contains key) m)
  | clear next ih =>
    have h := ih ⟨m.marks ++ [.cleared], m.cache.clear⟩
    simp only [last, marks, run, moments, List.append_assoc] at h ⊢
    exact List.mem_cons_of_mem _ h

end Session

end PatternLoom
