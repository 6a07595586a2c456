import PatternLoom.Engine
import PatternLoom.Proofs.Cache.Coherence

/-!
# Answers do not depend on the cache

Every entry of an engine's cache is the compilation of its own key. So an engine answers each request
as one that compiles the pattern anew, whatever it has been asked before and however large its cache.
-/

namespace PatternLoom

set_option autoImplicit false

inductive Request where
  | compile (pattern : Text)
  | isMatch (pattern subject : Text)
  | findFirst (pattern subject : Text)
  | findAll (pattern subject : Text)
  | replace (pattern template subject : Text)
  | clear
deriving DecidableEq, Repr

/-- What becomes of a request. Of a compiled pattern the answer shows the program,
and not which compilation has made it. -/
inductive Reply where
  | compiled (r : Outcome Program)
  | truth (r : Outcome Bool)
  | first (r : Outcome (Option Captures))
  | all (r : Outcome (List Captures))
  | text (r : Outcome Text)
  | cleared

namespace Engine

def serve (e : Engine) : Request → Reply × Engine
  | .compile p =>
    let run := e.compile p
    (.compiled (run.result.map (·.value)), run.engine)
  | .isMatch p s => (.truth (e.isMatch p s).result, (e.isMatch p s).engine)
  | .findFirst p s => (.first (e.findFirst p s).result, (e.findFirst p s).engine)
  | .findAll p s => (.all (e.findAll p s).result, (e.findAll p s).engine)
  | .replace p r s => (.text (e.replace p r s).result, (e.replace p r s).engine)
  | .clear => (.cleared, { e with cache := e.cache.clear })

def after (e : Engine) : List Request → Engine
  | [] => e
  | r :: rest => (e.serve r).2.after rest

def replies (e : Engine) : List Request → List Reply
  | [] => []
  | r :: rest => (e.serve r).1 :: (e.serve r).2.replies rest

/-- Every entry of the cache is the compilation of its key. -/
def Faithful (e : Engine) : Prop :=
  ∀ entry ∈ e.cache.entries, Program.compile? entry.1 = some entry.2.value

def compiled (pattern : Text) : Outcome Program :=
  match Program.compile? pattern with
  | some g => .ok g
  | none => .error (.malformed pattern)

/-- The result of compiling and running a pattern without a cache. -/
def outcome {β : Type} (limit : Nat) (pattern : Text) (run : Nat → Program → Outcome β) : Outcome β :=
  (compiled pattern).bind (run limit)

section

variable {β : Type} {limit : Nat} {pattern : Text} {run : Nat → Program → Outcome β}

theorem outcome_of_compile? {g : Program} (h : Program.compile? pattern = some g) :
    outcome limit pattern run = run limit g := by
  simp only [outcome, compiled, h, Outcome.bind]

theorem outcome_of_compile?_eq_none (h : Program.compile? pattern = none) :
    outcome limit pattern run = .error (.malformed pattern) := by
  simp only [outcome, compiled, h, Outcome.bind]

theorem outcome_eq_ok_iff {b : β} :
    outcome limit pattern run = .ok b ↔
      ∃ g, Program.compile? pattern = some g ∧ run limit g = .ok b := by
  cases h : Program.compile? pattern with
  | none => simp [outcome_of_compile?_eq_none h]
  | some g => simp [outcome_of_compile? h]

theorem outcome_eq_endless_iff :
    outcome limit pattern run = .endless ↔
      ∃ g, Program.compile? pattern = some g ∧ run limit g = .endless := by
  cases h : Program.compile? pattern with
  | none => simp [outcome_of_compile?_eq_none h]
  | some g => simp [outcome_of_compile? h]

end

/-- The reply of an engine without a cache and with a limit on backtracking steps. -/
def replyAnew (limit : Nat) : Request → Reply
  | .compile p => .compiled (compiled p)
  | .isMatch p s =>
    .truth (outcome limit p fun limit g => .ofSearch p ((g.find? limit s).map Option.isSome))
  | .findFirst p s =>
    .first (outcome limit p fun limit g =>
      .ofSearch p ((g.find? limit s).map fun found => found.bind (Captures.ofFound? g s)))
  | .findAll p s => .all (outcome limit p (allCaptures p s))
  | .replace p r s => .text (outcome limit p (replaced p r s))
  | .clear => .cleared

theorem faithful_new (config : Config) : (Engine.new config).Faithful := by
  intro entry h
  exact absurd h List.not_mem_nil

namespace Faithful

variable {e : Engine}

theorem value_of_find? (h : e.Faithful) {p : Text} {v : Compiled Program}
    (hv : e.cache.find? p = some v) : Program.compile? p = some v.value := by
  obtain ⟨l₁, l₂, heq, -⟩ := List.lookup_eq_some_iff.mp hv
  exact h (p, v) (heq ▸ List.mem_append_right _ List.mem_cons_self)

/-- One compilation: the result is that of compiling anew, and the engine stays faithful with its
configuration. The cases are those of the look-up. -/
theorem compile (h : e.Faithful) (p : Text) :
    (e.compile p).result.map (·.value) = compiled p ∧ (e.compile p).engine.Faithful ∧
      (e.compile p).engine.config = e.config := by
  cases hfound : e.cache.find? p with
  | some v =>
    have hrun := Cache.getOrCompile_of_found hfound (compileAnew p)
    have hp := h.value_of_find? hfound
    simp only [Engine.compile, hrun, Outcome.ofExcept, Outcome.map, Outcome.bind, compiled, hp]
    refine ⟨trivial, ?_, trivial⟩
    intro entry hentry
    exact h entry (by simpa using hentry)
  | none =>
    cases hp : Program.compile? p with
    | none =>
      have hout : (compileAnew p e.cache.miss).result = .error (.malformed p) := by
        simp [compileAnew, hp]
      have hcache : (compileAnew p e.cache.miss).cache = e.cache.miss := by simp [compileAnew, hp]
      obtain ⟨hr, hc⟩ := Cache.getOrCompile_of_failed hfound hout
      simp only [Engine.compile, hr, hc, hcache, Outcome.ofExcept, Outcome.map, Outcome.bind,
        compiled, hp]
      exact ⟨trivial, h, trivial⟩
    | some g =>
      have hout : (compileAnew p e.cache.miss).result = .ok g := by simp [compileAnew, hp]
      have hcache : (compileAnew p e.cache.miss).cache = e.cache.miss := by simp [compileAnew, hp]
      obtain ⟨hr, hc⟩ := Cache.getOrCompile_of_compiled hfound hout
      rw [hcache] at hr hc
      have hvalue : (e.cache.miss.settle p ⟨g, e.cache.miss.misses⟩).1.value = g := by
        rcases Cache.settle_fst e.cache.miss p ⟨g, e.cache.miss.misses⟩ with hs | hs
        · exact absurd (hfound.symm.trans hs) (by simp)
        · rw [hs]
      simp only [Engine.compile, hr, hc, Outcome.ofExcept, Outcome.map, Outcome.bind, compiled, hp,
        hvalue]
      refine ⟨trivial, ?_, trivial⟩
      intro entry hentry
      rcases Cache.mem_entries_settle hentry with hold | rfl
      · exact h entry hold
      · exact hp

theorem compile_ok_iff (h : e.Faithful) {p : Text} {g : Program} :
    (∃ v, (e.compile p).result = .ok v ∧ v.value = g) ↔ Program.compile? p = some g := by
  obtain ⟨hr, -, -⟩ := h.compile p
  have hcompiled : compiled p = .ok g ↔ Program.compile? p = some g := by
    rw [compiled]
    cases Program.compile? p <;> simp
  rw [← hcompiled, ← hr, Outcome.map_eq_ok_iff]

theorem compiles_iff (h : e.Faithful) {p : Text} :
    (∃ v, (e.compile p).result = .ok v) ↔ (Program.compile? p).isSome = true := by
  rw [Option.isSome_iff_exists]
  constructor
  · rintro ⟨v, hv⟩
    exact ⟨v.value, h.compile_ok_iff.mp ⟨v, hv, rfl⟩⟩
  · rintro ⟨g, hg⟩
    exact (h.compile_ok_iff.mpr hg).imp fun _ hv => hv.1

theorem execute {β : Type} (h : e.Faithful) (p : Text) (report : β → List Event)
    (run : Nat → Program → Outcome β) :
    (e.execute p report run).result = outcome e.config.backtrackLimit p run ∧
      (e.execute p report run).engine = (e.compile p).engine := by
  obtain ⟨hr, -, -⟩ := h.compile p
  unfold Engine.execute outcome
  rw [← hr, Outcome.map_bind]
  exact ⟨rfl, rfl⟩

theorem execute_of_compile? {β : Type} (h : e.Faithful) {p : Text} {g : Program}
    (hg : Program.compile? p = some g) (report : β → List Event) (run : Nat → Program → Outcome β) :
    (e.execute p report run).result = run e.config.backtrackLimit g :=
  (h.execute p report run).1.trans (outcome_of_compile? hg)

theorem isMatch_of_find? (h : e.Faithful) {p s : Text} {g : Program} (hg : Program.compile? p = some g)
    {found : Program.SearchResult} (hfound : g.find? e.config.backtrackLimit s = some found) :
    (e.isMatch p s).result = .ok found.isSome := by
  rw [isMatch, h.execute_of_compile? hg, hfound]
  rfl

/-- One request: the reply is that of an engine without a cache, and the engine stays faithful with
its configuration. -/
theorem serve (h : e.Faithful) (r : Request) :
    (e.serve r).1 = replyAnew e.config.backtrackLimit r ∧ (e.serve r).2.Faithful ∧
      (e.serve r).2.config = e.config := by
  have run {β : Type} (p : Text) (report : β → List Event) (f : Nat → Program → Outcome β) :
      (e.execute p report f).result = outcome e.config.backtrackLimit p f ∧
        (e.execute p report f).engine.Faithful ∧
        (e.execute p report f).engine.config = e.config := by
    obtain ⟨hr, he⟩ := h.execute p report f
    rw [he]
    exact ⟨hr, (h.compile p).2⟩
  cases r with
  | compile p =>
    obtain ⟨hr, hrest⟩ := h.compile p
    exact ⟨congrArg Reply.compiled hr, hrest⟩
  | isMatch p s =>
    obtain ⟨hr, hrest⟩ := run p noEvents fun limit g =>
      .ofSearch p ((g.find? limit s).map Option.isSome)
    exact ⟨congrArg Reply.truth hr, hrest⟩
  | findFirst p s =>
    obtain ⟨hr, hrest⟩ := run p noEvents fun limit g =>
      .ofSearch p ((g.find? limit s).map fun found => found.bind (Captures.ofFound? g s))
    exact ⟨congrArg Reply.first hr, hrest⟩
  | findAll p s =>
    obtain ⟨hr, hrest⟩ := run p
      (fun all : List Captures => [⟨.trace, "collected matches",
        [("pattern", fieldText p), ("matches", fieldText (Text.ofNat all.length))]⟩])
      (allCaptures p s)
    exact ⟨congrArg Reply.all hr, hrest⟩
  | replace p t s =>
    obtain ⟨hr, hrest⟩ := run p noEvents (replaced p t s)
    exact ⟨congrArg Reply.text hr, hrest⟩
  | clear =>
    refine ⟨rfl, ?_, rfl⟩
    intro entry hentry
    exact absurd hentry List.not_mem_nil

theorem after (h : e.Faithful) (requests : List Request) :
    (e.after requests).Faithful ∧ (e.after requests).config = e.config := by
  induction requests generalizing e with
  | nil => exact ⟨h, rfl⟩
  | cons r rest ih =>
    obtain ⟨-, hf, hc⟩ := h.serve r
    obtain ⟨hf', hc'⟩ := ih hf
    exact ⟨hf', hc'.trans hc⟩

/-- A whole run: each reply is that of an engine without a cache. -/
theorem replies (h : e.Faithful) (requests : List Request) :
    e.replies requests = requests.map (replyAnew e.config.backtrackLimit) := by
  induction requests generalizing e with
  | nil => rfl
  | cons r rest ih =>
    obtain ⟨hr, hf, hc⟩ := h.serve r
    rw [Engine.replies, hr, ih hf, hc, List.map_cons]

end Faithful

/-- An engine gives the same replies to a list of requests, whatever the size of its cache. -/
theorem replies_cacheSize (limit size : Nat) (delimiter : Char) (requests : List Request) :
    (Engine.new ⟨limit, size, delimiter⟩).replies requests =
      (Engine.new ⟨limit, 0, delimiter⟩).replies requests := by
  rw [(faithful_new ⟨limit, size, delimiter⟩).replies, (faithful_new ⟨limit, 0, delimiter⟩).replies]
  rfl

end Engine

end PatternLoom
