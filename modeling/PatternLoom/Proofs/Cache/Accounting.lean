import Mathlib.Tactic.Tauto
import PatternLoom.Proofs.Cache.Recency
import PatternLoom.Proofs.Cache.Stages

/-!
# The accounts of a cache

A run can be reported on without changing it: each call reports that it begins, each compile function
that it is run and whether its object will be inserted, and each entry that it is dropped by an
emptying. The counters of the cache, its entries and its own events agree with these reports.
-/

namespace PatternLoom

set_option autoImplicit false

variable {α : Type}

def Event.report (what : String) (key : Text) : Event :=
  ⟨.trace, what, [("pattern", String.ofList key)]⟩

def tally (level : Level) (message : String) (events : List Event) : Nat :=
  events.countP fun e => e.level == level && e.message == message

/-- The events of the cache itself. -/
def ownEvents (events : List Event) : List Event := events.filter (·.level == .debug)

@[simp] theorem tally_nil (level : Level) (message : String) : tally level message [] = 0 := rfl

@[simp] theorem tally_append (level : Level) (message : String) (front rear : List Event) :
    tally level message (front ++ rear) = tally level message front + tally level message rear :=
  List.countP_append

@[simp] theorem tally_cons (level : Level) (message : String) (e : Event) (events : List Event) :
    tally level message (e :: events) =
      tally level message events + if e.level = level ∧ e.message = message then 1 else 0 := by
  simp [tally, List.countP_cons]

theorem tally_ownEvents (message : String) (events : List Event) :
    tally .debug message (ownEvents events) = tally .debug message events := by
  rw [tally, ownEvents, List.countP_filter, tally]
  refine List.countP_congr fun e _ => ?_
  simp only [Bool.and_eq_true]
  tauto

/-- Something was made, and the cache keeps it: its key has no entry yet. -/
def CacheRun.inserts (made : CacheRun α α) (key : Text) : Bool :=
  made.result.isOk && made.cache.maxSize != 0 && !made.cache.contains key

/-- A compile function that reports when it is run and whether its object will be inserted. -/
def reporting (key : Text) (f : Cache α → CacheRun α α) (c : Cache α) : CacheRun α α :=
  { f c with
    events := .report "running" key :: (f c).events ++
      if (f c).inserts key then [.report "inserting" key] else [] }

/-- A compile function that leaves a mark when it is run. -/
def marking (mark : Event) (f : Cache α → CacheRun α α) (c : Cache α) : CacheRun α α :=
  { f c with events := mark :: (f c).events }

/-- A run with reports. The cache does not know of them: they come from its users, and the compile
functions handed to it report for themselves. -/
def Session.reported : Session α → Cache α → CacheRun α α
  | finish outcome, c => { result := outcome, cache := c }
  | get key compile next, c =>
    let call := c.getOrCompile key (reporting key compile.reported)
    let rest := (next call.result).reported call.cache
    { rest with events := .report "calling" key :: call.events ++ rest.events }
  | contains key next, c => (next (c.contains key)).reported c
  | clear next, c =>
    let rest := next.reported c.clear
    { rest with events := c.entries.map (fun e => .report "dropping" e.1) ++ rest.events }

/-- What has been counted and stored from one cache to another agrees with the events between. -/
structure Accounts (c d : Cache α) (events : List Event) : Prop where
  calls : d.hits + d.misses = c.hits + c.misses + tally .trace "calling" events
  runs : d.misses = c.misses + tally .trace "running" events
  compilations : d.misses = c.misses + tally .debug "compiling pattern" events
  entries : c.size + tally .trace "inserting" events =
    d.size + tally .debug "evicting compiled pattern" events + tally .trace "dropping" events

theorem Accounts.trans {c b d : Cache α} {front rear : List Event} (h : Accounts c b front)
    (h' : Accounts b d rear) : Accounts c d (front ++ rear) := by
  obtain ⟨hcalls, hruns, hcompilations, hentries⟩ := h
  obtain ⟨hcalls', hruns', hcompilations', hentries'⟩ := h'
  constructor
  · rw [tally_append]
    omega
  · rw [tally_append]
    omega
  · rw [tally_append]
    omega
  · rw [tally_append, tally_append, tally_append]
    omega

namespace Cache

variable {c : Cache α} {key : Text}

theorem Coherent.evict_cases (h : c.Coherent) :
    (c.evict.2 = [] ∧ c.evict.1.size = c.size) ∨
      ∃ oldest, c.evict.2 = [.evicting oldest] ∧ c.evict.1.size + 1 = c.size := by
  by_cases hfull : c.maxSize ≤ c.size
  · cases ho : c.order with
    | nil =>
      have hevict : c.evict = (c, []) := by simp only [Cache.evict, if_pos hfull, ho]
      rw [hevict]
      exact .inl ⟨rfl, rfl⟩
    | cons oldest rest =>
      have hevents : c.evict.2 = [.evicting oldest] := by
        simp only [Cache.evict, if_pos hfull, ho, Event.evicting]
      have horder : c.evict.1.order = rest := by
        rw [order_evict, if_pos hfull, ho, List.tail_cons]
      refine .inr ⟨oldest, hevents, ?_⟩
      rw [← h.evict.length_order, ← h.length_order, horder, ho, List.length_cons]
  · have hevict : c.evict = (c, []) := by simp only [Cache.evict, if_neg hfull]
    rw [hevict]
    exact .inl ⟨rfl, rfl⟩

theorem Coherent.size_insert (h : c.Coherent) (hnone : c.find? key = none) (v : Compiled α) :
    (c.insert key v).1.size = c.evict.1.size + 1 := by
  have hnew := h.insert ((find?_eq_none_iff c key).mp hnone) v
  rw [← hnew.length_order, order_insert, ← order_evict, List.length_append, h.evict.length_order,
    List.length_singleton]

/-- An insertion is one entry more and an eviction one less, and nothing is counted as a call. -/
theorem Coherent.accounts_insert (h : c.Coherent) (hnone : c.find? key = none) (v : Compiled α) :
    Accounts c (c.insert key v).1 (.report "inserting" key :: (c.insert key v).2) := by
  have hsize := h.size_insert hnone v
  have hhits : (c.insert key v).1.hits = c.hits := hits_evict c
  have hmisses : (c.insert key v).1.misses = c.misses := misses_evict c
  have hevents : (c.insert key v).2 = c.evict.2 := rfl
  obtain ⟨hevict, hless⟩ | ⟨oldest, hevict, hless⟩ := h.evict_cases
  all_goals
    rw [hevents, hevict]
    constructor <;> simp [Event.report, Event.evicting, hhits, hmisses]
    omega

/-- A return from a compilation counts nothing. It inserts an entry exactly if that was reported. -/
theorem accounts_settle {made : CacheRun α α} (h : made.cache.Coherent) {value : α}
    (hout : made.result = .ok value) (key : Text) (n : Nat) :
    Accounts made.cache (made.cache.settle key ⟨value, n⟩).2.1
      ((if made.inserts key then [.report "inserting" key] else []) ++
        (made.cache.settle key ⟨value, n⟩).2.2) := by
  by_cases hsize : made.cache.maxSize = 0
  · have hinserts : made.inserts key = false := by simp [CacheRun.inserts, hsize]
    rw [hinserts, settle_of_size_zero hsize]
    constructor <;> rfl
  · cases hfound : made.cache.find? key with
    | some v =>
      have hinserts : made.inserts key = false := by
        simp [CacheRun.inserts, contains_of_find? hfound]
      rw [hinserts, settle_of_found hsize hfound]
      constructor <;> simp [size]
    | none =>
      have hinserts : made.inserts key = true := by
        simp [CacheRun.inserts, hout, hsize, contains, hfound, Except.isOk, Except.toBool]
      rw [hinserts, settle_of_absent hsize hfound]
      exact h.accounts_insert hfound ⟨value, n⟩

theorem accounts_miss (c : Cache α) (key : Text) :
    Accounts c c.miss [.report "calling" key, .compiling key, .report "running" key] := by
  constructor <;> simp [Event.report, Event.compiling, miss, size]
  omega

/-- What a call counts and stores, and that its reports agree with it, if this is so for what its
compile function does. -/
theorem Coherent.accounts_call (h : c.Coherent) (key : Text) {f : Cache α → CacheRun α α}
    (hf : (f c.miss).cache.Coherent ∧ Accounts c.miss (f c.miss).cache (f c.miss).events) :
    let call := c.getOrCompile key (reporting key f)
    call.cache.Coherent ∧ Accounts c call.cache (.report "calling" key :: call.events) := by
  intro call
  cases hfound : c.find? key with
  | some v =>
    have htouch : (c.touch key).Coherent := h.touch
    rw [show call = _ from getOrCompile_of_found hfound _]
    refine ⟨⟨htouch.perm, htouch.nodup⟩, ?_⟩
    constructor <;> simp [Event.report, size]
    omega
  | none =>
    have hstart := (accounts_miss c key).trans hf.2
    cases hout : (f c.miss).result with
    | error e =>
      have hinserts : (f c.miss).inserts key = false := by
        simp [CacheRun.inserts, hout, Except.isOk, Except.toBool]
      have hmade : (reporting key f c.miss).result = .error e := hout
      rw [show call = _ from getOrCompile_eq_of_failed hfound hmade]
      refine ⟨hf.1, ?_⟩
      simpa [reporting, hinserts] using hstart
    | ok value =>
      have hmade : (reporting key f c.miss).result = .ok value := hout
      rw [show call = _ from getOrCompile_eq_of_compiled hfound hmade]
      refine ⟨hf.1.settle key _, ?_⟩
      have hend := hstart.trans (accounts_settle hf.1 hout key c.miss.misses)
      simpa [reporting] using hend

theorem accounts_clear (c : Cache α) :
    Accounts c c.clear (c.entries.map fun e => .report "dropping" e.1) := by
  have hnone (level : Level) (message : String) (hm : message ≠ "dropping") :
      tally level message (c.entries.map fun e => .report "dropping" e.1) = 0 := by
    refine List.countP_eq_zero.mpr fun e he => ?_
    obtain ⟨entry, -, rfl⟩ := List.mem_map.mp he
    simpa [Event.report] using fun _ => hm.symm
  have hall : tally .trace "dropping" (c.entries.map fun e => .report "dropping" e.1) = c.size := by
    rw [tally, List.countP_eq_length.mpr, List.length_map, size]
    intro e he
    obtain ⟨entry, -, rfl⟩ := List.mem_map.mp he
    rfl
  constructor
  · rw [hnone _ _ (by decide)]
    rfl
  · rw [hnone _ _ (by decide)]
    rfl
  · rw [hnone _ _ (by decide)]
    rfl
  · rw [hnone _ "inserting" (by decide), hnone _ "evicting compiled pattern" (by decide), hall]
    simp [size, clear]

theorem level_of_mem_settle {c : Cache α} {key : Text} {fresh : Compiled α} {e : Event}
    (h : e ∈ (c.settle key fresh).2.2) : e.level = .debug := by
  have hevict : ∀ e ∈ c.evict.2, e.level = .debug := by
    unfold evict
    split
    · split <;> simp
    · simp
  unfold settle at h
  split at h
  · cases h
  · split at h
    · cases h
    · exact hevict e h

theorem ownEvents_settle (c : Cache α) (key : Text) (fresh : Compiled α) :
    ownEvents (c.settle key fresh).2.2 = (c.settle key fresh).2.2 :=
  List.filter_eq_self.mpr fun _ he => beq_iff_eq.mpr (level_of_mem_settle he)

/-- A compile function that gives reports has no other effect on a call. -/
theorem getOrCompile_of_reports (c : Cache α) (key : Text) {f g : Cache α → CacheRun α α}
    (hresult : (f c.miss).result = (g c.miss).result) (hcache : (f c.miss).cache = (g c.miss).cache)
    (hevents : ownEvents (f c.miss).events = (g c.miss).events) :
    (c.getOrCompile key f).result = (c.getOrCompile key g).result ∧
      (c.getOrCompile key f).cache = (c.getOrCompile key g).cache ∧
      ownEvents (c.getOrCompile key f).events = (c.getOrCompile key g).events := by
  have hcompiling (events : List Event) :
      ownEvents (.compiling key :: events) = .compiling key :: ownEvents events := rfl
  cases hfound : c.find? key with
  | some v =>
    rw [getOrCompile_of_found hfound, getOrCompile_of_found hfound]
    exact ⟨rfl, rfl, rfl⟩
  | none =>
    cases hout : (g c.miss).result with
    | error e =>
      rw [getOrCompile_eq_of_failed hfound (hresult.trans hout),
        getOrCompile_eq_of_failed hfound hout]
      exact ⟨rfl, hcache, by rw [hcompiling, hevents]⟩
    | ok value =>
      rw [getOrCompile_eq_of_compiled hfound (hresult.trans hout),
        getOrCompile_eq_of_compiled hfound hout, hcache]
      refine ⟨rfl, rfl, ?_⟩
      rw [ownEvents, List.filter_append, ← ownEvents, ← ownEvents, ownEvents_settle, hcompiling,
        hevents]

/-- A call whose key has an entry is a hit, and its compile function is not run. Any other call is a
miss when its compile function begins; that is run once, and nothing is counted after it. -/
theorem counted_call (c : Cache α) (key : Text) (f : Cache α → CacheRun α α) {mark : Event}
    (hmark : mark.level ≠ .debug) :
    let call := c.getOrCompile key (marking mark f)
    (c.contains key = true →
      call.events.count mark = 0 ∧ call.cache.hits = c.hits + 1 ∧ call.cache.misses = c.misses) ∧
    (c.contains key = false →
      call.events.count mark = (f c.miss).events.count mark + 1 ∧
        c.miss.hits = c.hits ∧ c.miss.misses = c.misses + 1 ∧
        call.cache.hits = (f c.miss).cache.hits ∧ call.cache.misses = (f c.miss).cache.misses) := by
  intro call
  have hcompiling : Event.compiling key ≠ mark := by
    rintro rfl
    exact hmark rfl
  cases hfound : c.find? key with
  | some v =>
    rw [show call = _ from getOrCompile_of_found hfound _, contains_of_find? hfound]
    simp
  | none =>
    refine ⟨fun h => absurd h (not_contains_of_find? hfound), fun _ => ?_⟩
    cases hout : (f c.miss).result with
    | error e =>
      have hmade : (marking mark f c.miss).result = .error e := hout
      rw [show call = _ from getOrCompile_eq_of_failed hfound hmade]
      refine ⟨?_, rfl, rfl, rfl, rfl⟩
      rw [List.count_cons_of_ne hcompiling, marking, List.count_cons_self]
    | ok value =>
      have hsettle : mark ∉ ((f c.miss).cache.settle key ⟨value, c.miss.misses⟩).2.2 :=
        fun hm => hmark (level_of_mem_settle hm)
      have hmade : (marking mark f c.miss).result = .ok value := hout
      rw [show call = _ from getOrCompile_eq_of_compiled hfound hmade]
      refine ⟨?_, rfl, rfl, hits_settle .., misses_settle ..⟩
      rw [List.count_append, marking, List.count_eq_zero.mpr hsettle, Nat.add_zero,
        List.count_cons_of_ne hcompiling, List.count_cons_self]

end Cache

namespace Session

/-- Reports leave a run as it is, and the cache's own events among them are those of the run. -/
theorem reported_eq_run (s : Session α) (c : Cache α) :
    (s.reported c).result = (s.run c).result ∧ (s.reported c).cache = (s.run c).cache ∧
      ownEvents (s.reported c).events = (s.run c).events := by
  induction s generalizing c with
  | finish outcome => exact ⟨rfl, rfl, rfl⟩
  | get key compile next ihc ihn =>
    obtain ⟨hresult, hcache, hevents⟩ := ihc c.miss
    have hmade : ownEvents (reporting key compile.reported c.miss).events =
        (compile.run c.miss).events := by
      rw [← hevents, reporting]
      split <;> simp [ownEvents, Event.report]
    obtain ⟨hcallResult, hcallCache, hcallEvents⟩ :=
      Cache.getOrCompile_of_reports c key (f := reporting key compile.reported) (g := compile.run)
        hresult hcache hmade
    obtain ⟨hrestResult, hrestCache, hrestEvents⟩ :=
      ihn (c.getOrCompile key compile.run).result (c.getOrCompile key compile.run).cache
    rw [reported, run, hcallResult, hcallCache]
    refine ⟨hrestResult, hrestCache, ?_⟩
    rw [← hcallEvents, ← hrestEvents]
    simp [ownEvents, Event.report]
  | contains key next ih => exact ih (c.contains key) c
  | clear next ih =>
    obtain ⟨hresult, hcache, hevents⟩ := ih c.clear
    refine ⟨hresult, hcache, ?_⟩
    have hnone : ownEvents (c.entries.map fun e => .report "dropping" e.1) = [] := by
      refine List.filter_eq_nil_iff.mpr fun e he => ?_
      obtain ⟨entry, -, rfl⟩ := List.mem_map.mp he
      simp [Event.report]
    rw [run, ← hevents, reported, ownEvents, List.filter_append, ← ownEvents, hnone]
    rfl

/-- The accounts agree over every run. The induction follows the requests, those inside a compile
function first. -/
theorem accounts_reported (s : Session α) {c : Cache α} (h : c.Coherent) :
    (s.reported c).cache.Coherent ∧ Accounts c (s.reported c).cache (s.reported c).events := by
  induction s generalizing c with
  | finish outcome => exact ⟨h, by constructor <;> rfl⟩
  | get key compile next ihc ihn =>
    have hmiss : c.miss.Coherent := ⟨h.perm, h.nodup⟩
    obtain ⟨hcoherent, hcall⟩ := h.accounts_call key (ihc hmiss)
    obtain ⟨hlast, hrest⟩ :=
      ihn (c.getOrCompile key (reporting key compile.reported)).result hcoherent
    exact ⟨hlast, hcall.trans hrest⟩
  | contains key next ih => exact ih (c.contains key) h
  | clear next ih =>
    obtain ⟨hlast, hrest⟩ := ih (.clear c)
    exact ⟨hlast, (Cache.accounts_clear c).trans hrest⟩

/-- The accounts of every session with a new cache. Hits and misses together are the calls; the misses
are the runs of compile functions and the events of compiling; what was inserted is still there, has
been evicted, or was dropped by an emptying. A call runs its compile function once if it is a miss and
not at all if it is a hit, and neither `contains` nor `clear` counts anything. -/
theorem accounts_agree (maxSize : Nat) (s : Session α) :
    let last := s.run (.new maxSize)
    let told := s.reported (.new maxSize)
    (told.result = last.result ∧ told.cache = last.cache ∧ ownEvents told.events = last.events) ∧
      last.cache.hits + last.cache.misses = tally .trace "calling" told.events ∧
      last.cache.misses = tally .trace "running" told.events ∧
      last.cache.misses = tally .debug "compiling pattern" last.events ∧
      tally .trace "inserting" told.events =
        last.cache.size + tally .debug "evicting compiled pattern" last.events +
          tally .trace "dropping" told.events ∧
      (∀ (c : Cache α) (key : Text) (f : Cache α → CacheRun α α) (mark : Event),
        mark.level ≠ .debug →
        let call := c.getOrCompile key (marking mark f)
        (c.contains key = true →
          call.events.count mark = 0 ∧ call.cache.hits = c.hits + 1 ∧
            call.cache.misses = c.misses) ∧
        (c.contains key = false →
          call.events.count mark = (f c.miss).events.count mark + 1 ∧
            c.miss.hits = c.hits ∧ c.miss.misses = c.misses + 1 ∧
            call.cache.hits = (f c.miss).cache.hits ∧
            call.cache.misses = (f c.miss).cache.misses)) ∧
      (∀ c : Cache α, c.clear.hits = c.hits ∧ c.clear.misses = c.misses) ∧
      ∀ key (next : Bool → Session α) (c : Cache α),
        (Session.contains key next).run c = (next (c.contains key)).run c := by
  intro last told
  obtain ⟨hresult, hcache, hown⟩ := s.reported_eq_run (.new maxSize)
  obtain ⟨-, hcalls, hruns, hcompilations, hentries⟩ := s.accounts_reported (.new maxSize)
  rw [hcache] at hcalls hruns hcompilations hentries
  rw [← tally_ownEvents, hown] at hcompilations
  rw [← tally_ownEvents "evicting compiled pattern", hown] at hentries
  have hhits : (Cache.new maxSize : Cache α).hits = 0 := rfl
  have hmisses : (Cache.new maxSize : Cache α).misses = 0 := rfl
  have hsize : (Cache.new maxSize : Cache α).size = 0 := rfl
  rw [hhits, hmisses, Nat.zero_add] at hcalls
  rw [hmisses, Nat.zero_add] at hruns hcompilations
  rw [hsize, Nat.zero_add] at hentries
  exact ⟨⟨hresult, hcache, hown⟩, hcalls, hruns, hcompilations, hentries,
    fun c key f mark hmark => c.counted_call key f hmark, fun c => ⟨rfl, rfl⟩,
    fun key next c => rfl⟩

end Session

end PatternLoom
