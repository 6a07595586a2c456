import PatternLoom.Error
import PatternLoom.Event

/-!
# A cache of compiled patterns

The cache holds a bounded number of compiled patterns under their texts. When it is full, the pattern
used longest ago makes room. Compiling may itself use the cache, so it is a function on caches.
-/

namespace PatternLoom

set_option autoImplicit false

/-- A compiled object, told from all others by the number of the compilation that made it. -/
structure Compiled (α : Type) where
  value : α
  serial : Nat
deriving DecidableEq, Repr

/-- A cache: the most entries it may have, the entries by their keys, the keys in the order of their
last use, and its counters. -/
structure Cache (α : Type) where
  maxSize : Nat
  entries : List (Text × Compiled α) := []
  /-- The keys of the entries, the one used longest ago first. -/
  order : List Text := []
  hits : Nat := 0
  misses : Nat := 0
deriving Repr

structure CacheRun (α β : Type) where
  result : Except PatternError β
  cache : Cache α
  events : List Event := []

namespace Cache

variable {α : Type}

def defaultMaxSize : Nat := 100

/-- The empty cache for at most `maxSize` entries. A size of zero keeps nothing. -/
def new (maxSize : Nat) : Cache α := { maxSize }

def size (c : Cache α) : Nat := c.entries.length

def isEmpty (c : Cache α) : Bool := c.entries.isEmpty

def find? (c : Cache α) (key : Text) : Option (Compiled α) := c.entries.lookup key

def contains (c : Cache α) (key : Text) : Bool := (c.find? key).isSome

/-- A key becomes the one used last, if it is in the order at all. -/
def touch (c : Cache α) (key : Text) : Cache α :=
  if key ∈ c.order then { c with order := c.order.erase key ++ [key] } else c

/-- Every entry is dropped; the counters stay. -/
def clear (c : Cache α) : Cache α := { c with entries := [], order := [] }

def evict (c : Cache α) : Cache α × List Event :=
  if c.maxSize ≤ c.size then
    match c.order with
    | [] => (c, [])
    | oldest :: rest =>
      ({ c with entries := c.entries.filter (·.1 != oldest), order := rest },
        [⟨.debug, "evicting compiled pattern", [("pattern", String.ofList oldest)]⟩])
  else (c, [])

def insert (c : Cache α) (key : Text) (v : Compiled α) : Cache α × List Event :=
  let (c, events) := c.evict
  ({ c with
      entries := (key, v) :: c.entries.filter (·.1 != key)
      order := c.order ++ [key] }, events)

/-- The look-up before a compilation: an entry that is found is counted and becomes the one used
last. -/
def lookUp? (c : Cache α) (key : Text) : Option (Compiled α × Cache α) :=
  (c.find? key).map fun v => (v, { c.touch key with hits := c.hits + 1 })

def miss (c : Cache α) : Cache α := { c with misses := c.misses + 1 }

/-- What is done with a freshly compiled object: it is kept, unless the cache keeps nothing or the key
has got an entry in the meantime. That entry is used then. -/
def settle (c : Cache α) (key : Text) (fresh : Compiled α) : Compiled α × Cache α × List Event :=
  if c.maxSize = 0 then (fresh, c, [])
  else match c.find? key with
    | some v => (v, c.touch key, [])
    | none => (fresh, c.insert key fresh)

/-- The entry of a key, compiled and kept if there is none. A failed compilation leaves no entry. -/
def getOrCompile (c : Cache α) (key : Text) (compile : Cache α → CacheRun α α) :
    CacheRun α (Compiled α) :=
  match c.lookUp? key with
  | some (v, cache) => { result := .ok v, cache }
  | none =>
    let run := compile c.miss
    let events :=
      ⟨.debug, "compiling pattern", [("pattern", String.ofList key)]⟩ :: run.events
    match run.result with
    | .error e => { result := .error e, cache := run.cache, events }
    | .ok value =>
      let (v, cache, more) := run.cache.settle key ⟨value, c.miss.misses⟩
      { result := .ok v, cache, events := events ++ more }

theorem getOrCompile_of_found {c : Cache α} {key : Text} {v : Compiled α} (h : c.find? key = some v)
    (compile : Cache α → CacheRun α α) :
    c.getOrCompile key compile =
      { result := .ok v, cache := { c.touch key with hits := c.hits + 1 } } := by
  simp [getOrCompile, lookUp?, h]

theorem getOrCompile_of_failed {c : Cache α} {key : Text} {compile : Cache α → CacheRun α α}
    {e : PatternError} (h : c.find? key = none) (hc : (compile c.miss).result = .error e) :
    (c.getOrCompile key compile).result = .error e ∧
      (c.getOrCompile key compile).cache = (compile c.miss).cache := by
  simp [getOrCompile, lookUp?, h, hc]

theorem getOrCompile_of_compiled {c : Cache α} {key : Text} {compile : Cache α → CacheRun α α}
    {value : α} (h : c.find? key = none) (hc : (compile c.miss).result = .ok value) :
    let settled := (compile c.miss).cache.settle key ⟨value, c.miss.misses⟩
    (c.getOrCompile key compile).result = .ok settled.1 ∧
      (c.getOrCompile key compile).cache = settled.2.1 := by
  simp [getOrCompile, lookUp?, h, hc]

/-- The share of look-ups that found an entry, in millionths, a half going to the even neighbour. It
is one while there were no look-ups. -/
def hitRateMillionths (c : Cache α) : Nat :=
  let total := c.hits + c.misses
  if total = 0 then 1000000
  else
    let q := c.hits * 1000000 / total
    let r := c.hits * 1000000 % total
    if 2 * r < total then q
    else if 2 * r = total then q + q % 2
    else q + 1

def sixDecimals (n : Nat) : Text :=
  let tail := Text.ofNat (n % 1000000)
  Text.ofNat (n / 1000000) ++ ['.'] ++ List.replicate (6 - tail.length) '0' ++ tail

def hitRate (c : Cache α) : Text := sixDecimals c.hitRateMillionths

/-- The form of a cache in diagnostics: its statistics, and none of its entries. -/
def describe (c : Cache α) : String :=
  "PatternCache \x7b stats: CacheStats \x7b size: " ++ PatternError.number c.size ++
    ", max_size: " ++ PatternError.number c.maxSize ++
    ", total_hits: " ++ PatternError.number c.hits ++
    ", total_misses: " ++ PatternError.number c.misses ++ " \x7d, .. \x7d"

end Cache

end PatternLoom
