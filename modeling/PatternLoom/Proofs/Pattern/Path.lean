import PatternLoom.Pattern.Scan

/-!
# Paths of threads

A path leads a thread from one place of a text to another while it does all its tasks. The relation
knows nothing of preference, of tasks met before or of iterations that consume nothing. It splits up
like the pattern does: a path for a pattern and a list of tasks is one for the pattern followed by one
for the list.
-/

namespace PatternLoom.Simple

set_option autoImplicit false

/-- Where a thread stands: the character before, the characters that follow, the offset, and the
boundaries of groups set on the way. -/
structure Place where
  before : Option Char
  ahead : Text
  offset : Nat
  slots : Slots
deriving DecidableEq, Repr

namespace Place

def site (beyond : Option Char) (s : Place) : Site := ⟨s.before, (s.ahead.head?).or beyond⟩

/-- The place behind the next character, which is `c`, in front of `rest`. -/
def step (s : Place) (c : Char) (rest : Text) : Place := ⟨some c, rest, s.offset + 1, s.slots⟩

def withSlots (s : Place) (slots : Slots) : Place := { s with slots }

end Place

/-- A pattern leads from one place to another. -/
inductive Walk (beyond : Option Char) : Simple → Place → Place → Prop where
  | empty {s : Place} : Walk beyond .empty s s
  | chars {m : CharClass} {s : Place} {c : Char} {rest : Text} (hs : s.ahead = c :: rest)
      (hc : m.contains c = true) : Walk beyond (.chars m) s (s.step c rest)
  | anchor {a : Anchor} {s : Place} (h : a.holds (s.site beyond) = true) :
      Walk beyond (.anchor a) s s
  | seq {p q : Simple} {s t u : Place} (hp : Walk beyond p s t) (hq : Walk beyond q t u) :
      Walk beyond (.seq p q) s u
  | left {p q : Simple} {s u : Place} (h : Walk beyond p s u) : Walk beyond (.alt p q) s u
  | right {p q : Simple} {s u : Place} (h : Walk beyond q s u) : Walk beyond (.alt p q) s u
  | capture {g : Nat} {p : Simple} {s u : Place}
      (h : Walk beyond p (s.withSlots (s.slots.openAt g s.offset)) u) :
      Walk beyond (.capture g p) s (u.withSlots (u.slots.closeAt g u.offset))
  | without {greedy : Bool} {p : Simple} {s : Place} : Walk beyond (.optional greedy p) s s
  | once {greedy : Bool} {p : Simple} {s u : Place} (h : Walk beyond p s u) :
      Walk beyond (.optional greedy p) s u
  | lastTime {greedy : Bool} {p : Simple} {s u : Place} (h : Walk beyond p s u) :
      Walk beyond (.plus greedy p) s u
  | oneMore {greedy : Bool} {p : Simple} {s t u : Place} (h : Walk beyond p s t)
      (hmore : Walk beyond (.plus greedy p) t u) : Walk beyond (.plus greedy p) s u
  | noTime {greedy : Bool} {p : Simple} {s : Place} : Walk beyond (.star greedy p) s s
  | someTimes {greedy : Bool} {p : Simple} {s u : Place} (h : Walk beyond (.plus greedy p) s u) :
      Walk beyond (.star greedy p) s u

/-- A list of tasks leads from one place to another, in single steps. Where an iteration began makes
no difference. -/
inductive Path (beyond : Option Char) : List Task → Place → Place → Prop where
  | done {s : Place} : Path beyond [] s s
  | close {g : Nat} {rest : List Task} {s u : Place}
      (h : Path beyond rest (s.withSlots (s.slots.closeAt g s.offset)) u) :
      Path beyond (.close g :: rest) s u
  | empty {rest : List Task} {s u : Place} (h : Path beyond rest s u) :
      Path beyond (.run .empty :: rest) s u
  | chars {m : CharClass} {rest : List Task} {s u : Place} {c : Char} {t : Text}
      (hs : s.ahead = c :: t) (hc : m.contains c = true) (h : Path beyond rest (s.step c t) u) :
      Path beyond (.run (.chars m) :: rest) s u
  | anchor {a : Anchor} {rest : List Task} {s u : Place} (ha : a.holds (s.site beyond) = true)
      (h : Path beyond rest s u) : Path beyond (.run (.anchor a) :: rest) s u
  | seq {p q : Simple} {rest : List Task} {s u : Place}
      (h : Path beyond (.run p :: .run q :: rest) s u) : Path beyond (.run (.seq p q) :: rest) s u
  | capture {g : Nat} {p : Simple} {rest : List Task} {s u : Place}
      (h : Path beyond (.run p :: .close g :: rest) (s.withSlots (s.slots.openAt g s.offset)) u) :
      Path beyond (.run (.capture g p) :: rest) s u
  | left {p q : Simple} {rest : List Task} {s u : Place} (h : Path beyond (.run p :: rest) s u) :
      Path beyond (.run (.alt p q) :: rest) s u
  | right {p q : Simple} {rest : List Task} {s u : Place} (h : Path beyond (.run q :: rest) s u) :
      Path beyond (.run (.alt p q) :: rest) s u
  | without {greedy : Bool} {p : Simple} {rest : List Task} {s u : Place}
      (h : Path beyond rest s u) : Path beyond (.run (.optional greedy p) :: rest) s u
  | once {greedy : Bool} {p : Simple} {rest : List Task} {s u : Place}
      (h : Path beyond (.run p :: rest) s u) : Path beyond (.run (.optional greedy p) :: rest) s u
  | plus {greedy : Bool} (since : Option Nat) {p : Simple} {rest : List Task} {s u : Place}
      (h : Path beyond (.run p :: .again since greedy p :: rest) s u) :
      Path beyond (.run (.plus greedy p) :: rest) s u
  | star {greedy : Bool} (since : Option Nat) {p : Simple} {rest : List Task} {s u : Place}
      (h : Path beyond (.again since greedy p :: rest) s u) :
      Path beyond (.run (.star greedy p) :: rest) s u
  | enough {greedy : Bool} {since : Option Nat} {p : Simple} {rest : List Task} {s u : Place}
      (h : Path beyond rest s u) : Path beyond (.again since greedy p :: rest) s u
  | more {greedy : Bool} {since since' : Option Nat} {p : Simple} {rest : List Task} {s u : Place}
      (h : Path beyond (.run p :: .again since' greedy p :: rest) s u) :
      Path beyond (.again since greedy p :: rest) s u

variable {beyond : Option Char}

def Task.Walk (beyond : Option Char) : Task → Place → Place → Prop
  | .run p, s, u => Simple.Walk beyond p s u
  | .again _ greedy p, s, u => Simple.Walk beyond (.star greedy p) s u
  | .close g, s, u => u = s.withSlots (s.slots.closeAt g s.offset)

theorem Walk.path {p : Simple} {s t : Place} (h : Walk beyond p s t) :
    ∀ {rest : List Task} {u : Place}, Path beyond rest t u → Path beyond (.run p :: rest) s u := by
  induction h with
  | empty => exact fun hr => .empty hr
  | chars hs hc => exact fun hr => .chars hs hc hr
  | anchor ha => exact fun hr => .anchor ha hr
  | seq _ _ ihp ihq => exact fun hr => .seq (ihp (ihq hr))
  | left _ ih => exact fun hr => .left (ih hr)
  | right _ ih => exact fun hr => .right (ih hr)
  | capture _ ih => exact fun hr => .capture (ih (.close hr))
  | without => exact fun hr => .without hr
  | once _ ih => exact fun hr => .once (ih hr)
  | lastTime _ ih => exact fun hr => .plus none (ih (.enough hr))
  | oneMore _ _ ihp ihmore =>
    intro rest u hr
    cases ihmore hr with
    | plus _ hmore => exact .plus none (ihp (.more hmore))
  | noTime => exact fun hr => .star none (.enough hr)
  | someTimes _ ih =>
    intro rest u hr
    cases ih hr with
    | plus _ hmore => exact .star none (.more hmore)

/-- What a list of tasks does, one task after the other. -/
def Task.Walks (beyond : Option Char) : List Task → Place → Place → Prop
  | [], s, u => s = u
  | task :: rest, s, u => ∃ t, task.Walk beyond s t ∧ Task.Walks beyond rest t u

theorem Walk.plus_of_star {greedy : Bool} {p : Simple} {s t u : Place} (h : Walk beyond p s t)
    (hstar : Walk beyond (.star greedy p) t u) : Walk beyond (.plus greedy p) s u := by
  cases hstar with
  | noTime => exact .lastTime h
  | someTimes hplus => exact .oneMore h hplus

theorem Path.walks {todo : List Task} {s u : Place} (h : Path beyond todo s u) :
    Task.Walks beyond todo s u := by
  induction h with
  | done => rfl
  | close _ ih => exact ⟨_, rfl, ih⟩
  | empty _ ih => exact ⟨_, .empty, ih⟩
  | chars hs hc _ ih => exact ⟨_, .chars hs hc, ih⟩
  | anchor ha _ ih => exact ⟨_, .anchor ha, ih⟩
  | seq _ ih =>
    obtain ⟨t, hp, v, hq, hrest⟩ := ih
    exact ⟨v, .seq hp hq, hrest⟩
  | capture _ ih =>
    obtain ⟨t, hp, v, rfl, hrest⟩ := ih
    exact ⟨_, .capture hp, hrest⟩
  | left _ ih =>
    obtain ⟨t, hp, hrest⟩ := ih
    exact ⟨t, .left hp, hrest⟩
  | right _ ih =>
    obtain ⟨t, hq, hrest⟩ := ih
    exact ⟨t, .right hq, hrest⟩
  | without _ ih => exact ⟨_, .without, ih⟩
  | once _ ih =>
    obtain ⟨t, hp, hrest⟩ := ih
    exact ⟨t, .once hp, hrest⟩
  | plus _ _ ih =>
    obtain ⟨t, hp, v, hstar, hrest⟩ := ih
    exact ⟨v, hp.plus_of_star hstar, hrest⟩
  | star _ _ ih => exact ih
  | enough _ ih => exact ⟨_, .noTime, ih⟩
  | more _ ih =>
    obtain ⟨t, hp, v, hstar, hrest⟩ := ih
    exact ⟨v, .someTimes (hp.plus_of_star hstar), hrest⟩

/-- The paths for a single pattern are its walks. -/
theorem path_iff_walk {p : Simple} {s u : Place} :
    Path beyond [.run p] s u ↔ Walk beyond p s u := by
  constructor
  · intro h
    obtain ⟨t, hp, rfl⟩ := h.walks
    exact hp
  · exact fun h => h.path .done

theorem Task.Walk.path {task : Task} {s t : Place} (h : task.Walk beyond s t) {rest : List Task}
    {u : Place} (hr : Path beyond rest t u) : Path beyond (task :: rest) s u := by
  cases task with
  | run p => exact Simple.Walk.path h hr
  | again since greedy p =>
    cases (Simple.Walk.path h hr) with
    | star _ hstar =>
      cases hstar with
      | enough h => exact .enough h
      | more h => exact .more h
  | close g => exact .close (h ▸ hr)

/-- The paths for a list of tasks are what the tasks do one after the other. -/
theorem path_iff_walks {todo : List Task} {s u : Place} :
    Path beyond todo s u ↔ Task.Walks beyond todo s u := by
  refine ⟨Path.walks, ?_⟩
  induction todo generalizing s with
  | nil =>
    rintro rfl
    exact .done
  | cons task rest ih =>
    rintro ⟨t, htask, hrest⟩
    exact htask.path (ih hrest)

/-- What tasks do does not depend on where iterations have begun. -/
theorem Task.walks_map_shape {todo : List Task} {s u : Place} :
    Task.Walks beyond (todo.map Task.shape) s u ↔ Task.Walks beyond todo s u := by
  induction todo generalizing s with
  | nil => rfl
  | cons task rest ih =>
    have htask : ∀ t, task.shape.Walk beyond s t ↔ task.Walk beyond s t := by
      intro t
      cases task <;> rfl
    simp only [List.map_cons, Task.Walks, htask, ih]

theorem Walk.withSlots {p : Simple} {s u : Place} (h : Walk beyond p s u) :
    ∀ slots, ∃ slots', Walk beyond p (s.withSlots slots) (u.withSlots slots') := by
  induction h with
  | empty => exact fun slots => ⟨slots, .empty⟩
  | chars hs hc => exact fun slots => ⟨slots, .chars hs hc⟩
  | anchor ha => exact fun slots => ⟨slots, .anchor ha⟩
  | seq _ _ ihp ihq =>
    intro slots
    obtain ⟨slots', hp⟩ := ihp slots
    obtain ⟨slots'', hq⟩ := ihq slots'
    exact ⟨slots'', .seq hp hq⟩
  | left _ ih => exact fun slots => (ih slots).imp fun _ h => .left h
  | right _ ih => exact fun slots => (ih slots).imp fun _ h => .right h
  | @capture g p s u _ ih =>
    intro slots
    obtain ⟨slots', h⟩ := ih (slots.openAt g s.offset)
    exact ⟨slots'.closeAt g u.offset, .capture (s := s.withSlots slots) h⟩
  | without => exact fun slots => ⟨slots, .without⟩
  | once _ ih => exact fun slots => (ih slots).imp fun _ h => .once h
  | lastTime _ ih => exact fun slots => (ih slots).imp fun _ h => .lastTime h
  | oneMore _ _ ih ihmore =>
    intro slots
    obtain ⟨slots', h⟩ := ih slots
    obtain ⟨slots'', hmore⟩ := ihmore slots'
    exact ⟨slots'', .oneMore h hmore⟩
  | noTime => exact fun slots => ⟨slots, .noTime⟩
  | someTimes _ ih => exact fun slots => (ih slots).imp fun _ h => .someTimes h

theorem Task.Walks.withSlots {todo : List Task} {s u : Place} (h : Task.Walks beyond todo s u)
    (slots : Slots) : ∃ slots', Task.Walks beyond todo (s.withSlots slots) (u.withSlots slots') := by
  induction todo generalizing s slots with
  | nil => exact ⟨slots, h ▸ rfl⟩
  | cons task rest ih =>
    obtain ⟨t, htask, hrest⟩ := h
    have htask' : ∃ slots', task.Walk beyond (s.withSlots slots) (t.withSlots slots') := by
      cases task with
      | run p => exact Simple.Walk.withSlots htask slots
      | again since greedy p => exact Simple.Walk.withSlots htask slots
      | close g => exact ⟨slots.closeAt g s.offset, by rw [htask]; rfl⟩
    obtain ⟨slots', htask'⟩ := htask'
    obtain ⟨slots'', hrest'⟩ := ih hrest slots'
    exact ⟨slots'', _, htask', hrest'⟩

/-- A path can be taken with other boundaries set, and when iterations have begun elsewhere. -/
theorem Path.of_shape {todo todo' : List Task} {s u : Place} (h : Path beyond todo s u)
    (hshape : todo'.map Task.shape = todo.map Task.shape) (slots : Slots) :
    ∃ u', Path beyond todo' (s.withSlots slots) u' := by
  have hwalks := Task.walks_map_shape.mp (hshape ▸ Task.walks_map_shape.mpr h.walks)
  obtain ⟨slots', hwalks'⟩ := hwalks.withSlots slots
  exact ⟨_, path_iff_walks.mpr hwalks'⟩

end PatternLoom.Simple
