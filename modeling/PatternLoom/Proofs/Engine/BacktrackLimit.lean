import PatternLoom.Proofs.Engine.Transparency
import PatternLoom.Proofs.Pattern.Budget

/-!
# Limits on backtracking

Two engines that differ in their limits on backtracking steps compile the same patterns. What the one
with the smaller limit finds, the other finds as well; where the other one gives up, so does the first.
-/

namespace PatternLoom.Engine

set_option autoImplicit false

/-- An answer and the answer under a larger limit. A value stays, as does everything else that is not the
error of a limit exceeded, and steps that were too many for the larger limit were too many before. -/
structure Firmer {β : Type} (x y : Outcome β) : Prop where
  ok : ∀ b, x = .ok b → y = .ok b
  panicked : x = .panicked → y = .panicked
  endless : x = .endless → y = .endless
  exhausted : ∀ p, y = .error (.exhausted p) → x = .error (.exhausted p)

variable {β : Type} {limit limit' : Nat} {p : Text}

/-- A run under a larger limit comes to the same, unless the smaller one has been exceeded. -/
def Extends (p : Text) (x y : Outcome β) : Prop := x = y ∨ x = .error (.exhausted p)

theorem Extends.firmer {x y : Outcome β} (h : Extends p x y)
    (hp : ∀ q, y = .error (.exhausted q) → q = p) : Firmer x y := by
  rcases h with rfl | rfl
  · exact ⟨fun _ h => h, id, id, fun _ h => h⟩
  · exact ⟨nofun, nofun, nofun, fun q hq => hp q hq ▸ rfl⟩

theorem firmer_outcome {run : Nat → Program → Outcome β}
    (hrun : ∀ g, Extends p (run limit g) (run limit' g))
    (hp : ∀ g q, run limit' g = .error (.exhausted q) → q = p) :
    Firmer (outcome limit p run) (outcome limit' p run) := by
  cases hcompile : Program.compile? p with
  | none =>
    rw [outcome_of_compile?_eq_none hcompile, outcome_of_compile?_eq_none hcompile]
    exact ⟨nofun, nofun, nofun, fun _ h => h⟩
  | some g =>
    rw [outcome_of_compile? hcompile, outcome_of_compile? hcompile]
    exact (hrun g).firmer (hp g)

theorem extends_ofSearch {α : Type} {x y : Option α} (h : ∀ a, x = some a → y = some a) (f : α → β) :
    Extends p (.ofSearch p (x.map f)) (.ofSearch p (y.map f)) := by
  cases x with
  | none => exact Or.inr rfl
  | some a => exact Or.inl (by rw [h a rfl])

theorem of_ofSearch_eq_exhausted {x : Option β} {q : Text}
    (h : Outcome.ofSearch p x = .error (.exhausted q)) : q = p := by
  obtain ⟨-, hq⟩ := Outcome.ofSearch_eq_error_iff.mp h
  exact PatternError.exhausted.inj hq

theorem of_conclude_eq_exhausted {ending : Program.Ending} {b : β} {q : Text}
    (h : ending.conclude p b = .error (.exhausted q)) : q = p := by
  obtain ⟨-, hq⟩ := Program.Ending.conclude_eq_error_iff.mp h
  exact PatternError.exhausted.inj hq

theorem extends_allCaptures (hle : limit ≤ limit') (s : Text) (g : Program) :
    Extends p (allCaptures p s limit g) (allCaptures p s limit' g) := by
  rw [allCaptures, allCaptures]
  rcases g.findAll_of_le hle s with heq | ⟨hending, -⟩
  · exact Or.inl (by rw [heq])
  · exact Or.inr (by rw [hending]; rfl)

/-- A slice that does not exist is missed by a longer list of matches as well. -/
theorem splice?_eq_none_of_isPrefix {r : Text} {position : Nat} {rest : Text}
    {spans spans' : List (Nat × Nat × Captures)} (hfront : spans <+: spans')
    (h : splice? r position rest spans = none) : splice? r position rest spans' = none := by
  induction spans generalizing position rest spans' with
  | nil => cases h
  | cons x spans ih =>
    obtain ⟨more, rfl⟩ := hfront
    obtain ⟨start, stop, caps⟩ := x
    rw [List.cons_append, splice?]
    rw [splice?] at h
    by_cases hstart : start < position
    · exact if_pos hstart
    · rw [if_neg hstart, Option.map_eq_none_iff] at h ⊢
      exact ih (List.prefix_append _ _) h

theorem extends_replaced (hle : limit ≤ limit') (r s : Text) (g : Program) :
    Extends p (replaced p r s limit g) (replaced p r s limit' g) := by
  rw [replaced, replaced]
  rcases g.findAll_of_le hle s with heq | ⟨hending, hfront⟩
  · exact Or.inl (by rw [heq])
  · cases hsplice : splice? r 0 s ((g.findAll limit s).found.filterMap (spanned? g s)) with
    | none =>
      rw [splice?_eq_none_of_isPrefix (hfront.filterMap _) hsplice]
      exact Or.inl rfl
    | some t =>
      rw [hending]
      exact Or.inr rfl

theorem of_replaced_eq_exhausted {r s q : Text} {g : Program}
    (h : replaced p r s limit g = .error (.exhausted q)) : q = p := by
  rw [replaced] at h
  split at h
  · exact of_conclude_eq_exhausted h
  · cases h

/-- Whatever they have been asked before, of two engines the one with the larger limit gives every
value that the other gives, and it exceeds its limit only where the other does. They compile the same
patterns. -/
theorem answers_firmer {config config' : Config}
    (hle : config.backtrackLimit ≤ config'.backtrackLimit) (past past' : List Request)
    (p r s : Text) :
    let e := (Engine.new config).after past
    let e' := (Engine.new config').after past'
    (e.compile p).result.map (·.value) = (e'.compile p).result.map (·.value) ∧
      Firmer (e.isMatch p s).result (e'.isMatch p s).result ∧
      Firmer (e.findFirst p s).result (e'.findFirst p s).result ∧
      Firmer (e.findAll p s).result (e'.findAll p s).result ∧
      Firmer (e.replace p r s).result (e'.replace p r s).result := by
  intro e e'
  obtain ⟨hf, hconfig⟩ := (faithful_new config).after past
  obtain ⟨hf', hconfig'⟩ := (faithful_new config').after past'
  have hlimit : e.config.backtrackLimit ≤ e'.config.backtrackLimit := by
    rw [hconfig, hconfig']
    exact hle
  refine ⟨?_, ?_, ?_, ?_, ?_⟩
  · rw [(hf.compile p).1, (hf'.compile p).1]
  · rw [isMatch, isMatch, (hf.execute _ _ _).1, (hf'.execute _ _ _).1]
    exact firmer_outcome (fun g => extends_ofSearch (fun _ => Program.find?_of_le hlimit) _)
      fun _ _ => of_ofSearch_eq_exhausted
  · rw [findFirst, findFirst, (hf.execute _ _ _).1, (hf'.execute _ _ _).1]
    exact firmer_outcome (fun g => extends_ofSearch (fun _ => Program.find?_of_le hlimit) _)
      fun _ _ => of_ofSearch_eq_exhausted
  · rw [findAll, findAll, (hf.execute _ _ _).1, (hf'.execute _ _ _).1]
    exact firmer_outcome (extends_allCaptures hlimit s) fun _ _ => of_conclude_eq_exhausted
  · rw [replace, replace, (hf.execute _ _ _).1, (hf'.execute _ _ _).1]
    exact firmer_outcome (extends_replaced hlimit r s) fun _ _ => of_replaced_eq_exhausted

/-- A look-behind, which is matched by backtracking: each character that is passed over costs a step.
The limits are one step and two. -/
theorem answers_firmer_lookBehind :
    let small : Config := ⟨1, 1, '/'⟩
    let large : Config := ⟨2, 0, '#'⟩
    let e := (Engine.new small).after []
    let e' := (Engine.new large).after [.compile ['a']]
    let p : Text := ['(', '?', '<', '=', 'a', ')', 'b']
    small.backtrackLimit ≤ large.backtrackLimit ∧
      (e.replace p ['c'] ['a', 'b']).result = .ok ['a', 'c'] ∧
      (e'.replace p ['c'] ['a', 'b']).result = .ok ['a', 'c'] ∧
      (e.isMatch p ['x', 'a', 'b']).result = .error (.exhausted p) ∧
      (e'.isMatch p ['x', 'a', 'b']).result = .ok true ∧
      (e'.isMatch p ['x', 'x', 'a', 'b']).result = .error (.exhausted p) ∧
      (e.isMatch p ['x', 'x', 'a', 'b']).result = .error (.exhausted p) := by
  intro small large e e' p
  have hle : small.backtrackLimit ≤ large.backtrackLimit := by decide
  have hreplace : (e.replace p ['c'] ['a', 'b']).result = .ok ['a', 'c'] := by decide +kernel
  have hshort : (e.isMatch p ['x', 'a', 'b']).result = .error (.exhausted p) := by decide +kernel
  have hmatch : (e'.isMatch p ['x', 'a', 'b']).result = .ok true := by decide +kernel
  have hlong : (e'.isMatch p ['x', 'x', 'a', 'b']).result = .error (.exhausted p) := by
    decide +kernel
  obtain ⟨-, -, -, -, hfirm⟩ := answers_firmer hle [] [.compile ['a']] p ['c'] ['a', 'b']
  obtain ⟨-, hfirm', -⟩ := answers_firmer hle [] [.compile ['a']] p [] ['x', 'x', 'a', 'b']
  exact ⟨hle, hreplace, hfirm.ok _ hreplace, hshort, hmatch, hlong, hfirm'.exhausted p hlong⟩

end PatternLoom.Engine
