import Mathlib.Data.List.Basic
import Mathlib.Data.List.Induction
import PatternLoom.Proofs.Builder.Composition

/-!
# Fragments to act on

A modifier acts on the last fragment and fails without one. Whether there is one can be told from the
steps of a program: since the last release, some step has appended a fragment or has exchanged all
fragments for a single one. The exchange leaves a fragment behind even if there was none before.
-/

namespace PatternLoom

set_option autoImplicit false

/-- What a step is meant to do with the fragments: to append one, to change the last one, to exchange
all of them for a single one, or to drop them. -/
inductive StepKind where
  | producer
  | modifier (m : Modifier)
  | rewrite
  | release
deriving DecidableEq

def Step.kind : Step → StepKind
  | .raw _ | .symbols _ | .token _ | .count _ | .range .. | .word _ | .words _ | .group _
  | .behind _ | .after _ | .captureWith _ => .producer
  | .capture => .modifier .capture
  | .optional => .modifier .optional
  | .optionalSymbols _ | .optionalSubstring .. => .rewrite
  | .release => .release

namespace Modifier

def step : Modifier → Step
  | .capture => .capture
  | .optional => .optional

def apply : Modifier → Text → Text
  | .capture, fragment => captureText fragment
  | .optional, fragment => fragment ++ ['?']

def report : Modifier → Text → Event
  | .capture, fragment => ⟨.trace, "capturing last fragment", [("fragment", fieldText fragment)]⟩
  | .optional, fragment =>
    ⟨.trace, "made last fragment optional", [("fragment", fieldText (fragment ++ ['?']))]⟩

theorem run_of_empty (m : Modifier) {b : Builder} (h : b.fragments = []) :
    m.step.run b = { builder := b, error := some (.precedingFragmentRequired m) } := by
  cases m <;> simp [step, Step.run, Builder.modifyLast?, h]

theorem run_push (m : Modifier) (b : Builder) (fragment : Text) :
    m.step.run (b.push fragment) =
      { builder := b.push (m.apply fragment), trail := ⟨[], [m.report fragment]⟩ } := by
  cases m <;> simp [step, Step.run, Builder.modifyLast?, Builder.push, apply, report, captureText]

end Modifier

namespace Builder

theorem eq_push_of_ne_nil {b : Builder} (h : b.fragments ≠ []) :
    ∃ c fragment, b = Builder.push c fragment := by
  obtain ⟨front, fragment, hb⟩ := (List.eq_nil_or_concat' b.fragments).resolve_left h
  exact ⟨⟨front⟩, fragment, congrArg Builder.mk hb⟩

theorem fragments_push_ne_nil (b : Builder) (fragment : Text) : (b.push fragment).fragments ≠ [] :=
  List.append_ne_nil_of_right_ne_nil _ (List.cons_ne_nil _ _)

end Builder

namespace Step

variable {step : Step} {m : Modifier}

theorem eq_step_of_kind (h : step.kind = .modifier m) : step = m.step := by
  cases step <;> cases h <;> rfl

theorem eq_release_iff : step = .release ↔ step.kind = .release := by
  cases step <;> simp [kind]

/-- What a producer appends, and what it reports, does not depend on the builder. It never fails. -/
theorem run_of_producer (h : step.kind = .producer) :
    ∃ fragment trail, ∀ b, step.run b = { builder := b.push fragment, trail } := by
  cases step with
  | raw | symbols | token | count | range | word | words => exact ⟨_, {}, fun _ => rfl⟩
  | group body => exact ⟨_, body.evaluate.2, fun _ => rfl⟩
  | behind pattern | after pattern | captureWith pattern =>
    exact ⟨_, pattern.evaluate.2, fun _ => rfl⟩
  | capture | optional | optionalSymbols | optionalSubstring | release => cases h

/-- A rewrite leaves a single fragment, or it fails and leaves everything as it was. -/
theorem run_of_rewrite (h : step.kind = .rewrite) (b : Builder) :
    (step.run b).error = none ∧ (∃ pattern, (step.run b).builder = .collapse pattern) ∨
      (step.run b).error ≠ none ∧ (step.run b).builder = b := by
  cases step with
  | optionalSymbols key => exact Or.inl ⟨rfl, _, rfl⟩
  | optionalSubstring start length =>
    unfold run
    split
    · exact Or.inr ⟨Option.some_ne_none _, rfl⟩
    · exact Or.inl ⟨rfl, _, rfl⟩
  | raw | symbols | token | count | range | word | words | group | behind | after | captureWith
  | capture | optional | release => cases h

theorem builder_of_error {b : Builder} (h : (step.run b).error ≠ none) :
    (step.run b).builder = b := by
  cases hkind : step.kind with
  | producer =>
    obtain ⟨fragment, trail, hrun⟩ := run_of_producer hkind
    rw [hrun] at h
    exact absurd rfl h
  | modifier m =>
    obtain rfl := eq_step_of_kind hkind
    by_cases hb : b.fragments = []
    · rw [m.run_of_empty hb]
    · obtain ⟨c, fragment, rfl⟩ := Builder.eq_push_of_ne_nil hb
      rw [m.run_push] at h
      exact absurd rfl h
  | rewrite => exact (run_of_rewrite hkind b).elim (fun hnone => absurd hnone.1 h) And.right
  | release =>
    obtain rfl := eq_release_iff.mpr hkind
    exact absurd rfl h

/-- Run on a builder, the step leaves a fragment whether or not there was one: it appends one, or it
exchanges all fragments for one. -/
def Supplies (b : Builder) (step : Step) : Prop :=
  step.kind = .producer ∨ (∃ key, step = .optionalSymbols key) ∨
    ∃ start length, step = .optionalSubstring start length ∧ (step.run b).error = none

theorem supplies_iff {b : Builder} :
    Supplies b step ↔
      step.kind = .producer ∨ step.kind = .rewrite ∧ (step.run b).error = none := by
  cases step with
  | optionalSymbols key => exact iff_of_true (Or.inr (Or.inl ⟨key, rfl⟩)) (Or.inr ⟨rfl, rfl⟩)
  | optionalSubstring start length => simp [Supplies, kind]
  | raw | symbols | token | count | range | word | words | group | behind | after | captureWith =>
    exact iff_of_true (Or.inl rfl) (Or.inl rfl)
  | capture | optional | release => simp [Supplies, kind]

/-- A step leaves a fragment if it supplies one, or if there was one and it is no release. -/
theorem fragments_run_ne_nil_iff (step : Step) (b : Builder) :
    (step.run b).builder.fragments ≠ [] ↔
      Supplies b step ∨ step ≠ .release ∧ b.fragments ≠ [] := by
  simp only [supplies_iff, Ne, eq_release_iff]
  cases hkind : step.kind with
  | producer =>
    obtain ⟨fragment, trail, hrun⟩ := run_of_producer hkind
    rw [hrun]
    exact iff_of_true (b.fragments_push_ne_nil fragment) (Or.inl (Or.inl rfl))
  | modifier m =>
    obtain rfl := eq_step_of_kind hkind
    by_cases hb : b.fragments = []
    · rw [m.run_of_empty hb]
      simp [hb]
    · obtain ⟨c, fragment, rfl⟩ := Builder.eq_push_of_ne_nil hb
      rw [m.run_push]
      exact iff_of_true (c.fragments_push_ne_nil _) (Or.inr ⟨by simp, hb⟩)
  | rewrite =>
    rcases run_of_rewrite hkind b with ⟨hnone, pattern, hb⟩ | ⟨herror, hb⟩
    · rw [hb]
      exact iff_of_true (List.cons_ne_nil _ _) (Or.inl (Or.inr ⟨rfl, hnone⟩))
    · rw [hb]
      simp [herror]
  | release =>
    obtain rfl := eq_release_iff.mpr hkind
    exact iff_of_false (fun h => h rfl) (by simp)

end Step

/-- Since its last release, a program for a fresh builder has taken a step for which `P` holds. -/
def SinceRelease (P : Builder → Step → Prop) (program : List Step) : Prop :=
  ∃ front step rear, program = front ++ step :: rear ∧ Step.release ∉ rear ∧
    P (runProgram .new front).1 step

theorem not_sinceRelease_nil (P : Builder → Step → Prop) : ¬ SinceRelease P [] := by
  rintro ⟨front, step, rear, h, -⟩
  exact List.append_ne_nil_of_right_ne_nil front (List.cons_ne_nil step rear) h.symm

theorem sinceRelease_concat {P : Builder → Step → Prop} {program : List Step} {step : Step} :
    SinceRelease P (program ++ [step]) ↔
      P (runProgram .new program).1 step ∨ step ≠ .release ∧ SinceRelease P program := by
  constructor
  · rintro ⟨front, s, rear, hsplit, hrear, hs⟩
    rcases List.eq_nil_or_concat' rear with rfl | ⟨rear, last, rfl⟩
    · obtain ⟨rfl, hstep⟩ := List.append_inj' hsplit rfl
      exact Or.inl (List.singleton_inj.mp hstep ▸ hs)
    · rw [← List.cons_append, ← List.append_assoc] at hsplit
      obtain ⟨rfl, hstep⟩ := List.append_inj' hsplit rfl
      obtain rfl := List.singleton_inj.mp hstep
      rw [List.mem_append, not_or, List.mem_singleton] at hrear
      exact Or.inr ⟨Ne.symm hrear.2, front, s, rear, rfl, hrear.1, hs⟩
  · rintro (hs | ⟨hstep, front, s, rear, rfl, hrear, hs⟩)
    · exact ⟨program, step, [], rfl, List.not_mem_nil, hs⟩
    · refine ⟨front, s, rear ++ [step], by simp, ?_, hs⟩
      rw [List.mem_append, not_or, List.mem_singleton]
      exact ⟨hrear, Ne.symm hstep⟩

/-- A program leaves a fragment exactly if it has supplied one since its last release. -/
theorem fragments_runProgram_ne_nil_iff (program : List Step) :
    (runProgram .new program).1.fragments ≠ [] ↔ SinceRelease Step.Supplies program := by
  induction program using List.reverseRecOn with
  | nil => exact iff_of_false (fun h => h rfl) (not_sinceRelease_nil _)
  | append_singleton program step ih =>
    rw [runProgram_append, runProgram_singleton, step.fragments_run_ne_nil_iff, ih,
      sinceRelease_concat]

/-- After any program a modifier fails exactly if no fragment has been supplied since the last release.
A step that fails leaves all fragments as they were. -/
theorem modifier_fails_iff (program : List Step) :
    let b := (runProgram .new program).1
    (∀ m : Modifier,
      ((m.step.run b).error = some (.precedingFragmentRequired m) ↔
        ¬ SinceRelease Step.Supplies program) ∧
      ((m.step.run b).error = none ↔ SinceRelease Step.Supplies program)) ∧
    ∀ step : Step, (step.run b).error ≠ none → (step.run b).builder = b := by
  intro b
  refine ⟨fun m => ?_, fun step => Step.builder_of_error⟩
  rw [← fragments_runProgram_ne_nil_iff program]
  by_cases hb : b.fragments = []
  · rw [m.run_of_empty hb]
    exact ⟨iff_of_true rfl (not_not.mpr hb), iff_of_false (Option.some_ne_none _) (not_not.mpr hb)⟩
  · obtain ⟨c, fragment, hpush⟩ := Builder.eq_push_of_ne_nil hb
    have herror : (m.step.run b).error = none := by rw [hpush, m.run_push]
    rw [herror]
    exact ⟨iff_of_false (Option.some_ne_none _).symm (not_not.mpr hb), iff_of_true rfl hb⟩

/-- Where a key occurs nowhere, an empty builder still gets a fragment by making it optional. The text
stays empty, and no step has appended anything. -/
theorem modifier_acts_on_nothing :
    let program := [Step.optionalSymbols (.literal ['x'])]
    let b := (runProgram .new program).1
    ¬ SinceRelease (fun b step => step.kind = .producer ∨
        (∃ start length, step = .optionalSubstring start length) ∧ (step.run b).error = none)
        program ∧
      b.bare = [] ∧ (Step.capture.run b).error = none ∧ (Step.optional.run b).error = none := by
  intro program b
  refine ⟨?_, ?_, by decide, by decide⟩
  · rw [show program = [] ++ program from rfl, sinceRelease_concat]
    simp [Step.kind, not_sinceRelease_nil]
  · cbv

end PatternLoom
