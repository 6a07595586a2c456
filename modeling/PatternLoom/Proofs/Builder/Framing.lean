import PatternLoom.Proofs.Builder.Supply

/-!
# What a program leaves alone

A program of producers and modifiers that runs on a fresh builder without a failure works on the
fragments it has appended itself. On any other builder it does the same on top of what is there. A
program that is run for a sub-pattern starts on a builder of its own, so whatever it does, the builder
around it only gets one more fragment.
-/

namespace PatternLoom

set_option autoImplicit false

/-- The step works on the last fragments only: it appends one, or changes the last one. -/
def Step.IsLocal (step : Step) : Prop := step.kind = .producer ∨ ∃ m, step.kind = .modifier m

/-- No step of the program fails when it is run on the builder. What goes wrong inside sub-patterns is no
failure of a step. -/
def NoneFails (b : Builder) : List Step → Prop
  | [] => True
  | step :: rest => (step.run b).error = none ∧ NoneFails (step.run b).builder rest

def Builder.over (b c : Builder) : Builder := ⟨b.fragments ++ c.fragments⟩

theorem Builder.over_new (b : Builder) : b.over .new = b :=
  congrArg Builder.mk (List.append_nil _)

theorem Builder.over_push (b c : Builder) (fragment : Text) :
    b.over (c.push fragment) = (b.over c).push fragment :=
  congrArg Builder.mk (List.append_assoc _ _ _).symm

theorem Builder.bare_over (b c : Builder) : (b.over c).bare = b.bare ++ c.bare :=
  List.flatten_append

/-- A local step that does not fail on a builder does the same on top of another one. -/
theorem Step.run_over {step : Step} (hlocal : step.IsLocal) {c : Builder}
    (h : (step.run c).error = none) (b : Builder) :
    step.run (b.over c) = { step.run c with builder := b.over (step.run c).builder } := by
  rcases hlocal with hkind | ⟨m, hkind⟩
  · obtain ⟨fragment, trail, hrun⟩ := Step.run_of_producer hkind
    rw [hrun, hrun, b.over_push]
  · obtain rfl := Step.eq_step_of_kind hkind
    have hc : c.fragments ≠ [] := by
      intro hempty
      rw [m.run_of_empty hempty] at h
      cases h
    obtain ⟨d, fragment, rfl⟩ := Builder.eq_push_of_ne_nil hc
    rw [b.over_push, m.run_push, m.run_push, b.over_push]

/-- A program of local steps of which none fails does the same on top of another builder, and reports
the same. -/
theorem runProgram_over {program : List Step} (hlocal : ∀ step ∈ program, step.IsLocal) (b : Builder) :
    ∀ {c : Builder}, NoneFails c program → NoneFails (b.over c) program ∧
      runProgram (b.over c) program = (b.over (runProgram c program).1, (runProgram c program).2) := by
  induction program with
  | nil => exact fun _ => ⟨trivial, rfl⟩
  | cons step program ih =>
    intro c h
    obtain ⟨hstep, hrest⟩ := h
    have hrun := Step.run_over (hlocal step List.mem_cons_self) hstep b
    obtain ⟨hnone, hprogram⟩ := ih (fun s hs => hlocal s (List.mem_cons_of_mem step hs)) hrest
    constructor
    · rw [NoneFails, hrun]
      exact ⟨hstep, hnone⟩
    · simp only [runProgram, hrun, hprogram]
      rfl

inductive Enclosure where
  | capture
  | behind
  | ahead
deriving DecidableEq, Repr

namespace Enclosure

def step : Enclosure → SubPattern → Step
  | .capture => .captureWith
  | .behind => .behind
  | .ahead => .after

def opening : Enclosure → Text
  | .capture => ['(']
  | .behind => ['(', '?', '<', '=']
  | .ahead => ['(', '?', '=']

/-- A program of any kind, run for a sub-pattern, adds one fragment to the builder around it. -/
theorem run_step (k : Enclosure) (program : List Step) (b : Builder) :
    (k.step (.callback program none)).run b =
      { builder := b.push (k.opening ++ (runProgram .new program).1.bare ++ [')'])
        trail := (runProgram .new program).2 } := by
  cases k <;> rfl

end Enclosure

/-- A capture around the fragments of a program can be written before and behind it. -/
theorem bare_startCapture_endCapture {program : List Step} (hlocal : ∀ step ∈ program, step.IsLocal)
    (h : NoneFails .new program) (b : Builder) :
    (runProgram b ([.token .startCapture] ++ program ++ [.token .endCapture])).1.bare =
      b.bare ++ (['('] ++ (runProgram .new program).1.bare ++ [')']) := by
  obtain ⟨-, hrun⟩ := runProgram_over hlocal (b.push ['(']) h
  rw [Builder.over_new] at hrun
  have hopen : (runProgram b [.token .startCapture]).1 = b.push ['('] := rfl
  have hclose (c : Builder) : (runProgram c [.token .endCapture]).1 = c.push [')'] := rfl
  rw [runProgram_append, runProgram_append, hopen, hrun, hclose, Builder.bare_push, Builder.bare_over,
    Builder.bare_push]
  simp only [List.append_assoc]

/-- What a program of local steps does on a fresh builder without a failure it does on top of any other
builder. A program of any kind that makes a sub-pattern leaves the fragments of the builder around it as
they are, and adds one. So a capture can be made of a sub-pattern or between two brackets. -/
theorem programs_framed (b : Builder) :
    (∀ program : List Step, (∀ step ∈ program, step.IsLocal) → NoneFails .new program →
      NoneFails b program ∧
        (runProgram b program).1.fragments = b.fragments ++ (runProgram .new program).1.fragments ∧
        (runProgram b program).2 = (runProgram .new program).2) ∧
    (∀ (k : Enclosure) (program : List Step),
      let r := (k.step (.callback program none)).run b
      r.error = none ∧ r.builder.fragments =
        b.fragments ++ [k.opening ++ (runProgram .new program).1.bare ++ [')']]) ∧
    ∀ program : List Step, (∀ step ∈ program, step.IsLocal) → NoneFails .new program →
      ((Step.captureWith (.callback program none)).run b).builder.bare =
        (runProgram b ([.token .startCapture] ++ program ++ [.token .endCapture])).1.bare := by
  refine ⟨fun program hlocal h => ?_, fun k program => ?_, fun program hlocal h => ?_⟩
  · obtain ⟨hnone, hrun⟩ := runProgram_over hlocal b h
    rw [b.over_new] at hnone hrun
    rw [hrun]
    exact ⟨hnone, rfl, rfl⟩
  · rw [k.run_step]
    exact ⟨rfl, rfl⟩
  · have hcapture := Enclosure.run_step .capture program b
    rw [Enclosure.step] at hcapture
    rw [bare_startCapture_endCapture hlocal h b, hcapture, Builder.bare_push]
    rfl

/-- A word is made optional on top of a fragment that is not touched. The sub-pattern releases its
builder and fails to capture anything then. -/
theorem programs_framed_optional :
    let b := Builder.new.push ['x']
    let program := [Step.captureWith (.callback [.symbols ['a'], .release, .capture] none),
      .word .any, .optional]
    (∀ step ∈ program, step.IsLocal) ∧ NoneFails .new program ∧
      (runProgram b program).1.fragments = [['x'], ['(', ')'], ['\\', 'w', '+', '?']] ∧
      (runProgram b program).2.errors = [.precedingFragmentRequired .capture] := by
  intro b program
  have hlocal : ∀ step ∈ program, step.IsLocal := by
    simp [program, Step.IsLocal, Step.kind]
  have h : NoneFails .new program := ⟨by decide, by decide, by decide, trivial⟩
  obtain ⟨-, hfragments, htrail⟩ := (programs_framed b).1 program hlocal h
  refine ⟨hlocal, h, ?_, ?_⟩
  · rw [hfragments]
    decide
  · rw [htrail]
    decide

end PatternLoom
