import PatternLoom.Proofs.Engine.SuccessiveMatches
import PatternLoom.Proofs.Pattern.Choice

/-!
# Lists of words

A builder makes a list of words a captured choice of their escaped texts. A search for it takes, at the
least place where some word stands, the word that comes first in the list.
-/

namespace PatternLoom

set_option autoImplicit false

open Reader (choice)
open Text (Successive)

theorem Captures.ofFound?_foundTwice {g : Program} (hgroups : g.groups = 1) (hnames : g.names = [])
    {s w : Text} {q : Nat} (hsize : q ≤ s.length) (hw : w <+: s.drop q) :
    Captures.ofFound? g s (Program.foundTwice (q, w)) = some (wordAt s (q, w)) := by
  have hwhole : (Program.foundTwice (q, w)).span? 0 = some (q, q + w.length) := rfl
  have hgroup : (Program.foundTwice (q, w)).span? 1 = some (q, q + w.length) := rfl
  have hindices : List.range (1 + 1) = [0, 1] := rfl
  rw [ofFound?, hgroups, hnames]
  simp only [hwhole, hgroup, hindices, Option.bind_eq_bind, Option.bind_some, List.map_cons,
    List.map_nil, Option.map_some, ofSpan_eq_matchAt hsize hw]
  rfl

theorem read?_alternation (first : Text) (others : List Text) :
    Pattern.read? (Word.alternation ((first :: others).map Text.escapeLiteral)) =
      some ⟨.capture 1 (choice first others), 1, [], []⟩ := by
  have hroom : 0 < 63 := by decide
  have hreads := Reader.reads_choice (Reader.basic_start (Text.byteLength
    (Word.alternation ((first :: others).map Text.escapeLiteral)))) hroom first others
  rw [← List.append_assoc] at hreads
  exact Reader.read?_of_readsAs (Reader.ReadsAs.of_reads (by simp) hreads)

theorem compile?_alternation (first : Text) (others : List Text) : ∃ (g : Program) (p : Simple),
    Program.compile? (Word.alternation ((first :: others).map Text.escapeLiteral)) = some g ∧
      g.groups = 1 ∧ g.names = [] ∧ (choice first others).simple? = some p ∧
        g.matcher = .onePass (.capture 0 (.capture 1 p)) := by
  have hchoice := Regex.denotes_choice first others
  have hcaptured := hchoice.capture 1
  obtain ⟨p, hp⟩ := Option.isSome_iff_exists.mp
    (hchoice.plain.isSome_simple? (Regex.copyless_choice first others))
  have hcompile := Program.compile?_of_plain (read?_alternation first others) hcaptured.plain
  rw [Regex.simple?, hp, hcaptured.survivors] at hcompile
  exact ⟨_, p, hcompile, rfl, rfl, hp, rfl⟩

namespace Engine

/-- Whatever it has been asked before, an engine compiles a list of words and takes them from a subject
one after the other. Where several words of the list stand at the same place, the one that comes first
in the list is taken. -/
theorem words_search (config : Config) (past : List Request) (words : List Text)
    (hwords : words ≠ []) (hproper : ∀ w ∈ words, w ≠ []) (step : Step)
    (hstep : step = .word (.oneOf (words.map Text.escapeLiteral)) ∨
      step = .words (.oneOf (words.map Text.escapeLiteral))) (s : Text) :
    let e := (Engine.new config).after past
    let b := (runProgram .new [step]).1
    (∃ v, (b.compile e).result = .ok v) ∧
      ∃ spans, Successive (fun q => words.find? fun w => w <+: s.drop q) s.length 0 spans ∧
        (e.findAll b.bare s).result = .ok (spans.map (wordAt s)) := by
  intro e b
  obtain ⟨hf, -⟩ := (faithful_new config).after past
  obtain ⟨first, others, rfl⟩ := List.exists_cons_of_ne_nil hwords
  obtain ⟨g, p, hcompile, hgroups, hnames, hp, hm⟩ := compile?_alternation first others
  have hbare : b.bare = Word.alternation ((first :: others).map Text.escapeLiteral) := by
    rcases hstep with rfl | rfl
    · simp [b, runProgram, Step.run, Word.fragment]
    · simp [b, runProgram, Step.run, Word.runFragment]
  constructor
  · apply hf.compiles_iff.mpr
    rw [hbare, hcompile]
    rfl
  · have hseeks := Program.seeks_choice hproper hgroups hp hm e.config.backtrackLimit s
    have hcaptures : ∀ q w, q ≤ s.length →
        ((first :: others).find? fun w => w <+: s.drop q) = some w →
          Captures.ofFound? g s (Program.foundTwice (q, w)) = some (wordAt s (q, w)) := by
      intro q w hsize hw
      have hfront : w <+: s.drop q := by simpa using List.find?_some hw
      exact Captures.ofFound?_foundTwice hgroups hnames hsize hfront
    obtain ⟨spans, hspans, hall⟩ := hf.findAll_of_seeks hcompile hseeks hcaptures
    refine ⟨spans, hspans, ?_⟩
    rw [hbare, hall]
    exact if_pos (List.all_eq_true.mpr fun n _ => rfl)

/-- The shorter of two words is taken where it comes first, and a bar or a bracket in a word is a
character like any other. -/
theorem words_search_shorter :
    let words : List Text := [['a'], ['a', '|'], [')', 'é']]
    let step : Step := .words (.oneOf (words.map Text.escapeLiteral))
    let e := (Engine.new ⟨0, 1, '/'⟩).after [.isMatch ['('] ['b']]
    let b := (runProgram .new [step]).1
    words ≠ [] ∧ (∀ w ∈ words, w ≠ []) ∧
      (step = .word (.oneOf (words.map Text.escapeLiteral)) ∨
        step = .words (.oneOf (words.map Text.escapeLiteral))) ∧
      (e.findAll b.bare ['a', '|', ')', 'é', 'a']).result = .ok [
        ⟨⟨0, 1, ['a']⟩, [some ⟨0, 1, ['a']⟩, some ⟨0, 1, ['a']⟩], [none, none]⟩,
        ⟨⟨2, 5, [')', 'é']⟩, [some ⟨2, 5, [')', 'é']⟩, some ⟨2, 5, [')', 'é']⟩], [none, none]⟩,
        ⟨⟨5, 6, ['a']⟩, [some ⟨5, 6, ['a']⟩, some ⟨5, 6, ['a']⟩], [none, none]⟩] := by
  intro words step e b
  have hwords : words ≠ [] := by decide
  have hproper : ∀ w ∈ words, w ≠ [] := by decide
  have hstep : step = .word (.oneOf (words.map Text.escapeLiteral)) ∨
    step = .words (.oneOf (words.map Text.escapeLiteral)) := Or.inr rfl
  obtain ⟨-, spans, hspans, hall⟩ := words_search ⟨0, 1, '/'⟩ [.isMatch ['('] ['b']] words hwords
    hproper step hstep ['a', '|', ')', 'é', 'a']
  have hspans' : Successive (fun q => words.find? fun w => w <+: ['a', '|', ')', 'é', 'a'].drop q) 5 0
      [(0, ['a']), (2, [')', 'é']), (4, ['a'])] := by
    apply Successive.next (Text.Next.here (by decide) (by decide))
    apply Successive.next (Text.Next.later (Text.Next.here (by decide) (by decide)) (by decide))
    apply Successive.next (Text.Next.here (by decide) (by decide))
    exact .ended (.last (by decide) (by decide))
  rw [Successive.unique hspans hspans'] at hall
  exact ⟨hwords, hproper, hstep, hall.trans (congrArg Outcome.ok (by decide))⟩

end Engine

end PatternLoom
