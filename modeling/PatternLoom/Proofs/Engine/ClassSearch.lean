import PatternLoom.Proofs.Engine.LiteralSearch
import PatternLoom.Proofs.Pattern.BracketReading

/-!
# Classes of escaped characters

A builder makes a class of the pattern of a sub-builder. When that is an escaped text, the class has the
characters of the text for its members, unless a closing bracket is among them: the first one ends the
class, and what follows it is asked for in addition.
-/

namespace PatternLoom

set_option autoImplicit false

open Reader (ReadsAs start symbolElements)

variable {t u : Text}

theorem CharClass.exists_infix_singleton_iff {s : CharClass} {c : Char} :
    (∃ w ∈ s.language, w <:+: [c]) ↔ s.contains c = true := by
  constructor
  · rintro ⟨w, ⟨d, hd, rfl⟩, hinfix⟩
    have hmem : d ∈ [c] := hinfix.subset List.mem_cons_self
    rwa [← List.mem_singleton.mp hmem]
  · intro h
    exact ⟨[c], ⟨c, h, rfl⟩, List.infix_rfl⟩

namespace Program

/-- The program of a plain pattern without groups finds a match where a word stands. -/
theorem exists_of_plain {ps : List Regex} {l : Language Char}
    (hread : ∀ r : Reader, r.Basic → ReadsAs r t 0 ps) (hps : Regex.DenotesAll ps l [])
    (hcopyless : ∀ p ∈ ps, p.Copyless) :
    ∃ g, compile? t = some g ∧ ∀ limit s, ∃ found, g.find? limit s = some found ∧
      (found.isSome = true ↔ ∃ w ∈ l, w <:+: s) := by
  have hdenotes := hps.ofElements
  obtain ⟨p, hp, hspells, -⟩ := hdenotes.exists_simple? (Regex.copyless_ofElements hcopyless)
  have hcompile := compile?_of_plain
    (Reader.read?_of_readsAs (hread _ (Reader.basic_start _))) hdenotes.plain
  rw [hp, Option.map_some] at hcompile
  refine ⟨_, hcompile, fun limit s => ⟨_, rfl, ?_⟩⟩
  rw [isSome_searchOnePass_iff]
  constructor
  · rintro ⟨pre, post, hsplit, v, hwalk⟩
    obtain ⟨w, hw, hpost, -⟩ := (hspells.capture 0).sound hwalk
    have hs : s = pre ++ post := hsplit
    have hpost' : post = w ++ v.ahead := hpost
    exact ⟨w, hw, pre, v.ahead, by rw [hs, hpost', List.append_assoc]⟩
  · rintro ⟨w, hw, pre, rest, hs⟩
    have hsplit : s = pre ++ (w ++ rest) := by rw [← hs, List.append_assoc]
    refine ⟨pre, w ++ rest, hsplit, ?_⟩
    obtain ⟨v, hwalk, -⟩ := (hspells.capture 0).complete none
      (s := ⟨_, w ++ rest, _, _⟩) hw rfl
    exact ⟨v, hwalk⟩

/-- The class of an escaped text is compiled. A text of one character has a match when it is a
character of the class, and never when the class ends early. -/
theorem exists_group (ht : t ≠ []) (hjoin : Text.Unjoined t) :
    ∃ g, compile? ('[' :: (Text.escapeClass (Text.escapeLiteral t) ++ [']'])) = some g ∧
      ∀ limit c, ∃ found, g.find? limit [c] = some found ∧
        (found.isSome = true ↔ ']' ∉ t ∧ c ∈ t) := by
  by_cases hclose : ']' ∈ t
  · obtain ⟨u, v, rfl, hu⟩ := List.eq_append_cons_of_mem hclose
    have hjoin' : Text.Unjoined u := hjoin.of_subset (List.subset_append_left _ _)
    have hdenotes := (Regex.denotes_chars (.listed (u ++ ['\\']))).singleton.append
      (Regex.denotesAll_symbols (Text.escapeClass v ++ [']']))
    have hcopyless : ∀ p ∈ [.chars (.listed (u ++ ['\\']))] ++
        symbolElements (Text.escapeClass v ++ [']']), p.Copyless :=
      List.forall_mem_append.mpr ⟨List.forall_mem_singleton.mpr trivial, Regex.copyless_symbols _⟩
    obtain ⟨g, hcompile, hfind⟩ := exists_of_plain
      (fun r hr => Reader.readsAs_group_closed hr hjoin' hu) hdenotes hcopyless
    refine ⟨g, hcompile, fun limit c => ?_⟩
    obtain ⟨found, hfound, hiff⟩ := hfind limit [c]
    refine ⟨found, hfound, hiff.trans (iff_of_false ?_ fun h => h.1 hclose)⟩
    -- a word has a member of the class and, behind it, the closing bracket
    rintro ⟨w, hw, hinfix⟩
    obtain ⟨a, ⟨d, -, rfl⟩, b, rfl, rfl⟩ := Language.mem_mul.mp hw
    have hlength := hinfix.length_le
    simp only [List.length_append, List.length_singleton] at hlength
    omega
  · have hdenotes := (Regex.denotes_chars (.listed t)).singleton
    obtain ⟨g, hcompile, hfind⟩ := exists_of_plain
      (fun r hr => Reader.readsAs_group hr ht hjoin hclose) hdenotes
      (List.forall_mem_singleton.mpr trivial)
    refine ⟨g, hcompile, fun limit c => ?_⟩
    obtain ⟨found, hfound, hiff⟩ := hfind limit [c]
    refine ⟨found, hfound, hiff.trans ?_⟩
    rw [CharClass.exists_infix_singleton_iff, CharClass.contains_listed]
    exact ⟨fun h => ⟨hclose, h⟩, And.right⟩

end Program

namespace Engine

variable {sub : SubPattern}

theorem bare_group (hsub : sub = .callback [.symbols t] none ∨ sub = .built [.symbols t]) :
    (runProgram .new [.group sub]).1.bare =
      '[' :: (Text.escapeClass (Text.escapeLiteral t) ++ [']']) := by
  simp [runProgram, Step.run, SubPattern.evaluate_symbols hsub]

/-- An engine answers for a single character what the program of the pattern finds in it. -/
theorem Faithful.isMatch_characters {e : Engine} (he : e.Faithful) {b : Builder} {g : Program}
    {Member : Char → Prop} (hcompile : Program.compile? b.bare = some g)
    (hfind : ∀ limit c, ∃ found, g.find? limit [c] = some found ∧
      (found.isSome = true ↔ Member c)) :
    (∃ v, (b.compile e).result = .ok v) ∧
      ∀ c, ∃ matched, (b.isMatch e [c]).result = .ok matched ∧ (matched = true ↔ Member c) := by
  constructor
  · apply he.compiles_iff.mpr
    rw [hcompile]
    rfl
  · intro c
    obtain ⟨found, hfound, hiff⟩ := hfind e.config.backtrackLimit c
    exact ⟨found.isSome, he.isMatch_of_find? hcompile hfound, hiff⟩

theorem Faithful.isMatch_group {e : Engine} (he : e.Faithful) (ht : t ≠ [])
    (hjoin : Text.Unjoined t)
    (hsub : sub = .callback [.symbols t] none ∨ sub = .built [.symbols t]) :
    let b := (runProgram .new [.group sub]).1
    (∃ v, (b.compile e).result = .ok v) ∧
      ∀ c, ∃ matched, (b.isMatch e [c]).result = .ok matched ∧
        (matched = true ↔ ']' ∉ t ∧ c ∈ t) := by
  intro b
  obtain ⟨g, hcompile, hfind⟩ := Program.exists_group ht hjoin
  rw [← bare_group hsub] at hcompile
  exact he.isMatch_characters hcompile hfind

/-- Whatever it has been asked before, an engine compiles the class of an escaped text whose characters
neither join operands nor make ranges. The class has the characters of the text for its members, as long
as no closing bracket is among them; with one, no text of a single character matches. -/
theorem group_search (config : Config) (past : List Request) (t : Text) (ht : t ≠ [])
    (hjoin : Text.Unjoined t) (sub : SubPattern)
    (hsub : sub = .callback [.symbols t] none ∨ sub = .built [.symbols t]) :
    let e := (Engine.new config).after past
    let b := (runProgram .new [.group sub]).1
    (∃ v, (b.compile e).result = .ok v) ∧
      ∀ c, ∃ matched, (b.isMatch e [c]).result = .ok matched ∧
        (matched = true ↔ ']' ∉ t ∧ c ∈ t) := by
  intro e b
  obtain ⟨he, -⟩ := (faithful_new config).after past
  exact he.isMatch_group ht hjoin hsub

/-- An opening bracket, a caret and a backslash are members like any other. -/
theorem group_search_caret :
    let t := ['^', '[', '\\', 'é']
    let sub : SubPattern := .built [.symbols t]
    let e := (Engine.new ⟨0, 1, '/'⟩).after [.clear]
    let b := (runProgram .new [.group sub]).1
    t ≠ [] ∧ Text.Unjoined t ∧ (sub = .callback [.symbols t] none ∨ sub = .built [.symbols t]) ∧
      (b.isMatch e ['^']).result = .ok true ∧ (b.isMatch e ['\\']).result = .ok true ∧
        (b.isMatch e ['e']).result = .ok false := by
  intro t sub e b
  have ht : t ≠ [] := by decide
  have hjoin : Text.Unjoined t := by decide
  have hsub : sub = .callback [.symbols t] none ∨ sub = .built [.symbols t] := Or.inr rfl
  obtain ⟨-, hmatch⟩ := group_search ⟨0, 1, '/'⟩ [.clear] t ht hjoin sub hsub
  have hanswer (c : Char) : (b.isMatch e [c]).result = .ok (decide (']' ∉ t ∧ c ∈ t)) := by
    obtain ⟨matched, hresult, hiff⟩ := hmatch c
    rw [hresult]
    exact congrArg Outcome.ok (Bool.eq_iff_iff.mpr (hiff.trans decide_eq_true_iff.symm))
  exact ⟨ht, hjoin, hsub, hanswer '^', hanswer '\\', hanswer 'e'⟩

/-- The class of a closing bracket, escaped twice, ends behind the backslashes. -/
theorem group_search_closed :
    let sub : SubPattern := .callback [.symbols [']']] none
    let b := (runProgram .new [.group sub]).1
    [']'] ≠ [] ∧ Text.Unjoined [']'] ∧ b.bare = ['[', '\\', '\\', ']', ']'] ∧
      (b.isMatch (Engine.new {}) [']']).result = .ok false := by
  intro sub b
  have ht : [']'] ≠ [] := by decide
  have hjoin : Text.Unjoined [']'] := by decide
  have hsub : sub = .callback [.symbols [']']] none ∨ sub = .built [.symbols [']']] := Or.inl rfl
  obtain ⟨-, hmatch⟩ := (faithful_new {}).isMatch_group ht hjoin hsub
  obtain ⟨matched, hresult, hiff⟩ := hmatch ']'
  have hmatched : matched = false := by
    rw [← Bool.not_eq_true, hiff]
    decide
  exact ⟨ht, hjoin, bare_group hsub, hmatched ▸ hresult⟩

end Engine

end PatternLoom
