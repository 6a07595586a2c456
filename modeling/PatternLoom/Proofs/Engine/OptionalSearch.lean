import PatternLoom.Proofs.Engine.Transparency
import PatternLoom.Proofs.Pattern.Meaning
import PatternLoom.Proofs.Pattern.WholeMatch
import PatternLoom.Proofs.Text.Parts

/-!
# Texts with optional parts

When every occurrence of a key in an escaped text has been made optional, the pattern is read as the
parts of the text with optional groups between them. It matches the text without any of the leftmost
occurrences of the key.
-/

namespace PatternLoom

set_option autoImplicit false

open Reader (anchored literals symbolElements)

/-- The pattern that matches parts with an optional key between them. -/
def optionalText (key : Text) (parts : List Text) : Text :=
  Text.joinWith (Optional.group (Text.escapeLiteral key)) (parts.map Text.escapeLiteral)

def optionalElements (key : Text) : List Text → List Regex
  | [] => []
  | [part] => symbolElements part
  | part :: next :: more =>
    symbolElements part ++
      ([.iterate 0 (some 1) true (literals key)] ++ optionalElements key (next :: more))

theorem occurrencesIn_escapeLiteral {key : Text} (hkey : key ≠ []) (t : Text) :
    Optional.occurrencesIn (Text.escapeLiteral t) (Text.escapeLiteral key) =
      optionalText key (Text.parts key t) := by
  rw [Optional.occurrencesIn, Text.replaceAll, Text.parts_escapeLiteral hkey, optionalText]

namespace Reader

variable {r : Reader} {key : Text}

theorem isRepeatable_literals (hkey : key ≠ []) : (literals key).isRepeatable = true := by
  obtain ⟨c, key, rfl⟩ := List.exists_cons_of_ne_nil hkey
  cases key <;> rfl

theorem readsAs_optionalGroup (hr : r.Basic) (hdepth : r.enclosing.length < 63) (hkey : key ≠ []) :
    ReadsAs r (Optional.group (Text.escapeLiteral key)) 0
      [.iterate 0 (some 1) true (literals key)] := by
  have hbody := readsAs_symbols (hr.inside 0 openedPlain) key
  have hgroup := reads_plain hr hdepth hbody
  have htext : Optional.group (Text.escapeLiteral key) =
      ['(', '?', ':'] ++ (Text.escapeLiteral key ++ [')']) ++ '?' :: ([] ++ lazyMark true) := by
    simp [Optional.group, lazyMark]
  rw [htext]
  exact ReadsAs.quantified hr hgroup (isRepeatable_literals hkey) (by decide) (fun _ => rfl) true

theorem quiet_optionalText_append (parts : List Text) {rest : Text} (h : Quiet rest) :
    Quiet (optionalText key parts ++ rest) := by
  rcases parts with _ | ⟨part, _ | ⟨next, more⟩⟩
  · exact h
  · simpa [optionalText, Text.joinWith] using quiet_escapeLiteral_append part h
  · rw [optionalText, List.map_cons, List.map_cons, joinWith_cons_cons, List.append_assoc]
    exact quiet_escapeLiteral_append part trivial

/-- Parts with optional keys between them, read where there is room for one more group. -/
theorem readsAs_optionalText (hr : r.Basic) (hdepth : r.enclosing.length < 63) (hkey : key ≠ [])
    (parts : List Text) : ReadsAs r (optionalText key parts) 0 (optionalElements key parts) := by
  induction parts generalizing r with
  | nil => exact .nil
  | cons part parts ih =>
    cases parts with
    | nil => simpa [optionalText, Text.joinWith, optionalElements] using readsAs_symbols hr part
    | cons next more =>
      have hsplit : optionalText key (part :: next :: more) = Text.escapeLiteral part ++
          (Optional.group (Text.escapeLiteral key) ++ optionalText key (next :: more)) :=
        joinWith_cons_cons _ _ _ _
      have hrest : ∀ s, s.settle = r.added 0 (symbolElements part) →
          ReadsAs s (Optional.group (Text.escapeLiteral key) ++ optionalText key (next :: more)) 0
            ([.iterate 0 (some 1) true (literals key)] ++ optionalElements key (next :: more)) := by
        intro s hs
        obtain ⟨hbasic, henclosing, -⟩ := frame_of_settle hr hs
        have hroom : s.enclosing.length < 63 := henclosing ▸ hdepth
        have hlater : ∀ s', s'.settle = s.added 0 [.iterate 0 (some 1) true (literals key)] →
            ReadsAs s' (optionalText key (next :: more)) 0 (optionalElements key (next :: more)) := by
          intro s' hs'
          obtain ⟨hbasic', henclosing', -⟩ := frame_of_settle hbasic hs'
          exact ih hbasic' (henclosing' ▸ hroom)
        exact (readsAs_optionalGroup hbasic hroom hkey).append hlater
          fun rest => quiet_optionalText_append (next :: more)
      rw [hsplit, optionalElements]
      exact (readsAs_symbols hr part).append hrest fun rest _ => trivial

theorem read?_optionalText (hkey : key ≠ []) (parts : List Text) :
    Pattern.read? (optionalText key parts) =
      some ⟨.ofElements (optionalElements key parts), 0, [], []⟩ :=
  (read?_of_readsAs_inside fun _ hr hdepth => readsAs_optionalText hr hdepth hkey parts).1

theorem read?_anchored_optionalText (hkey : key ≠ []) (parts : List Text) :
    Pattern.read? (anchored (optionalText key parts)) =
      some ⟨.ofElements (anchoredElements (.ofElements (optionalElements key parts))), 0, [], []⟩ :=
  (read?_of_readsAs_inside fun _ hr hdepth => readsAs_optionalText hr hdepth hkey parts).2

end Reader

namespace Regex

theorem counted_zero_one (l : Language Char) : counted 0 (some 1) l = 1 + l := by
  ext w
  rw [mem_counted, Language.mem_add]
  constructor
  · rintro ⟨k, -, hk, hw⟩
    have hle := hk 1 rfl
    rcases Nat.le_one_iff_eq_zero_or_eq_one.mp hle with rfl | rfl
    · exact Or.inl hw
    · exact Or.inr (by simpa using hw)
  · rintro (hw | hw)
    · exact ⟨0, by simp, by simp, hw⟩
    · exact ⟨1, by simp, by simp, by simpa using hw⟩

theorem denotesAll_optionalElements (key : Text) (parts : List Text) :
    DenotesAll (optionalElements key parts) (Text.choices key parts) [] := by
  induction parts with
  | nil => exact .nil
  | cons part parts ih =>
    cases parts with
    | nil => exact denotesAll_symbols part
    | cons next more =>
      have hkey := (denotes_literals key).iterate 0 (some 1) true
      rw [counted_zero_one] at hkey
      exact (denotesAll_symbols part).append (hkey.singleton.append ih)

theorem copyless_optionalElements (key : Text) (parts : List Text) :
    ∀ p ∈ optionalElements key parts, p.Copyless := by
  induction parts with
  | nil => exact List.forall_mem_nil _
  | cons part parts ih =>
    cases parts with
    | nil => exact copyless_symbols part
    | cons next more =>
      have hkey : (Regex.iterate 0 (some 1) true (literals key)).Copyless :=
        ⟨by decide, by decide, copyless_ofElements (copyless_symbols key)⟩
      exact List.forall_mem_append.mpr ⟨copyless_symbols part, List.forall_mem_cons.mpr ⟨hkey, ih⟩⟩

end Regex

namespace Engine

theorem bare_optionalSymbols {t k : Text} (hk : k ≠ []) {key : SubPattern}
    (hkey : key.evaluate.1 = Text.escapeLiteral k) :
    (runProgram .new [.symbols t, .optionalSymbols key]).1.bare =
      optionalText k (Text.parts k t) := by
  rw [← occurrencesIn_escapeLiteral hk, ← hkey]
  simp [runProgram, Step.run]

/-- Whatever it has been asked before, an engine compiles a text in which a key has been made optional,
and matches it against the texts in which some of the leftmost occurrences of the key are deleted. -/
theorem optionalSymbols_search (config : Config) (past : List Request) (t k : Text) (hk : k ≠ [])
    (key : SubPattern) (hkey : key = .callback [.symbols k] none ∨ key = .built [.symbols k]) :
    let e := (Engine.new config).after past
    let b := (runProgram .new [.symbols t, .optionalSymbols key]).1
    Text.Leftmost k t (Text.occurrences k t) ∧ (∃ v, (b.compile e).result = .ok v) ∧
      ∀ w, ∃ matched, (e.isMatch (anchored b.bare) w).result = .ok matched ∧
        (matched = true ↔ ∃ chosen, chosen.Sublist (Text.occurrences k t) ∧
          w = Text.without k.length chosen t) := by
  intro e b
  obtain ⟨hf, -⟩ := (faithful_new config).after past
  have hevaluate : key.evaluate.1 = Text.escapeLiteral k := by
    rcases hkey with rfl | rfl <;> simp [SubPattern.evaluate, runProgram, Step.run]
  have hbare : b.bare = optionalText k (Text.parts k t) := bare_optionalSymbols hk hevaluate
  have hdenotes := (Regex.denotesAll_optionalElements k (Text.parts k t)).ofElements
  have hcopyless := Regex.copyless_ofElements (Regex.copyless_optionalElements k (Text.parts k t))
  have hsimple := hdenotes.plain.isSome_simple? hcopyless
  have hread := Reader.read?_optionalText hk (Text.parts k t)
  have hanchored := Reader.read?_anchored_optionalText hk (Text.parts k t)
  refine ⟨Text.leftmost_occurrences k t, ?_, ?_⟩
  · apply hf.compiles_iff.mpr
    rw [hbare, Program.compile?_of_plain hread hdenotes.plain, Option.isSome_map, hsimple]
  · intro w
    have hcompiles := Program.isSome_compile?_anchored hanchored hdenotes.plain
    rw [hsimple] at hcompiles
    obtain ⟨g, hg⟩ := Option.isSome_iff_exists.mp hcompiles
    obtain ⟨found, hfound, hiff⟩ :=
      Program.find?_anchored hanchored hdenotes.plain hg e.config.backtrackLimit w
    refine ⟨found.isSome, ?_, hiff.trans ?_⟩
    · rw [hbare]
      exact hf.isMatch_of_find? hg hfound
    · rw [hdenotes.words, Text.mem_choices_parts_iff hk]
      exact Iff.rfl

/-- Of three full stops the first two may be left out, and not the last two besides. -/
theorem optionalSymbols_search_stops :
    let k : Text := ['.', '.']
    let key : SubPattern := .callback [.symbols k] none
    let e := (Engine.new ⟨1000, 1, '/'⟩).after [.compile ['a']]
    let b := (runProgram .new [.symbols ['.', '.', '.'], .optionalSymbols key]).1
    k ≠ [] ∧ (key = .callback [.symbols k] none ∨ key = .built [.symbols k]) ∧
      (∃ v, (b.compile e).result = .ok v) ∧
      (e.isMatch (anchored b.bare) ['.']).result = .ok true ∧
      (e.isMatch (anchored b.bare) ['.', '.']).result = .ok false := by
  intro k key e b
  have hk : k ≠ [] := by decide
  have hkey : key = .callback [.symbols k] none ∨ key = .built [.symbols k] := Or.inl rfl
  have hoccurrences : Text.occurrences k ['.', '.', '.'] = [0] := by decide
  obtain ⟨-, hcompile, hmatch⟩ :=
    optionalSymbols_search ⟨1000, 1, '/'⟩ [.compile ['a']] ['.', '.', '.'] k hk key hkey
  rw [hoccurrences] at hmatch
  obtain ⟨one, hone, hone'⟩ := hmatch ['.']
  obtain ⟨two, htwo, htwo'⟩ := hmatch ['.', '.']
  have hyes : one = true := hone'.mpr ⟨[0], List.Sublist.refl _, by decide⟩
  have hno : two = false := by
    rw [Bool.eq_false_iff]
    intro h
    obtain ⟨chosen, hchosen, hw⟩ := htwo'.mp h
    rcases List.sublist_singleton.mp hchosen with rfl | rfl
    · exact absurd hw (by decide)
    · exact absurd hw (by decide)
  exact ⟨hk, hkey, hcompile, hyes ▸ hone, hno ▸ htwo⟩

end Engine

end PatternLoom
