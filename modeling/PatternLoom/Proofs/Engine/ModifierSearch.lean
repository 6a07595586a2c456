import PatternLoom.Proofs.Engine.Agreement
import PatternLoom.Proofs.Engine.OptionalSearch

/-!
# Optional fragments and optional spans

A question mark makes optional what stands right in front of it. Behind an escaped text that is the last
character, so a fragment is left out as a whole only when it has a single character. A span of a text is
put into a group, and is left out as a whole. An empty span makes an empty group, which nothing can make
optional: the pattern is not compiled.
-/

namespace PatternLoom

set_option autoImplicit false

open Reader (ReadsAs anchored)

theorem Text.mem_choices_pair {key a b w : Text} :
    w ∈ choices key [a, b] ↔ w = a ++ b ∨ w = a ++ (key ++ b) := by
  rw [choices, mem_singleton_mul]
  constructor
  · rintro ⟨v, hv, rfl⟩
    rcases mem_optional_mul.mp hv with hv | ⟨u, hu, rfl⟩
    · exact Or.inl (congrArg (a ++ ·) hv)
    · exact Or.inr (congrArg (fun u => a ++ (key ++ u)) hu)
  · rintro (rfl | rfl)
    · exact ⟨b, mem_optional_mul.mpr (Or.inl rfl), rfl⟩
    · exact ⟨key ++ b, mem_optional_mul.mpr (Or.inr ⟨b, rfl, rfl⟩), rfl⟩

theorem optionalText_pair (key a b : Text) : optionalText key [a, b] =
    Text.escapeLiteral a ++ (Optional.group (Text.escapeLiteral key) ++ Text.escapeLiteral b) := by
  simp [optionalText, Text.joinWith]

namespace Reader

variable {r : Reader}

/-- A question mark behind an escaped text is read together with its last character. -/
theorem readsAs_lastOptional (hr : r.Basic) (t : Text) (c : Char) :
    ReadsAs r (Text.escapeLiteral (t ++ [c]) ++ ['?']) 0 (optionalElements [c] [t, []]) := by
  have hlast : ∀ r', r'.settle = r.added 0 (symbolElements t) →
      ReadsAs r' (Text.escapeLiteral [c] ++ ['?']) 0 [.iterate 0 (some 1) true (literals [c])] := by
    intro r' hr'
    obtain ⟨hbasic, -, -⟩ := frame_of_settle hr hr'
    change ReadsAs r' (Text.escapeLiteral [c] ++ '?' :: ([] ++ lazyMark true)) 0 _
    exact ReadsAs.quantified hbasic (reads_symbol hbasic c) rfl (by decide) (fun _ => rfl) true
  rw [Text.escapeLiteral_append, List.append_assoc]
  refine (readsAs_symbols hr t).append hlast fun rest _ => ?_
  rw [List.append_assoc]
  exact quiet_symbol_append c _

/-- Nothing is left of an empty group that a question mark could follow. -/
theorem fails_optionalText_empty (hr : r.Basic) (hdepth : r.enclosing.length < 63) (a b : Text) :
    Fails Quiet r (optionalText [] [a, b]) := by
  obtain ⟨r', hr', hread⟩ := readsAs_symbols hr a
  obtain ⟨hbasic, henclosing, -⟩ := frame_of_settle hr hr'
  have hgroup := reads_plain hbasic (henclosing ▸ hdepth) .nil
  have hmark : Fails Any (r'.offered 0 (.ofElements [])) ['?'] :=
    .of_step (hbasic.offered 0 _).flags (by simp) fun _ _ => rfl
  have hempty : Fails Any r' (Optional.group []) := hgroup.fails hmark fun _ _ => trivial
  rw [optionalText_pair]
  exact hread.fails (hempty.append fun _ _ => trivial) fun _ _ => trivial

end Reader

namespace Engine

/-- An engine compiles a pattern that is read as plain elements without groups. Between anchors it
matches their words and no other texts. -/
theorem Faithful.isMatch_anchored {e : Engine} (he : e.Faithful) {t : Text} {ps : List Regex}
    {l : Language Char}
    (hread : ∀ r : Reader, r.Basic → r.enclosing.length < 63 → ReadsAs r t 0 ps)
    (hps : Regex.DenotesAll ps l []) (hcopyless : ∀ p ∈ ps, p.Copyless) :
    (∃ v, (e.compile t).result = .ok v) ∧
      ∀ w, ∃ matched, (e.isMatch (anchored t) w).result = .ok matched ∧
        (matched = true ↔ w ∈ l) := by
  obtain ⟨halone, hbetween⟩ := Reader.read?_of_readsAs_inside hread
  have hdenotes := hps.ofElements
  have hsimple := hdenotes.plain.isSome_simple? (Regex.copyless_ofElements hcopyless)
  have hcompiles := Program.isSome_compile?_anchored hbetween hdenotes.plain
  rw [hsimple] at hcompiles
  obtain ⟨g, hg⟩ := Option.isSome_iff_exists.mp hcompiles
  constructor
  · apply he.compiles_iff.mpr
    rw [Program.compile?_of_plain halone hdenotes.plain, Option.isSome_map, hsimple]
  · intro w
    obtain ⟨found, hfound, hiff⟩ :=
      Program.find?_anchored hbetween hdenotes.plain hg e.config.backtrackLimit w
    exact ⟨found.isSome, he.isMatch_of_find? hg hfound, hdenotes.words ▸ hiff⟩

theorem Faithful.isMatch_optionalPart {e : Engine} (he : e.Faithful) {t key a b : Text}
    (hread : ∀ r : Reader, r.Basic → r.enclosing.length < 63 →
      ReadsAs r t 0 (optionalElements key [a, b])) :
    (∃ v, (e.compile t).result = .ok v) ∧
      ∀ w, ∃ matched, (e.isMatch (anchored t) w).result = .ok matched ∧
        (matched = true ↔ w = a ++ b ∨ w = a ++ (key ++ b)) := by
  obtain ⟨hcompile, hmatch⟩ := he.isMatch_anchored hread
    (Regex.denotesAll_optionalElements key [a, b]) (Regex.copyless_optionalElements key [a, b])
  exact ⟨hcompile, fun w => (hmatch w).imp fun _ h => ⟨h.1, h.2.trans Text.mem_choices_pair⟩⟩

section Fragment

variable {p t : Text}

theorem bare_optional (p t : Text) :
    (runProgram .new [.symbols p, .symbols t, .optional]).1.bare =
      Text.escapeLiteral (p ++ t) ++ ['?'] := by
  simp [runProgram, Step.run, Builder.modifyLast?, Builder.push, Builder.new, Builder.bare,
    Text.escapeLiteral_append]

theorem Faithful.isMatch_optional {e : Engine} (he : e.Faithful) (p : Text) (ht : t ≠ []) :
    let b := (runProgram .new [.symbols p, .symbols t, .optional]).1
    (∃ v, (b.compile e).result = .ok v) ∧
      ∀ w, ∃ matched, (e.isMatch (anchored b.bare) w).result = .ok matched ∧
        (matched = true ↔ w = p ++ t.dropLast ∨ w = p ++ t) := by
  intro b
  have hsplit : p ++ t = p ++ t.dropLast ++ [t.getLast ht] := by
    rw [List.append_assoc, List.dropLast_append_getLast]
  have hbare : b.bare = Text.escapeLiteral (p ++ t.dropLast ++ [t.getLast ht]) ++ ['?'] := by
    rw [← hsplit]
    exact bare_optional p t
  obtain ⟨hcompile, hmatch⟩ := he.isMatch_optionalPart fun r hr _ =>
    Reader.readsAs_lastOptional hr (p ++ t.dropLast) (t.getLast ht)
  rw [← hbare, List.append_nil, List.append_nil, ← hsplit] at hmatch
  rw [← hbare] at hcompile
  exact ⟨hcompile, hmatch⟩

/-- Whatever it has been asked before, an engine compiles two texts of which the second has been made
optional as the last fragment. The pattern does without the last character of the second text; it does
without the whole of it exactly when there is no other character. -/
theorem optional_search (config : Config) (past : List Request) (p t : Text) (ht : t ≠ []) :
    let e := (Engine.new config).after past
    let b := (runProgram .new [.symbols p, .symbols t, .optional]).1
    (∃ v, (b.compile e).result = .ok v) ∧
      (∀ w, ∃ matched, (e.isMatch (anchored b.bare) w).result = .ok matched ∧
        (matched = true ↔ w = p ++ t.dropLast ∨ w = p ++ t)) ∧
      ((∀ w, (e.isMatch (anchored b.bare) w).result = .ok true ↔ w = p ∨ w = p ++ t) ↔
        t.length = 1) := by
  intro e b
  obtain ⟨he, -⟩ := (faithful_new config).after past
  obtain ⟨hcompile, hmatch⟩ := he.isMatch_optional p ht
  have hyes (w : Text) : (e.isMatch (anchored b.bare) w).result = .ok true ↔
      w = p ++ t.dropLast ∨ w = p ++ t := by
    obtain ⟨matched, hresult, hiff⟩ := hmatch w
    rw [hresult, ← hiff, Outcome.ok.injEq]
  refine ⟨hcompile, hmatch, ?_⟩
  simp only [hyes]
  constructor
  · intro h
    have hp : p = p ++ t.dropLast ∨ p = p ++ t := (h p).mpr (Or.inl rfl)
    have hpos := List.length_pos_iff.mpr ht
    rcases hp with hp | hp
    · have hlength := congrArg List.length hp
      rw [List.length_append, List.length_dropLast] at hlength
      omega
    · exact absurd (List.self_eq_append_right.mp hp) ht
  · intro h w
    obtain ⟨c, rfl⟩ := List.length_eq_one_iff.mp h
    rw [List.dropLast_singleton, List.append_nil]

/-- The question mark goes with the escaped character, and not with its backslash alone. -/
theorem optional_search_stop :
    let e := (Engine.new ⟨0, 1, '/'⟩).after [.compile ['(']]
    let b := (runProgram .new [.symbols ['é'], .symbols ['.'], .optional]).1
    ['.'] ≠ [] ∧ b.bare = ['é', '\\', '.', '?'] ∧ (∃ v, (b.compile e).result = .ok v) ∧
      (e.isMatch (anchored b.bare) ['é']).result = .ok true ∧
      (e.isMatch (anchored b.bare) ['é', '.']).result = .ok true := by
  intro e b
  have ht : ['.'] ≠ [] := by decide
  obtain ⟨hcompile, -, hwhole⟩ := optional_search ⟨0, 1, '/'⟩ [.compile ['(']] ['é'] ['.'] ht
  have hyes := hwhole.mpr rfl
  exact ⟨ht, by decide, hcompile, (hyes _).mpr (Or.inl rfl), (hyes _).mpr (Or.inr rfl)⟩

/-- Of two characters the first one stays. -/
theorem optional_keeps_front :
    let e := Engine.new {}
    let b := (runProgram .new [.symbols ['a'], .symbols ['b', 'c'], .optional]).1
    (e.isMatch (anchored b.bare) ['a']).result = .ok false ∧
      (e.isMatch (anchored b.bare) ['a', 'b']).result = .ok true ∧
      ¬∀ w, (e.isMatch (anchored b.bare) w).result = .ok true ↔
        w = ['a'] ∨ w = ['a'] ++ ['b', 'c'] := by
  intro e b
  have ht : ['b', 'c'] ≠ [] := by decide
  obtain ⟨-, hmatch⟩ := (faithful_new {}).isMatch_optional ['a'] ht
  obtain ⟨short, hshort, hshort'⟩ := hmatch ['a']
  obtain ⟨front, hfront, hfront'⟩ := hmatch ['a', 'b']
  have hno : short = false := by
    rw [← Bool.not_eq_true, hshort']
    decide
  have hyes : front = true := hfront'.mpr (by decide)
  rw [hno] at hshort
  rw [hyes] at hfront
  exact ⟨hshort, hfront, fun h => absurd ((h ['a', 'b']).mp hfront) (by decide)⟩

end Fragment

section Span

variable {t : Text}

theorem bare_optionalSubstring (ht : ∀ c ∈ t, Text.isMeta c = false) {start : Nat}
    (hstart : start ≤ t.length) (length : Nat) :
    (runProgram .new [.symbols t, .optionalSubstring start length]).1.bare =
      optionalText ((t.drop start).take length) [t.take start, t.drop (start + length)] := by
  have hsub {u : Text} (hu : u.Sublist t) : Text.escapeLiteral u = u :=
    Text.escapeLiteral_eq_self fun c hc => ht c (hu.subset hc)
  have hspan := (List.take_sublist length (t.drop start)).trans (List.drop_sublist start t)
  rw [optionalText_pair, hsub hspan, hsub (List.take_sublist _ _), hsub (List.drop_sublist _ _)]
  simp [runProgram, Step.run, Optional.spanIn, hsub (List.Sublist.refl t), hstart]

/-- A pattern with an empty group to be optional is rejected, alone and between anchors. -/
theorem rejected_optionalText_empty (config : Config) (past : List Request) (a b : Text) :
    let e := (Engine.new config).after past
    let t := optionalText [] [a, b]
    (e.compile t).result = .error (.malformed t) ∧
      ∀ w, (e.isMatch (anchored t) w).result = .error (.malformed (anchored t)) := by
  intro e t
  obtain ⟨halone, hbetween⟩ := Reader.read?_of_fails_inside fun r hr hdepth =>
    Reader.fails_optionalText_empty hr hdepth a b
  have hcompile : Program.compile? t = none := by
    rw [Program.compile?, halone]
    rfl
  have hcompile' : Program.compile? (anchored t) = none := by
    rw [Program.compile?, hbetween]
    rfl
  have hrejected : (answers config t).Rejected t := rejected_of_compile? hcompile
  have hrejected' : (answers config (anchored t)).Rejected (anchored t) :=
    rejected_of_compile? hcompile'
  exact ⟨hrejected.compile past, hrejected'.isMatch past⟩

/-- Whatever it has been asked before, an engine compiles a text of which a span has been made optional,
as long as there is a character in the span; the text matches with the span and without it. An empty
span makes a pattern that is rejected. -/
theorem optionalSubstring_search (config : Config) (past : List Request) (t : Text)
    (ht : ∀ c ∈ t, Text.isMeta c = false) (start length : Nat) (hstart : start ≤ t.length) :
    let e := (Engine.new config).after past
    let b := (runProgram .new [.symbols t, .optionalSubstring start length]).1
    let stop := min (start + length) t.length
    (start < stop → (∃ v, (b.compile e).result = .ok v) ∧
        ∀ w, ∃ matched, (e.isMatch (anchored b.bare) w).result = .ok matched ∧
          (matched = true ↔ w = t ∨ w = t.take start ++ t.drop stop)) ∧
      (start = stop → (b.compile e).result = .error (.malformed b.bare) ∧
        ∀ w, (e.isMatch (anchored b.bare) w).result =
          .error (.malformed (anchored b.bare))) := by
  intro e b stop
  obtain ⟨he, -⟩ := (faithful_new config).after past
  have hbare : b.bare = optionalText _ _ := bare_optionalSubstring ht hstart length
  have hstop : t.drop stop = t.drop (start + length) := List.drop_eq_drop_min.symm
  have hsplit : t.take start ++ ((t.drop start).take length ++ t.drop (start + length)) = t := by
    rw [← List.drop_drop, List.take_append_drop, List.take_append_drop]
  constructor
  · intro hlt
    have hkey : (t.drop start).take length ≠ [] := by
      rw [← List.length_pos_iff, List.length_take, List.length_drop]
      omega
    obtain ⟨hcompile, hmatch⟩ := he.isMatch_optionalPart fun r hr hdepth =>
      Reader.readsAs_optionalText hr hdepth hkey [t.take start, t.drop (start + length)]
    rw [← hbare] at hcompile hmatch
    rw [hsplit, ← hstop] at hmatch
    exact ⟨hcompile, fun w => (hmatch w).imp fun _ h => ⟨h.1, h.2.trans or_comm⟩⟩
  · intro heq
    have hkey : (t.drop start).take length = [] := by
      rw [← List.length_eq_zero_iff, List.length_take, List.length_drop]
      omega
    rw [hkey] at hbare
    have hrejected :=
      rejected_optionalText_empty config past (t.take start) (t.drop (start + length))
    rwa [← hbare] at hrejected

/-- A span may reach as far past the end as a length can say. -/
theorem optionalSubstring_search_overlong :
    let t : Text := ['c', 'a', 'f', 'é']
    let e := (Engine.new {}).after [.clear]
    let b := (runProgram .new [.symbols t, .optionalSubstring 1 18446744073709551615]).1
    (∀ c ∈ t, Text.isMeta c = false) ∧ 1 ≤ t.length ∧ 1 < min (1 + 18446744073709551615) t.length ∧
      (∃ v, (b.compile e).result = .ok v) ∧
      (e.isMatch (anchored b.bare) ['c']).result = .ok true ∧
      (e.isMatch (anchored b.bare) t).result = .ok true ∧
      (e.isMatch (anchored b.bare) ['c', 'a']).result = .ok false := by
  intro t e b
  have ht : ∀ c ∈ t, Text.isMeta c = false := by simp [t, Text.isMeta, Text.metaCharacters]
  have hstart : 1 ≤ t.length := by decide
  have hspan : 1 < min (1 + 18446744073709551615) t.length := by decide
  obtain ⟨hfull, -⟩ :=
    optionalSubstring_search {} [.clear] t ht 1 18446744073709551615 hstart
  obtain ⟨hcompile, hmatch⟩ := hfull hspan
  have hanswer (w : Text) : (e.isMatch (anchored b.bare) w).result =
      .ok (decide (w = t ∨ w = ['c'])) := by
    obtain ⟨matched, hresult, hiff⟩ := hmatch w
    rw [hresult]
    exact congrArg Outcome.ok (Bool.eq_iff_iff.mpr (hiff.trans decide_eq_true_iff.symm))
  exact ⟨ht, hstart, hspan, hcompile, hanswer ['c'], hanswer t, hanswer ['c', 'a']⟩

/-- A span that begins where the text ends is empty, whatever its length. -/
theorem optionalSubstring_empty :
    let t : Text := ['a', 'b', 'c']
    let e := Engine.new {}
    let b := (runProgram .new [.symbols t, .optionalSubstring 3 1]).1
    (∀ c ∈ t, Text.isMeta c = false) ∧ 3 ≤ t.length ∧ b.bare = "abc(?:)?".toList ∧
      (¬∃ v, (b.compile e).result = .ok v) ∧
      (e.isMatch (anchored b.bare) t).result ≠ .ok true := by
  intro t e b
  have hbare : b.bare = optionalText [] [t, []] := by decide
  have hrejected := rejected_optionalText_empty {} [] t []
  rw [← hbare] at hrejected
  obtain ⟨hcompile, hmatch⟩ := hrejected
  have ht : ∀ c ∈ t, Text.isMeta c = false := by simp [t, Text.isMeta, Text.metaCharacters]
  refine ⟨ht, by decide, by decide, ?_, ?_⟩
  · rintro ⟨v, hv⟩
    cases hcompile.symm.trans hv
  · intro hmatched
    cases (hmatch t).symm.trans hmatched

end Span

end Engine

end PatternLoom
