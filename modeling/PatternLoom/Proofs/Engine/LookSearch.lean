import PatternLoom.Proofs.Engine.SuccessiveMatches
import PatternLoom.Proofs.Pattern.LookAround

/-!
# Searching with look-around

What has to stand in front of a text or behind it is not taken with the text, so the next search may
come upon it again. A search for a text that has to be followed by another passes over places freely.
One for a text that has to be preceded by another pays a step for each of them, and is abandoned when
they are more than the limit on backtracking allows.
-/

namespace PatternLoom

set_option autoImplicit false

open Text (Successive passes)

variable {t u : Text} {sub : SubPattern}

namespace Engine

theorem bare_followed (hsub : sub = .callback [.symbols u] none ∨ sub = .built [.symbols u]) :
    (runProgram .new [.symbols t, .after sub]).1.bare =
      Text.escapeLiteral t ++ ('(' :: ['?', '='] ++ (Text.escapeLiteral u ++ [')'])) := by
  simp [runProgram, Step.run, SubPattern.evaluate_symbols hsub]

theorem bare_preceded (hsub : sub = .callback [.symbols u] none ∨ sub = .built [.symbols u]) :
    (runProgram .new [.behind sub, .symbols t]).1.bare =
      '(' :: ['?', '<', '='] ++ (Text.escapeLiteral u ++ [')']) ++ Text.escapeLiteral t := by
  simp [runProgram, Step.run, SubPattern.evaluate_symbols hsub]

theorem Faithful.findAll_followed {e : Engine} (he : e.Faithful) (ht : t ≠ [])
    (hsub : sub = .callback [.symbols u] none ∨ sub = .built [.symbols u]) (s : Text) :
    ∃ spans, Successive (fun q => if t ++ u <+: s.drop q then some t else none) s.length 0 spans ∧
      (e.findAll (runProgram .new [.symbols t, .after sub]).1.bare s).result =
        .ok (spans.map (textAt s)) := by
  obtain ⟨g, hcompile, hgroups, hnames, hseeks⟩ := Program.exists_followed ht u
  have hcaptures : ∀ q w, q ≤ s.length →
      (if t ++ u <+: s.drop q then some t else none) = some w →
        Captures.ofFound? g s (Program.foundOnce (q, w)) = some (textAt s (q, w)) := by
    intro q w hsize hw
    split at hw
    · rename_i h
      obtain rfl := Option.some.inj hw
      exact Captures.ofFound?_foundAt hgroups hnames hsize ((List.prefix_append _ _).trans h)
    · cases hw
  obtain ⟨spans, hspans, hall⟩ := he.findAll_of_seeks hcompile (hseeks _ s) hcaptures
  refine ⟨spans, hspans, ?_⟩
  rw [bare_followed hsub, hall]
  exact if_pos (List.all_eq_true.mpr fun n _ => rfl)

theorem Faithful.findAll_preceded {e : Engine} (he : e.Faithful) (ht : t ≠ [])
    (hsub : sub = .callback [.symbols u] none ∨ sub = .built [.symbols u]) (s : Text) :
    ∃ spans, Successive (fun q => if u <:+ s.take q ∧ t <+: s.drop q then some t else none)
        s.length 0 spans ∧
      (e.findAll (runProgram .new [.behind sub, .symbols t]).1.bare s).result =
        if ∀ n ∈ passes s.length 0 spans, n ≤ e.config.backtrackLimit then
          .ok (spans.map (textAt s))
        else .error (.exhausted (runProgram .new [.behind sub, .symbols t]).1.bare) := by
  obtain ⟨g, hcompile, hgroups, hnames, hseeks⟩ := Program.exists_preceded ht u
  have hcaptures : ∀ q w, q ≤ s.length →
      (if u <:+ s.take q ∧ t <+: s.drop q then some t else none) = some w →
        Captures.ofFound? g s (Program.foundOnce (q, w)) = some (textAt s (q, w)) := by
    intro q w hsize hw
    split at hw
    · rename_i h
      obtain rfl := Option.some.inj hw
      exact Captures.ofFound?_foundAt hgroups hnames hsize h.2
    · cases hw
  obtain ⟨spans, hspans, hall⟩ := he.findAll_of_seeks hcompile (hseeks _ s) hcaptures
  have hwithin : (passes s.length 0 spans).all (within (some e.config.backtrackLimit)) = true ↔
      ∀ n ∈ passes s.length 0 spans, n ≤ e.config.backtrackLimit := by
    simp [within]
  refine ⟨spans, hspans, ?_⟩
  rw [bare_preceded hsub, hall]
  simp only [hwithin]

/-- A subject as long as the limit, without the text in it, is too much for a text that has to be
preceded by another. -/
theorem Faithful.findAll_preceded_of_absent {e : Engine} (he : e.Faithful) (ht : t ≠ [])
    (hsub : sub = .callback [.symbols u] none ∨ sub = .built [.symbols u]) {s : Text}
    (hs : ¬t <:+: s) (hlength : e.config.backtrackLimit ≤ s.length) :
    Successive (fun q => if u <:+ s.take q ∧ t <+: s.drop q then some t else none) s.length 0 [] ∧
      (e.findAll (runProgram .new [.behind sub, .symbols t]).1.bare s).result =
        .error (.exhausted (runProgram .new [.behind sub, .symbols t]).1.bare) := by
  have hnone : Successive (fun q => if u <:+ s.take q ∧ t <+: s.drop q then some t else none)
      s.length 0 [] := by
    apply Successive.ended
    apply Text.Next.missing
    intro q _ _
    apply if_neg
    rintro ⟨-, hstands⟩
    exact hs (hstands.isInfix.trans (List.drop_suffix q s).isInfix)
  refine ⟨hnone, ?_⟩
  obtain ⟨spans, hspans, hall⟩ := he.findAll_preceded ht hsub s
  obtain rfl := Successive.unique hspans hnone
  rw [hall]
  apply if_neg
  intro hpasses
  have hpassed := hpasses (s.length + 1) List.mem_cons_self
  omega

/-- Whatever it has been asked before, an engine takes a text that has to be followed by another from a
subject as often as it can, one after the other, and reports the text alone. It takes a text that has to
be preceded by another in the same way, unless it has to pass over more places in a row than the limit
on backtracking allows. -/
theorem look_search (config : Config) (past : List Request) (t u : Text) (ht : t ≠ [])
    (sub : SubPattern) (hsub : sub = .callback [.symbols u] none ∨ sub = .built [.symbols u])
    (s : Text) :
    let e := (Engine.new config).after past
    let followed := (runProgram .new [.symbols t, .after sub]).1
    let preceded := (runProgram .new [.behind sub, .symbols t]).1
    (∃ spans, Successive (fun q => if t ++ u <+: s.drop q then some t else none) s.length 0 spans ∧
        (e.findAll followed.bare s).result = .ok (spans.map (textAt s))) ∧
      ∃ spans, Successive (fun q => if u <:+ s.take q ∧ t <+: s.drop q then some t else none)
          s.length 0 spans ∧
        (e.findAll preceded.bare s).result =
          if ∀ n ∈ passes s.length 0 spans, n ≤ config.backtrackLimit then
            .ok (spans.map (textAt s))
          else .error (.exhausted preceded.bare) := by
  intro e followed preceded
  obtain ⟨hf, hconfig⟩ := (faithful_new config).after past
  have hlimit : e.config.backtrackLimit = config.backtrackLimit :=
    congrArg Config.backtrackLimit hconfig
  have hpreceded := hf.findAll_preceded ht hsub s
  rw [hlimit] at hpreceded
  exact ⟨hf.findAll_followed ht hsub s, hpreceded⟩

/-- Three characters of two bytes. The first may be what stands in front of the second, and the second
what stands in front of the third, though it has been reported. -/
theorem look_search_overlapping :
    let sub : SubPattern := .callback [.symbols ['é']] none
    let e := (Engine.new ⟨1, 1, '/'⟩).after [.compile ['a']]
    let s := ['é', 'é', 'é']
    ['é'] ≠ [] ∧ (sub = .callback [.symbols ['é']] none ∨ sub = .built [.symbols ['é']]) ∧
      (e.findAll (runProgram .new [.symbols ['é'], .after sub]).1.bare s).result = .ok [
        ⟨⟨0, 2, ['é']⟩, [some ⟨0, 2, ['é']⟩], [none]⟩, ⟨⟨2, 4, ['é']⟩, [some ⟨2, 4, ['é']⟩], [none]⟩] ∧
      (e.findAll (runProgram .new [.behind sub, .symbols ['é']]).1.bare s).result = .ok [
        ⟨⟨2, 4, ['é']⟩, [some ⟨2, 4, ['é']⟩], [none]⟩, ⟨⟨4, 6, ['é']⟩, [some ⟨4, 6, ['é']⟩], [none]⟩] := by
  intro sub e s
  have ht : ['é'] ≠ [] := by decide
  have hsub : sub = .callback [.symbols ['é']] none ∨ sub = .built [.symbols ['é']] := Or.inl rfl
  obtain ⟨⟨spans, hspans, hfollowed⟩, spans', hspans', hpreceded⟩ :=
    look_search ⟨1, 1, '/'⟩ [.compile ['a']] ['é'] ['é'] ht sub hsub s
  have htaken : Successive (fun q => if ['é'] ++ ['é'] <+: s.drop q then some ['é'] else none)
      s.length 0 [(0, ['é']), (1, ['é'])] := by
    apply Successive.next (Text.Next.here (by decide) (by decide))
    apply Successive.next (Text.Next.here (by decide) (by decide))
    exact .ended (Text.Next.later (.last (by decide) (by decide)) (by decide))
  have htaken' : Successive
      (fun q => if ['é'] <:+ s.take q ∧ ['é'] <+: s.drop q then some ['é'] else none)
      s.length 0 [(1, ['é']), (2, ['é'])] := by
    apply Successive.next (Text.Next.later (Text.Next.here (by decide) (by decide)) (by decide))
    apply Successive.next (Text.Next.here (by decide) (by decide))
    exact .ended (.last (by decide) (by decide))
  rw [Successive.unique hspans htaken] at hfollowed
  rw [Successive.unique hspans' htaken', if_pos (by decide)] at hpreceded
  exact ⟨ht, hsub, hfollowed.trans (congrArg Outcome.ok (by decide)),
    hpreceded.trans (congrArg Outcome.ok (by decide))⟩

/-- With a limit of one step a text is not found behind three places where it does not stand; with the
limit that engines have by default, a million such places are too many. -/
theorem preceded_search_exhausted :
    let sub : SubPattern := .callback [.symbols ['a']] none
    let b := (runProgram .new [.behind sub, .symbols ['b']]).1
    let takes (s : Text) (q : Nat) : Option Text :=
      if ['a'] <:+ s.take q ∧ ['b'] <+: s.drop q then some ['b'] else none
    let short := ['x', 'x', 'a', 'b']
    let long := List.replicate 1000000 'x'
    (Successive (takes short) short.length 0 [(3, ['b'])] ∧
        ((Engine.new { backtrackLimit := 1 }).findAll b.bare short).result =
          .error (.exhausted b.bare)) ∧
      Successive (takes long) long.length 0 [] ∧
        ((Engine.new {}).findAll b.bare long).result = .error (.exhausted b.bare) := by
  intro sub b takes short long
  have ht : ['b'] ≠ [] := by decide
  have hsub : sub = .callback [.symbols ['a']] none ∨ sub = .built [.symbols ['a']] := Or.inl rfl
  have hshort : Successive (takes short) short.length 0 [(3, ['b'])] := by
    apply Successive.next
    · apply Text.Next.later (Text.Next.later (Text.Next.later (Text.Next.here ?_ ?_) ?_) ?_)
      all_goals decide
    · exact .ended (.last (by decide) (by decide))
  refine ⟨⟨hshort, ?_⟩, ?_⟩
  · obtain ⟨spans, hspans, hall⟩ :=
      (faithful_new { backtrackLimit := 1 }).findAll_preceded ht hsub short
    obtain rfl := Successive.unique hspans hshort
    exact hall.trans (if_neg (by decide))
  · apply (faithful_new {}).findAll_preceded_of_absent ht hsub
    · intro hinfix
      have hmem : 'b' ∈ long := hinfix.subset List.mem_cons_self
      exact absurd (List.eq_of_mem_replicate hmem) (by decide)
    · exact Nat.le_of_eq List.length_replicate.symm

end Engine

end PatternLoom
