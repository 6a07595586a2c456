import PatternLoom.Proofs.Engine.Transparency
import PatternLoom.Proofs.Pattern.SearchRounds
import PatternLoom.Proofs.Text.Bytes

/-!
# Spans of all matches

What a search for all matches reports: every match is a part of the subject between two characters, and
the ends of the matches are in order. The matches stand one after the other without overlap, and the
search for them ends, unless the pattern has `\K` inside of a look-behind.
-/

namespace PatternLoom

set_option autoImplicit false

/-- The match is a part of the subject: its offsets lie between characters, and its text stands
between them. -/
structure Match.Within (m : Match) (s : Text) : Prop where
  start_le : m.start ≤ m.stop
  stop_le : m.stop ≤ Text.byteLength s
  start_boundary : s.IsBoundary m.start
  stop_boundary : s.IsBoundary m.stop
  text : m.text = s.sliceBytes m.start m.stop

/-- A match ends before another one. The other one may end there as well, but is not empty then. -/
structure Match.EndsBefore (m m' : Match) : Prop where
  stop_le : m.stop ≤ m'.stop
  fresh : ¬(m'.isEmpty = true ∧ m'.start = m.stop)

/-- A match stands before another one. The other one may begin where this one ends, but is not empty
then. -/
structure Match.Before (m m' : Match) : Prop where
  disjoint : m.stop ≤ m'.start
  start_lt : m.start < m'.start
  stop_lt : m.stop < m'.stop
  fresh : ¬(m'.isEmpty = true ∧ m'.start = m.stop)

theorem Match.within_ofSpan {s : Text} {start stop : Nat} (hle : start ≤ stop)
    (hstop : stop ≤ s.length) : (ofSpan s start stop).Within s where
  start_le := Text.byteLength_take_mono s hle
  stop_le := Text.byteLength_take_le s stop
  start_boundary := Text.isBoundary_take s start
  stop_boundary := Text.isBoundary_take s stop
  text := (Text.sliceBytes_take (hle.trans hstop) hstop).symm

theorem Match.endsBefore_ofSpan {s : Text} {x y : Nat × Nat}
    (h : x.2 ≤ y.2 ∧ (y.1 = y.2 → x.2 < y.2)) (hy : y.1 ≤ y.2) (hstop : y.2 ≤ s.length) :
    (ofSpan s x.1 x.2).EndsBefore (ofSpan s y.1 y.2) := by
  refine ⟨Text.byteLength_take_mono s h.1, ?_⟩
  rintro ⟨hempty, htouch⟩
  rw [isEmpty, beq_iff_eq] at hempty
  simp only [ofSpan] at hempty htouch
  -- a span without bytes has no characters
  have hspan : y.1 = y.2 := by
    by_contra hne
    have hbytes := Text.byteLength_take_lt (Nat.lt_of_le_of_ne hy hne) hstop
    omega
  have hbytes := Text.byteLength_take_lt (h.2 hspan) hstop
  omega

theorem Match.before_ofSpan {s : Text} {x y : Nat × Nat} (h : Program.Spaced.Follows x y)
    (hy : y.1 ≤ y.2) (hstop : y.2 ≤ s.length) : (ofSpan s x.1 x.2).Before (ofSpan s y.1 y.2) := by
  obtain ⟨hdisjoint, hstart, hend⟩ := h
  have hlater : (ofSpan s x.1 x.2).stop < (ofSpan s y.1 y.2).stop := Text.byteLength_take_lt hend hstop
  refine ⟨Text.byteLength_take_mono s hdisjoint, Text.byteLength_take_lt hstart (hy.trans hstop),
    hlater, ?_⟩
  rintro ⟨hempty, htouch⟩
  rw [isEmpty, beq_iff_eq] at hempty
  omega

namespace Captures

variable {g : Program} {s : Text} {found : Program.Found} {caps : Captures}

theorem map_whole_ofFound? (g : Program) (s : Text) (found : Program.Found) :
    (ofFound? g s found).map (·.whole) =
      (found.span? 0).map fun x => Match.ofSpan s x.1 x.2 := by
  rw [ofFound?]
  cases found.span? 0 <;> rfl

theorem get?_zero_of_ofFound? (h : ofFound? g s found = some caps) : caps.get? 0 = some caps.whole := by
  rw [ofFound?] at h
  cases hspan : found.span? 0 with
  | none =>
    rw [hspan] at h
    cases h
  | some x =>
    rw [hspan] at h
    obtain rfl := Option.some.inj h
    rw [get?]
    simp [hspan]

theorem map_whole_filterMap (g : Program) (s : Text) (all : List Program.Found) :
    (all.filterMap (ofFound? g s)).map (·.whole) =
      (Program.spans all).map fun x => Match.ofSpan s x.1 x.2 := by
  rw [Program.spans, List.map_filterMap, List.map_filterMap]
  exact List.filterMap_congr fun found _ => map_whole_ofFound? g s found

end Captures

namespace Engine

variable {behind : Bool} {g : Program} {limit : Nat} {p s : Text} {all : List Captures}

theorem allCaptures_eq_ok_iff :
    allCaptures p s limit g = .ok all ↔ (g.findAll limit s).ending = .complete ∧
      (g.findAll limit s).found.filterMap (Captures.ofFound? g s) = all :=
  Program.Ending.conclude_eq_ok_iff

theorem spaced_of_allCaptures (hg : g.Finds behind) (h : allCaptures p s limit g = .ok all) :
    ∃ spans, Program.Spaced behind s.length 0 none spans ∧
      all.map (·.whole) = spans.map fun x => Match.ofSpan s x.1 x.2 := by
  obtain ⟨-, rfl⟩ := allCaptures_eq_ok_iff.mp h
  exact ⟨_, hg.spaced_findAll limit s, Captures.map_whole_filterMap g s _⟩

theorem within_of_allCaptures (hg : g.Finds behind) (h : allCaptures p s limit g = .ok all) :
    ∀ m ∈ all, m.whole.Within s := by
  obtain ⟨spans, hspaced, hwholes⟩ := spaced_of_allCaptures hg h
  intro m hm
  have hwhole : m.whole ∈ all.map (·.whole) := List.mem_map_of_mem hm
  rw [hwholes] at hwhole
  obtain ⟨x, hx, heq⟩ := List.mem_map.mp hwhole
  obtain ⟨hle, -, hstop⟩ := hspaced.bounds x hx
  exact heq ▸ Match.within_ofSpan hle hstop

theorem ends_of_allCaptures (hg : g.Finds behind) (h : allCaptures p s limit g = .ok all) :
    all.Pairwise fun m m' => m.whole.EndsBefore m'.whole := by
  obtain ⟨spans, hspaced, hwholes⟩ := spaced_of_allCaptures hg h
  have hends : (all.map (·.whole)).Pairwise Match.EndsBefore := by
    rw [hwholes, List.pairwise_map]
    apply hspaced.pairwise_ends.imp_of_mem
    intro x y _ hy hxy
    obtain ⟨hle, -, hstop⟩ := hspaced.bounds y hy
    exact Match.endsBefore_ofSpan hxy hle hstop
  exact List.pairwise_map.mp hends

/-- The matches of a program whose searches do not turn back stand one after the other. -/
theorem in_order_of_allCaptures (hg : g.Finds false) (h : allCaptures p s limit g = .ok all) :
    all.Pairwise (fun m m' => m.whole.Before m'.whole) ∧ all.length ≤ s.length + 1 := by
  obtain ⟨spans, hspaced, hwholes⟩ := spaced_of_allCaptures hg h
  constructor
  · have hbefore : (all.map (·.whole)).Pairwise Match.Before := by
      rw [hwholes, List.pairwise_map]
      apply hspaced.pairwise.imp_of_mem
      intro x y _ hy hxy
      obtain ⟨hle, -, hstop⟩ := hspaced.bounds y hy
      exact Match.before_ofSpan hxy hle hstop
    exact List.pairwise_map.mp hbefore
  · have hlength := congrArg List.length hwholes
    rw [List.length_map, List.length_map] at hlength
    have hcount := hspaced.length_le (Nat.zero_le _)
    omega

/-- Whatever it has been asked before, an engine reports all matches of a pattern as parts of the
subject, and their ends are in order. If the pattern has no `\K` inside of a look-behind, the matches
stand one after the other, at most one more than there are characters, and the search for them ends.
What is said of the end is said of the rounds of the search, of which there is no bound. -/
theorem findAll_in_order (config : Config) (past : List Request) (p s : Text) :
    let e := (Engine.new config).after past
    (∀ all, (e.findAll p s).result = .ok all →
      (∀ m ∈ all, m.whole.Within s) ∧ all.Pairwise (fun m m' => m.whole.EndsBefore m'.whole) ∧
        (Pattern.onward p = true →
          all.Pairwise (fun m m' => m.whole.Before m'.whole) ∧ all.length ≤ s.length + 1)) ∧
      (Pattern.onward p = true → (e.findAll p s).result ≠ .endless) ∧
      ∀ g, Program.compile? p = some g → ∀ limit all,
        Program.Rounds g limit (.start s) none all ↔
          g.findAll limit s = all ∧ (g.findAll limit s).ending ≠ .endless := by
  intro e
  obtain ⟨hf, -⟩ := (faithful_new config).after past
  rw [findAll, (hf.execute _ _ _).1]
  refine ⟨?_, ?_, ?_⟩
  · intro all hall
    rw [outcome_eq_ok_iff] at hall
    obtain ⟨g, hcompile, hrun⟩ := hall
    have hg := Program.finds_of_compile? hcompile
    refine ⟨within_of_allCaptures hg hrun, ends_of_allCaptures hg hrun, ?_⟩
    intro hp
    exact in_order_of_allCaptures (Program.finds_of_onward hp hcompile) hrun
  · intro hp hendless
    obtain ⟨g, hcompile, hrun⟩ := outcome_eq_endless_iff.mp hendless
    exact (Program.finds_of_onward hp hcompile).ending_findAll _ s
      (Program.Ending.conclude_eq_endless_iff.mp hrun)
  · exact fun g hcompile limit all => (Program.finds_of_compile? hcompile).rounds_findAll_iff

/-- A letter, or the place behind another letter of two bytes: the second match is not empty, though
it begins where an empty one could. -/
theorem findAll_in_order_lookBehind :
    let e := (Engine.new ⟨1000, 1, '/'⟩).after [.compile ['a']]
    let p : Text := ['b', '|', '(', '?', '<', '=', 'é', ')']
    let s : Text := ['é', 'a', 'é', 'b']
    let all : List Captures := [
      ⟨⟨2, 2, []⟩, [some ⟨2, 2, []⟩], [none]⟩,
      ⟨⟨5, 6, ['b']⟩, [some ⟨5, 6, ['b']⟩], [none]⟩]
    Pattern.onward p = true ∧ (e.findAll p s).result = .ok all ∧ (∀ m ∈ all, m.whole.Within s) ∧
      all.Pairwise (fun m m' => m.whole.EndsBefore m'.whole) ∧
      all.Pairwise (fun m m' => m.whole.Before m'.whole) ∧ all.length ≤ s.length + 1 ∧
      (e.findAll p s).result ≠ .endless ∧
      ∃ g, Program.compile? p = some g ∧
        Program.Rounds g 1000 (.start s) none (g.findAll 1000 s) := by
  intro e p s all
  have hp : Pattern.onward p = true := by decide +kernel
  have hall : (e.findAll p s).result = .ok all := by decide +kernel
  have hcompile : (Program.compile? p).isSome = true := by decide +kernel
  obtain ⟨g, hg⟩ := Option.isSome_iff_exists.mp hcompile
  obtain ⟨hmatches, hends, hrounds⟩ := findAll_in_order ⟨1000, 1, '/'⟩ [.compile ['a']] p s
  obtain ⟨hwithin, hstops, horder⟩ := hmatches all hall
  obtain ⟨hbefore, hlength⟩ := horder hp
  have hending := (Program.finds_of_onward hp hg).ending_findAll 1000 s
  exact ⟨hp, hall, hwithin, hstops, hbefore, hlength, hends hp, g, hg,
    (hrounds g hg 1000 _).mpr ⟨rfl, hending⟩⟩

/-- A match can be told to begin inside of the one before, and then the two overlap. When it is told to
begin there and ends there as well, it is found again and again. -/
theorem findAll_turns_back :
    let e := Engine.new ⟨1000, 1, '/'⟩
    let p : Text := ['(', '?', '<', '=', '\\', 'K', 'b', ')', 'b']
    let q : Text := ['(', '?', '<', '=', '\\', 'K', 'a', ')']
    let all : List Captures := [
      ⟨⟨1, 3, ['b', 'b']⟩, [some ⟨1, 3, ['b', 'b']⟩], [none]⟩,
      ⟨⟨2, 4, ['b', 'b']⟩, [some ⟨2, 4, ['b', 'b']⟩], [none]⟩]
    (e.findAll p ['a', 'b', 'b', 'b']).result = .ok all ∧
      ¬all.Pairwise (fun m m' => m.whole.stop ≤ m'.whole.start) ∧
      (e.findAll q ['a']).result = .endless ∧
      ∃ g, Program.compile? q = some g ∧
        ∀ findings, ¬Program.Rounds g 1000 (.start ['a']) none findings := by
  intro e p q all
  have hcompile : (Program.compile? q).isSome = true := by decide +kernel
  obtain ⟨g, hg⟩ := Option.isSome_iff_exists.mp hcompile
  have hresult : (e.findAll q ['a']).result = .endless := by decide +kernel
  refine ⟨by decide +kernel, by decide, hresult, g, hg, ?_⟩
  intro findings hrounds
  rw [findAll, (faithful_new _).execute_of_compile? hg] at hresult
  have hendless := Program.Ending.conclude_eq_endless_iff.mp hresult
  exact ((Program.finds_of_compile? hg).rounds_findAll_iff.mp hrounds).2 hendless

end Engine

end PatternLoom
