import PatternLoom.Proofs.Engine.Transparency
import PatternLoom.Proofs.Pattern.Literal

/-!
# Plain text search

An engine that runs the pattern of an escaped text does what a search for the text itself does, and a
replacement without references is put in verbatim.
-/

namespace PatternLoom

set_option autoImplicit false

variable {t s : Text}

theorem Text.take_length_of_prefix_drop {o : Nat} (h : t <+: s.drop o) :
    s.take (o + t.length) = s.take o ++ t := by
  obtain ⟨rest, hrest⟩ := h
  rw [List.take_add, ← hrest, List.take_left]

/-- The match of a text at a character offset of a subject. -/
def matchAt (t s : Text) (o : Nat) : Match where
  start := Text.byteLength (s.take o)
  stop := Text.byteLength (s.take o) + Text.byteLength t
  text := t

def capturesAt (t s : Text) (o : Nat) : Captures where
  whole := matchAt t s o
  groups := [some (matchAt t s o)]
  names := [none]

theorem ofSpan_eq_matchAt {o : Nat} (hlen : o ≤ s.length) (h : t <+: s.drop o) :
    Match.ofSpan s o (o + t.length) = matchAt t s o := by
  have htake := Text.take_length_of_prefix_drop h
  rw [Match.ofSpan, Text.slice, htake, Text.byteLength_append,
    List.drop_left' (List.length_take_of_le hlen)]
  rfl

theorem Captures.ofFound?_foundAt {g : Program} (hgroups : g.groups = 0) (hnames : g.names = [])
    {o : Nat} (hlen : o ≤ s.length) (h : t <+: s.drop o) :
    Captures.ofFound? g s (Program.foundAt t o) = some (capturesAt t s o) := by
  have hspan : (Program.foundAt t o).span? 0 = some (o, o + t.length) := rfl
  have hindices : List.range (0 + 1) = [0] := rfl
  rw [Captures.ofFound?, hgroups, hnames]
  simp only [hspan, hindices, Option.bind_eq_bind, Option.bind_some, List.map_singleton,
    Option.map_some, ofSpan_eq_matchAt hlen h]
  rfl

theorem Program.IsLiteral.ofFound? {g : Program} (hg : g.IsLiteral t) {o : Nat} (hlen : o ≤ s.length)
    (h : t <+: s.drop o) :
    Captures.ofFound? g s (Program.foundAt t o) = some (capturesAt t s o) :=
  Captures.ofFound?_foundAt hg.groups hg.names hlen h

theorem Template.readPieces_cons {c : Char} (hc : c ≠ '$') (fuel : Nat) (r : Text) :
    readPieces (fuel + 1) (c :: r) = .literal c :: readPieces fuel r := by
  change (if c = '$' then _ else Piece.literal c :: readPieces fuel r) = _
  exact if_neg hc

theorem Template.readPieces_of_not_mem {r : Text} (hr : '$' ∉ r) {fuel : Nat}
    (hfuel : r.length ≤ fuel) : readPieces fuel r = r.map .literal := by
  induction r generalizing fuel with
  | nil => cases fuel <;> rfl
  | cons c r ih =>
    obtain ⟨hc, hr⟩ := List.ne_and_not_mem_of_not_mem_cons hr
    cases fuel with
    | zero => exact absurd hfuel (by simp)
    | succ fuel =>
      rw [readPieces_cons (Ne.symm hc), ih hr (Nat.le_of_succ_le_succ hfuel), List.map_cons]

/-- A template without a dollar sign stands for itself. -/
theorem Template.expand_of_not_mem {r : Text} (hr : '$' ∉ r) (caps : Captures) :
    expand r caps = r := by
  rw [expand, read, readPieces_of_not_mem hr (Nat.le_refl _), List.flatMap_map]
  exact List.flatMap_singleton' r

theorem Engine.splice?_first {r : Text} (hr : ∀ caps, Template.expand r caps = r) (position : Nat)
    (pre rest : Text) (caps : Captures) (spans : List (Nat × Nat × Captures)) :
    splice? r position (pre ++ rest)
        ((position + pre.length, position + pre.length + t.length, caps) :: spans) =
      (splice? r (position + pre.length + t.length) (rest.drop t.length) spans).map fun spliced =>
        pre ++ r ++ spliced := by
  rw [splice?, if_neg (by omega), hr, Nat.add_sub_cancel_left, List.take_left, Nat.add_assoc,
    Nat.add_sub_cancel_left, List.drop_append, List.drop_eq_nil_of_le (Nat.le_add_right _ _),
    List.nil_append, Nat.add_sub_cancel_left]

/-- Splicing at the leftmost occurrences exchanges them. The text `pre` has been passed over since the
occurrence before. -/
theorem Engine.splice?_occurrencesFrom {r : Text} (hr : ∀ caps, Template.expand r caps = r)
    (caps : Nat → Captures) (u : Text) (position : Nat) (pre : Text) :
    splice? r position (pre ++ u)
        ((Text.occurrencesFrom t 0 (position + pre.length) u).map fun o =>
          (o, o + t.length, caps o)) =
      some (pre ++ Text.exchangeFrom t r 0 u) := by
  induction hn : u.length using Nat.strong_induction_on generalizing u position pre with
  | h n ih =>
    cases u with
    | nil =>
      rw [Text.occurrencesFrom, Text.exchangeFrom]
      split
      · rw [List.map_singleton, splice?_first hr, List.drop_nil, splice?, Option.map_some,
          List.append_nil]
      · rfl
    | cons c u =>
      rw [List.length_cons] at hn
      rw [Text.occurrencesFrom, Text.exchangeFrom]
      by_cases hkey : t <+: c :: u
      · rw [if_pos hkey, if_pos hkey, List.map_cons, splice?_first hr]
        by_cases ht : t = []
        -- after an empty occurrence the next character is passed over
        · subst ht
          have hnext := ih u.length (by omega) u (position + pre.length) [c] rfl
          rw [if_pos rfl, List.append_assoc, ← List.append_assoc pre]
          exact congrArg (Option.map (pre ++ r ++ ·)) hnext
        · have hpos := List.length_pos_iff.mpr ht
          have hlen := hkey.length_le
          rw [List.length_cons] at hlen
          have hnext := ih (u.drop (t.length - 1)).length (by rw [List.length_drop]; omega)
            (u.drop (t.length - 1)) (position + pre.length + t.length) [] rfl
          have hdrop : (c :: u).drop t.length = u.drop (t.length - 1) := by
            obtain ⟨m, hm⟩ : ∃ m, t.length = m + 1 := ⟨t.length - 1, by omega⟩
            rw [hm, List.drop_succ_cons, Nat.add_sub_cancel]
          have hoffset : position + pre.length + 1 + (t.length - 1) =
              position + pre.length + t.length := by omega
          rw [List.nil_append, List.nil_append, List.length_nil, Nat.add_zero] at hnext
          rw [if_neg ht, List.append_nil, hdrop, Text.occurrencesFrom_skip (by omega), hoffset, hnext,
            ← Text.exchangeFrom_skip (by omega), Option.map_some, List.append_assoc]
      · rw [if_neg hkey, if_neg hkey]
        have hnext := ih u.length (by omega) u position (pre ++ [c]) rfl
        rw [List.length_append, ← Nat.add_assoc] at hnext
        simpa using hnext

namespace Program.IsLiteral

variable {g : Program}

theorem findAll (hg : g.IsLiteral t) (limit : Nat) (s : Text) :
    g.findAll limit s = ⟨(Text.occurrences t s).map (foundAt t), .complete⟩ :=
  hg.searchAll limit (show s.length < 2 * (s.length + 1) by omega) fun _ => by simp

theorem find? (hg : g.IsLiteral t) (limit : Nat) (s : Text) :
    g.find? limit s = some ((Text.occurrences t s).head?.map (foundAt t)) :=
  hg.search? limit _ _

theorem firstCaptures (hg : g.IsLiteral t) (limit : Nat) (s : Text) :
    ((g.find? limit s).map fun found => found.bind (Captures.ofFound? g s)) =
      some ((Text.occurrences t s).head?.map (capturesAt t s)) := by
  rw [hg.find?, Option.map_some]
  cases hoffsets : Text.occurrences t s with
  | nil => rfl
  | cons o os =>
    obtain ⟨hlen, hkey⟩ := (Text.leftmost_occurrences t s).occurs o (hoffsets ▸ List.mem_cons_self)
    exact congrArg some (hg.ofFound? hlen hkey)

theorem isSome_find? (hg : g.IsLiteral t) (limit : Nat) (s : Text) :
    (g.find? limit s).map Option.isSome = some (decide (t <:+: s)) := by
  rw [hg.find?, Option.map_some, Option.isSome_map]
  refine congrArg some (Bool.eq_iff_iff.mpr ?_)
  rw [decide_eq_true_iff, ← (Text.leftmost_occurrences t s).ne_nil_iff]
  simp

theorem allCaptures (hg : g.IsLiteral t) (p s : Text) (limit : Nat) :
    Engine.allCaptures p s limit g = .ok ((Text.occurrences t s).map (capturesAt t s)) := by
  have hoccurs := (Text.leftmost_occurrences t s).occurs
  have hcaptures : ((Text.occurrences t s).map (foundAt t)).filterMap (Captures.ofFound? g s) =
      (Text.occurrences t s).map (capturesAt t s) := by
    rw [List.filterMap_map, ← List.filterMap_eq_map]
    apply List.filterMap_congr
    exact fun o ho => hg.ofFound? (hoccurs o ho).1 (hoccurs o ho).2
  rw [Engine.allCaptures, hg.findAll, hcaptures]
  rfl

theorem replaced (hg : g.IsLiteral t) (p s : Text) (limit : Nat) {r : Text} (hr : '$' ∉ r) :
    Engine.replaced p r s limit g = .ok (Text.exchange t r s) := by
  have hoccurs := (Text.leftmost_occurrences t s).occurs
  have hspans : ((Text.occurrences t s).map (foundAt t)).filterMap (Engine.spanned? g s) =
      (Text.occurrences t s).map fun o => (o, o + t.length, capturesAt t s o) := by
    rw [List.filterMap_map, ← List.filterMap_eq_map]
    apply List.filterMap_congr
    intro o ho
    have hspan : (foundAt t o).span? 0 = some (o, o + t.length) := rfl
    rw [Function.comp_apply, Engine.spanned?, hspan, hg.ofFound? (hoccurs o ho).1 (hoccurs o ho).2]
    rfl
  have hsplice : Engine.splice? r 0 s
      ((Text.occurrences t s).map fun o => (o, o + t.length, capturesAt t s o)) =
        some (Text.exchange t r s) :=
    Engine.splice?_occurrencesFrom (Template.expand_of_not_mem hr) (capturesAt t s) s 0 []
  rw [Engine.replaced, hg.findAll, hspans, hsplice]
  rfl

end Program.IsLiteral

theorem SubPattern.evaluate_symbols {u : Text} {sub : SubPattern}
    (hsub : sub = .callback [.symbols u] none ∨ sub = .built [.symbols u]) :
    sub.evaluate.1 = Text.escapeLiteral u := by
  rcases hsub with rfl | rfl <;> simp [SubPattern.evaluate, runProgram, Step.run]

theorem compile?_symbols (t : Text) :
    ∃ g : Program, g.IsLiteral t ∧
      Program.compile? (runProgram .new [.symbols t]).1.bare = some g := by
  obtain ⟨p, hp, hc, hcompile⟩ := compile?_escapeLiteral t
  refine ⟨⟨Text.escapeLiteral t, 0, [], .onePass (.capture 0 p)⟩, ⟨rfl, rfl, p, hp, hc, rfl⟩, ?_⟩
  have hbare : (runProgram .new [.symbols t]).1.bare = Text.escapeLiteral t := by
    simp [runProgram, Step.run]
  rw [hbare, hcompile]

namespace Engine

/-- Whatever it has been asked before, an engine runs the pattern of a text as a search for that text:
it finds the leftmost occurrences with their byte offsets, reports the first of them, and replaces them
all. -/
theorem symbols_search (config : Config) (past : List Request) (t s : Text) :
    let e := (Engine.new config).after past
    let b := (runProgram .new [.symbols t]).1
    let offsets := Text.occurrences t s
    (∃ v, (e.compile b.bare).result = .ok v) ∧
      Text.Leftmost t s offsets ∧
      (e.findAll b.bare s).result = .ok (offsets.map (capturesAt t s)) ∧
      (e.findFirst b.bare s).result = .ok (offsets.head?.map (capturesAt t s)) ∧
      (b.findText e s).result = .ok (offsets.head?.map fun _ => t) ∧
      (e.isMatch b.bare s).result = .ok (decide (t <:+: s)) ∧
      ∀ r, '$' ∉ r → (e.replace b.bare r s).result = .ok (Text.exchange t r s) := by
  intro e b offsets
  obtain ⟨hf, -⟩ := (faithful_new config).after past
  obtain ⟨g, hg, hcompile⟩ := compile?_symbols t
  have hfirst : (e.findFirst b.bare s).result = .ok (offsets.head?.map (capturesAt t s)) := by
    rw [findFirst, hf.execute_of_compile? hcompile, hg.firstCaptures]
    rfl
  refine ⟨?_, Text.leftmost_occurrences t s, ?_, hfirst, ?_, ?_, ?_⟩
  · exact hf.compiles_iff.mpr (by rw [hcompile]; rfl)
  · rw [findAll, hf.execute_of_compile? hcompile]
    exact hg.allCaptures _ _ _
  · rw [Builder.findText]
    simp only [hfirst, Outcome.map, Outcome.bind, Option.map_map]
    rfl
  · rw [isMatch, hf.execute_of_compile? hcompile, hg.isSome_find?]
    rfl
  · intro r hr
    rw [replace, hf.execute_of_compile? hcompile]
    exact hg.replaced _ _ _ hr

/-- Of the three occurrences of a text of four bytes the one in the middle overlaps with the others. -/
theorem symbols_search_overlapping :
    let e := (Engine.new ⟨0, 1, '/'⟩).after [.compile ['a'], .isMatch ['('] ['b']]
    let b := (runProgram .new [.symbols ['.', 'é', '.']]).1
    let s := ['.', 'é', '.', 'é', '.', 'é', '.']
    '$' ∉ ['-'] ∧
      (e.findAll b.bare s).result = .ok [
        ⟨⟨0, 4, ['.', 'é', '.']⟩, [some ⟨0, 4, ['.', 'é', '.']⟩], [none]⟩,
        ⟨⟨6, 10, ['.', 'é', '.']⟩, [some ⟨6, 10, ['.', 'é', '.']⟩], [none]⟩] ∧
      (e.replace b.bare ['-'] s).result = .ok ['-', 'é', '-'] := by
  intro e b s
  have hdollar : '$' ∉ ['-'] := by decide
  obtain ⟨-, -, hall, -, -, -, hreplace⟩ :=
    symbols_search ⟨0, 1, '/'⟩ [.compile ['a'], .isMatch ['('] ['b']] ['.', 'é', '.'] s
  exact ⟨hdollar, hall.trans (congrArg Outcome.ok (by decide)),
    (hreplace ['-'] hdollar).trans (congrArg Outcome.ok (by decide))⟩

end Engine

end PatternLoom
