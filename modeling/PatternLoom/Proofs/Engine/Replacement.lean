import PatternLoom.Proofs.Engine.LiteralSearch
import PatternLoom.Proofs.Engine.MatchSpans

/-!
# Replacing all matches

A replacement exchanges the matches that a search for all matches reports, each for what the template
makes of it, and keeps the text between them.
-/

namespace PatternLoom

set_option autoImplicit false

/-- A subject from a byte offset on, with every match exchanged for what `f` makes of it. All the slices
between the matches have to exist. -/
def exchanged? (s : Text) (f : Captures → Text) : Nat → List Captures → Option Text
  | position, [] => s.sliceBytes? position (Text.byteLength s)
  | position, m :: rest =>
    (s.sliceBytes? position m.whole.start).bind fun kept =>
      (exchanged? s f m.whole.stop rest).map fun exchanged => kept ++ f m ++ exchanged

theorem exchanged?_congr {s : Text} {f f' : Captures → Text} {all : List Captures}
    (h : ∀ m ∈ all, f m = f' m) (position : Nat) :
    exchanged? s f position all = exchanged? s f' position all := by
  induction all generalizing position with
  | nil => rfl
  | cons m all ih =>
    obtain ⟨hm, hall⟩ := List.forall_mem_cons.mp h
    rw [exchanged?, exchanged?, hm, ih hall]

namespace Template

def doubled (r : Text) : Text := r.flatMap fun c => if c = '$' then ['$', '$'] else [c]

theorem readPieces_doubled {r : Text} {fuel : Nat} (hfuel : (doubled r).length ≤ fuel) :
    readPieces fuel (doubled r) = r.map .literal := by
  induction r generalizing fuel with
  | nil => cases fuel <;> rfl
  | cons c r ih =>
    rw [doubled, List.flatMap_cons, ← doubled] at hfuel ⊢
    by_cases hc : c = '$'
    · rw [if_pos hc] at hfuel ⊢
      cases fuel with
      | zero => simp at hfuel
      | succ fuel =>
        have hstep : readPieces (fuel + 1) (['$', '$'] ++ doubled r) =
          .literal '$' :: readPieces fuel (doubled r) := rfl
        have hle : (doubled r).length ≤ fuel := by
          simp only [List.length_append, List.length_cons, List.length_nil] at hfuel
          omega
        rw [hstep, ih hle, hc, List.map_cons]
    · rw [if_neg hc] at hfuel ⊢
      cases fuel with
      | zero => simp at hfuel
      | succ fuel =>
        have hle : (doubled r).length ≤ fuel := by
          simp only [List.length_append, List.length_cons, List.length_nil] at hfuel
          omega
        rw [List.singleton_append, readPieces_cons hc, ih hle, List.map_cons]

theorem expand_doubled (r : Text) (caps : Captures) : expand (doubled r) caps = r := by
  rw [expand, read, readPieces_doubled le_rfl, List.flatMap_map]
  exact List.flatMap_singleton' r

/-- The reference `$0` stands for the whole match, unless some group has that name. -/
theorem expand_zero {caps : Captures} (hzero : caps.get? 0 = some caps.whole)
    (hnames : some ['0'] ∉ caps.names) : expand ['$', '0'] caps = caps.whole.text := by
  have hread : read ['$', '0'] = [.group ['0']] := by decide
  have hnumber : Text.toNatBelow? sizeBound ['0'] = some 0 := by decide
  have hname : caps.name? ['0'] = none := by
    have hindex : caps.names.findIdx? (· == some ['0']) = none := by
      rw [List.findIdx?_eq_none_iff]
      intro name hmem
      rw [beq_eq_false_iff_ne]
      intro heq
      exact hnames (heq ▸ hmem)
    rw [Captures.name?, hindex, Option.bind_none]
  rw [expand, hread, List.flatMap_singleton, expandPiece, resolve?, hname, hnumber]
  simp [hzero]

end Template

namespace Engine

variable {g : Program} {limit : Nat} {s : Text}

/-- The captures of matches with these spans. -/
def Reported (s : Text) : List (Nat × Nat) → List Captures → Prop :=
  List.Forall₂ fun x m => m.whole = Match.ofSpan s x.1 x.2

theorem reported_spans (g : Program) (s : Text) (found : List Program.Found) :
    Reported s (Program.spans found) (found.filterMap (Captures.ofFound? g s)) := by
  have hwholes := Captures.map_whole_filterMap g s found
  rw [← List.forall₂_eq_eq_eq, List.forall₂_map_left_iff, List.forall₂_map_right_iff] at hwholes
  exact hwholes.flip

theorem filterMap_spanned? (g : Program) (s : Text) (found : List Program.Found) :
    found.filterMap (spanned? g s) =
      List.zipWith (fun x m => (x.1, x.2, m)) (Program.spans found)
        (found.filterMap (Captures.ofFound? g s)) := by
  induction found with
  | nil => rfl
  | cons hit found ih =>
    have hwhole := Captures.map_whole_ofFound? g s hit
    cases hspan : hit.span? 0 with
    | none =>
      rw [hspan, Option.map_none, Option.map_eq_none_iff] at hwhole
      have hspanned : spanned? g s hit = none := by rw [spanned?, hspan]; rfl
      have hskip : Program.spans (hit :: found) = Program.spans found := by
        simp only [Program.spans, List.filterMap_cons, hspan]
      rw [List.filterMap_cons_none hwhole, List.filterMap_cons_none hspanned, hskip, ih]
    | some x =>
      rw [hspan, Option.map_some, Option.map_eq_some_iff] at hwhole
      obtain ⟨caps, hcaps, -⟩ := hwhole
      have hspanned : spanned? g s hit = some (x.1, x.2, caps) := by
        rw [spanned?, hspan, hcaps]
        rfl
      rw [List.filterMap_cons_some hcaps, List.filterMap_cons_some hspanned,
        Program.spans_cons hspan, ih]
      rfl

theorem slice_append_slice_append_drop {position start stop : Nat} (hstart : position ≤ start)
    (hle : start ≤ stop) (hstop : stop ≤ s.length) :
    Text.slice s position start ++ Text.slice s start stop ++ s.drop stop = s.drop position := by
  have hsplit := Text.take_append_slice_append_drop s hle
  have hlength : position ≤ (s.take start).length := by
    rw [List.length_take_of_le (hle.trans hstop)]
    exact hstart
  have hdrop := congrArg (List.drop position) hsplit
  rw [List.append_assoc, List.drop_append_of_le_length hlength, ← List.append_assoc] at hdrop
  exact hdrop

section

variable {behind : Bool} {position : Nat} {last : Option Nat} {spans : List (Nat × Nat)}
  {all : List Captures}

/-- The loop of a replacement. It has come to `position`, and the matches that are left end in order. Of
the slices between them all or none are there in characters and in bytes. -/
theorem splice?_eq_exchanged? (template : Text) (hall : Reported s spans all)
    (h : Program.Spaced behind s.length position last spans) (hposition : position ≤ s.length) :
    splice? template position (s.drop position)
        (List.zipWith (fun x m => (x.1, x.2, m)) spans all) =
      exchanged? s (Template.expand template) (Text.byteLength (s.take position)) all := by
  induction hall generalizing position last with
  | nil => exact (Text.sliceBytes?_rest hposition).symm
  | @cons x m spans all hwhole _ ih =>
    obtain ⟨hle, hnext, hsize⟩ := h.bounds x List.mem_cons_self
    have hdrop : (s.drop position).drop (x.2 - position) = s.drop x.2 := by
      rw [List.drop_drop, Nat.add_sub_cancel' hnext]
    have hslice : Text.slice s position x.1 = (s.drop position).take (x.1 - position) :=
      List.drop_take
    rw [List.zipWith_cons_cons, splice?, exchanged?, hwhole, hdrop, ih h.tail hsize]
    simp only [Match.ofSpan]
    by_cases hstart : x.1 < position
    · rw [if_pos hstart, Text.sliceBytes?_backwards hstart hposition]
      rfl
    · rw [if_neg hstart, Text.sliceBytes?_take (Nat.le_of_not_lt hstart) (hle.trans hsize), hslice]
      rfl

/-- The slices between the matches exist exactly if no match begins before the end of the one before. -/
theorem isSome_exchanged?_iff (f : Captures → Text) (hall : Reported s spans all)
    (h : Program.Spaced behind s.length position last spans) (hposition : position ≤ s.length) :
    (exchanged? s f (Text.byteLength (s.take position)) all).isSome = true ↔
      Program.Apart position spans := by
  induction hall generalizing position last with
  | nil =>
    rw [exchanged?, Text.sliceBytes?_rest hposition]
    exact iff_of_true rfl trivial
  | @cons x m spans all hwhole _ ih =>
    obtain ⟨hle, -, hsize⟩ := h.bounds x List.mem_cons_self
    rw [exchanged?, hwhole, Program.Apart, ← ih h.tail hsize]
    simp only [Match.ofSpan]
    by_cases hstart : x.1 < position
    · rw [Text.sliceBytes?_backwards hstart hposition]
      exact iff_of_false Bool.false_ne_true fun h => Nat.not_lt.mpr h.1 hstart
    · rw [Text.sliceBytes?_take (Nat.le_of_not_lt hstart) (hle.trans hsize), Option.bind_some,
        Option.isSome_map]
      exact (and_iff_right (Nat.le_of_not_lt hstart)).symm

/-- Matches that are put back leave the subject as it is, if each begins after the one before. -/
theorem exchanged?_whole (hall : Reported s spans all)
    (h : Program.Spaced behind s.length position last spans) (hposition : position ≤ s.length)
    (hapart : Program.Apart position spans) :
    exchanged? s (·.whole.text) (Text.byteLength (s.take position)) all = some (s.drop position) := by
  induction hall generalizing position last with
  | nil => exact Text.sliceBytes?_rest hposition
  | @cons x m spans all hwhole _ ih =>
    obtain ⟨hstart, hapart⟩ := hapart
    obtain ⟨hle, -, hsize⟩ := h.bounds x List.mem_cons_self
    rw [exchanged?, hwhole]
    simp only [Match.ofSpan]
    rw [ih h.tail hsize hapart, Text.sliceBytes?_take hstart (hle.trans hsize), Option.bind_some,
      Option.map_some, slice_append_slice_append_drop hstart hle hsize]

/-- Matches that do not overlap in characters are those that do not overlap in bytes. -/
theorem apart_iff (hall : Reported s spans all) (h : Program.Spaced behind s.length 0 last spans) :
    Program.Apart 0 spans ↔ all.Pairwise fun m m' => m.whole.stop ≤ m'.whole.start := by
  have hwholes : all.map (·.whole) = spans.map fun x => Match.ofSpan s x.1 x.2 := by
    rw [← List.forall₂_eq_eq_eq, List.forall₂_map_left_iff, List.forall₂_map_right_iff]
    exact hall.flip
  have hmap : (all.Pairwise fun m m' => m.whole.stop ≤ m'.whole.start) ↔
      (all.map (·.whole)).Pairwise fun m m' => m.stop ≤ m'.start := by
    rw [List.pairwise_map]
  rw [Program.apart_iff_pairwise fun x hx => (h.bounds x hx).1, hmap, hwholes, List.pairwise_map]
  constructor
  · rintro ⟨-, hpairs⟩
    exact hpairs.imp fun hxy => Text.byteLength_take_mono s hxy
  · intro hpairs
    refine ⟨fun x _ => Nat.zero_le x.1, hpairs.imp_of_mem ?_⟩
    intro x y hx _ hxy
    by_contra hlt
    have hbytes := Text.byteLength_take_lt (Nat.lt_of_not_le hlt) (h.bounds x hx).2.2
    simp only [Match.ofSpan] at hxy
    omega

end

def reported (limit : Nat) (s : Text) (g : Program) : List Captures :=
  (g.findAll limit s).found.filterMap (Captures.ofFound? g s)

section

variable {behind : Bool}

/-- A replacement is made of the matches that are reported and breaks off where they overlap. -/
theorem replaced_eq (hg : g.Finds behind) (p template s : Text) (limit : Nat) :
    replaced p template s limit g =
      match exchanged? s (Template.expand template) 0 (reported limit s g) with
      | some t => (g.findAll limit s).ending.conclude p t
      | none => .panicked := by
  have hsplice := splice?_eq_exchanged? template (reported_spans g s _) (hg.spaced_findAll limit s)
    (Nat.zero_le _)
  rw [List.drop_zero, List.take_zero, Text.byteLength_nil] at hsplice
  rw [replaced, filterMap_spanned?, hsplice]
  rfl

theorem isSome_exchanged?_reported (hg : g.Finds behind) (limit : Nat) (s : Text)
    (f : Captures → Text) :
    (exchanged? s f 0 (reported limit s g)).isSome = true ↔
      Program.Apart 0 (Program.spans (g.findAll limit s).found) :=
  isSome_exchanged?_iff f (reported_spans g s _) (hg.spaced_findAll limit s) (Nat.zero_le _)

theorem apart_reported_iff (hg : g.Finds behind) (limit : Nat) (s : Text) :
    Program.Apart 0 (Program.spans (g.findAll limit s).found) ↔
      (reported limit s g).Pairwise fun m m' => m.whole.stop ≤ m'.whole.start :=
  apart_iff (reported_spans g s _) (hg.spaced_findAll limit s)

/-- A replacement whose matches do not overlap ends as the search for them does, which does end. -/
theorem replaced_of_apart (hg : g.Finds behind) {limit : Nat} {s : Text}
    (h : (reported limit s g).Pairwise fun m m' => m.whole.stop ≤ m'.whole.start) (p template : Text) :
    (g.findAll limit s).ending ≠ .endless ∧
      ∃ t, exchanged? s (Template.expand template) 0 (reported limit s g) = some t ∧
        replaced p template s limit g = (g.findAll limit s).ending.conclude p t := by
  have hapart := (apart_reported_iff hg limit s).mpr h
  obtain ⟨t, ht⟩ := Option.isSome_iff_exists.mp
    ((isSome_exchanged?_reported hg limit s (Template.expand template)).mpr hapart)
  refine ⟨hg.ending_findAll_of_apart hapart, t, ht, ?_⟩
  rw [replaced_eq hg, ht]

/-- A replacement whose matches overlap breaks off, even if the search for them would not end. -/
theorem replaced_of_not_apart (hg : g.Finds behind) {limit : Nat} {s : Text}
    (h : ¬(reported limit s g).Pairwise fun m m' => m.whole.stop ≤ m'.whole.start) :
    (∀ f, exchanged? s f 0 (reported limit s g) = none) ∧
      ∀ p template, replaced p template s limit g = .panicked := by
  have hnone (f : Captures → Text) : exchanged? s f 0 (reported limit s g) = none := by
    rw [← Option.not_isSome_iff_eq_none, isSome_exchanged?_reported hg, apart_reported_iff hg]
    exact h
  refine ⟨hnone, fun p template => ?_⟩
  rw [replaced_eq hg, hnone]

theorem apart_of_onward {p : Text} (hp : Pattern.onward p = true) (hg : Program.compile? p = some g)
    (limit : Nat) (s : Text) :
    (reported limit s g).Pairwise fun m m' => m.whole.stop ≤ m'.whole.start := by
  have hfinds := Program.finds_of_onward hp hg
  exact (apart_reported_iff hfinds limit s).mp (hfinds.spaced_findAll limit s).apart

theorem replaced_doubled (hg : g.Finds behind) {limit : Nat} {s : Text}
    (h : (reported limit s g).Pairwise fun m m' => m.whole.stop ≤ m'.whole.start) (p r : Text) :
    ∃ t, exchanged? s (fun _ => r) 0 (reported limit s g) = some t ∧
      replaced p (Template.doubled r) s limit g = (g.findAll limit s).ending.conclude p t := by
  obtain ⟨-, t, ht, hresult⟩ := replaced_of_apart hg h p (Template.doubled r)
  refine ⟨t, ?_, hresult⟩
  rw [← ht]
  exact exchanged?_congr (fun m _ => (Template.expand_doubled r m).symm) 0

theorem replaced_zero (hg : g.Finds behind) {limit : Nat} {s : Text}
    (h : (reported limit s g).Pairwise fun m m' => m.whole.stop ≤ m'.whole.start)
    (hnames : ∀ m ∈ reported limit s g, some ['0'] ∉ m.names) (p : Text) :
    replaced p ['$', '0'] s limit g = (g.findAll limit s).ending.conclude p s := by
  have hwhole : exchanged? s (·.whole.text) 0 (reported limit s g) = some s :=
    exchanged?_whole (reported_spans g s _) (hg.spaced_findAll limit s) (Nat.zero_le _)
      ((apart_reported_iff hg limit s).mpr h)
  have hzero : exchanged? s (Template.expand ['$', '0']) 0 (reported limit s g) = some s := by
    refine (exchanged?_congr ?_ 0).trans hwhole
    intro m hm
    obtain ⟨hit, -, hhit⟩ := List.mem_filterMap.mp hm
    exact Template.expand_zero (Captures.get?_zero_of_ofFound? hhit) (hnames m hm)
  rw [replaced_eq hg, hzero]

/-- What is made when the matches do not overlap and the search has found them all. -/
theorem replaced_of_complete (hg : g.Finds behind) {limit : Nat} {s : Text}
    (h : (reported limit s g).Pairwise fun m m' => m.whole.stop ≤ m'.whole.start)
    (hending : (g.findAll limit s).ending = .complete) (p : Text) :
    (∀ r, ∃ t, exchanged? s (Template.expand r) 0 (reported limit s g) = some t ∧
        replaced p r s limit g = .ok t) ∧
      (∀ r, ∃ t, exchanged? s (fun _ => r) 0 (reported limit s g) = some t ∧
        replaced p (Template.doubled r) s limit g = .ok t) ∧
      ((∀ m ∈ reported limit s g, some ['0'] ∉ m.names) →
        replaced p ['$', '0'] s limit g = .ok s) := by
  refine ⟨?_, ?_, ?_⟩
  · intro r
    simpa only [hending, Program.Ending.conclude] using (replaced_of_apart hg h p r).2
  · intro r
    simpa only [hending, Program.Ending.conclude] using replaced_doubled hg h p r
  · intro hnames
    simpa only [hending, Program.Ending.conclude] using replaced_zero hg h hnames p

theorem replaced_of_exhausted (hg : g.Finds behind) {limit : Nat} {s : Text}
    (h : (reported limit s g).Pairwise fun m m' => m.whole.stop ≤ m'.whole.start)
    (hending : (g.findAll limit s).ending = .exhausted) (p r : Text) :
    replaced p r s limit g = .error (.exhausted p) := by
  obtain ⟨-, t, -, hresult⟩ := replaced_of_apart hg h p r
  rw [hresult, hending, Program.Ending.conclude]

end

/-- Whatever has been asked before, a replacement is made from the matches that a search for all
matches reports, if they do not overlap. A text with its dollar signs doubled is put in verbatim then,
and the whole match put in for itself gives the subject back, unless a group has the name of the
reference. Matches that overlap make a replacement break off: there is no slice between them. That takes
`\K` inside of a look-behind. A replacement fails as the search fails, if it does not break off before,
and it does break off when the search never ends. -/
theorem replace_splices (config : Config) (past past' : List Request) (p s : Text) :
    let e := (Engine.new config).after past
    let e' := (Engine.new config).after past'
    let apart (all : List Captures) := all.Pairwise fun m m' => m.whole.stop ≤ m'.whole.start
    (∀ all, (e.findAll p s).result = .ok all →
      (apart all →
        (∀ r, ∃ t, exchanged? s (Template.expand r) 0 all = some t ∧
          (e'.replace p r s).result = .ok t) ∧
        (∀ r, ∃ t, exchanged? s (fun _ => r) 0 all = some t ∧
          (e'.replace p (Template.doubled r) s).result = .ok t) ∧
        ((∀ m ∈ all, some ['0'] ∉ m.names) → (e'.replace p ['$', '0'] s).result = .ok s)) ∧
      (¬apart all → (∀ f, exchanged? s f 0 all = none) ∧
        ∀ r, (e'.replace p r s).result = .panicked)) ∧
    (∀ err, (e.findAll p s).result = .error err →
      (∀ r, (e'.replace p r s).result = .error err) ∨
        ∃ g, Program.compile? p = some g ∧ ¬apart (reported config.backtrackLimit s g) ∧
          ∀ r, (e'.replace p r s).result = .panicked) ∧
    ((e.findAll p s).result = .endless → ∀ r, (e'.replace p r s).result = .panicked) ∧
    (Pattern.onward p = true →
      (∀ all, (e.findAll p s).result = .ok all → apart all) ∧
      ∀ err, (e.findAll p s).result = .error err → ∀ r, (e'.replace p r s).result = .error err) := by
  intro e e' apart
  obtain ⟨hf, hconfig⟩ := (faithful_new config).after past
  obtain ⟨hf', hconfig'⟩ := (faithful_new config).after past'
  cases hcompile : Program.compile? p with
  | none =>
    have hfind : (e.findAll p s).result = .error (.malformed p) := by
      rw [findAll, (hf.execute _ _ _).1, outcome_of_compile?_eq_none hcompile]
    have hreplace (r : Text) : (e'.replace p r s).result = .error (.malformed p) := by
      rw [replace, (hf'.execute _ _ _).1, outcome_of_compile?_eq_none hcompile]
    have hmalformed (err : PatternError) (herr : (e.findAll p s).result = .error err) (r : Text) :
        (e'.replace p r s).result = .error err := by
      rw [hfind] at herr
      rw [hreplace, Outcome.error.inj herr]
    refine ⟨?_, fun err herr => Or.inl (hmalformed err herr), ?_, fun _ => ⟨?_, hmalformed⟩⟩
    · simp [hfind]
    · simp [hfind]
    · simp [hfind]
  | some g =>
    have hg := Program.finds_of_compile? hcompile
    have hfind : (e.findAll p s).result =
        (g.findAll config.backtrackLimit s).ending.conclude p (reported config.backtrackLimit s g) := by
      rw [findAll, hf.execute_of_compile? hcompile, hconfig]
      rfl
    have hreplace (r : Text) : (e'.replace p r s).result =
        replaced p r s config.backtrackLimit g := by
      rw [replace, hf'.execute_of_compile? hcompile, hconfig']
      rfl
    simp only [hfind, hreplace, Program.Ending.conclude_eq_ok_iff,
      Program.Ending.conclude_eq_error_iff, Program.Ending.conclude_eq_endless_iff]
    by_cases hapart : apart (reported config.backtrackLimit s g)
    · have hfails (err : PatternError)
          (herr : (g.findAll config.backtrackLimit s).ending = .exhausted ∧ err = .exhausted p)
          (r : Text) : replaced p r s config.backtrackLimit g = .error err := by
        obtain ⟨hending, rfl⟩ := herr
        exact replaced_of_exhausted hg hapart hending p r
      refine ⟨?_, fun err herr => Or.inl (hfails err herr), ?_, fun _ => ⟨?_, hfails⟩⟩
      · rintro all ⟨hending, rfl⟩
        exact ⟨fun _ => replaced_of_complete hg hapart hending p, fun hnot => absurd hapart hnot⟩
      · exact fun hendless => absurd hendless (replaced_of_apart hg hapart p []).1
      · rintro all ⟨-, rfl⟩
        exact hapart
    · obtain ⟨hnone, hpanicked⟩ := replaced_of_not_apart hg hapart
      refine ⟨?_, ?_, fun _ => hpanicked p, ?_⟩
      · rintro all ⟨-, rfl⟩
        exact ⟨fun h => absurd h hapart, fun _ => ⟨hnone, hpanicked p⟩⟩
      · exact fun _ _ => Or.inr ⟨g, rfl, hapart, hpanicked p⟩
      · exact fun hp => absurd (apart_of_onward hp hcompile _ _) hapart

/-- A match of two bytes between brackets, and the empty one at the end that follows it after a letter.
Of a pattern whose second match is told to begin inside of the first, and of one that finds the same
match for ever, no replacement is made. -/
theorem replace_splices_brackets :
    let e := (Engine.new ⟨1000, 1, '/'⟩).after [.compile ['a']]
    let e' := (Engine.new ⟨1000, 1, '/'⟩).after []
    let p : Text := ['(', 'é', ')', '|', '(', '?', '!', '.', ')']
    let s : Text := ['a', 'é', 'b']
    let all : List Captures := [
      ⟨⟨1, 3, ['é']⟩, [some ⟨1, 3, ['é']⟩, some ⟨1, 3, ['é']⟩], [none, none]⟩,
      ⟨⟨4, 4, []⟩, [some ⟨4, 4, []⟩, none], [none, none]⟩]
    (e.findAll p s).result = .ok all ∧
      (e'.replace p ['[', '$', '1', ']'] s).result = .ok ['a', '[', 'é', ']', 'b', '[', ']'] ∧
      (e'.replace p ['$', '$', '1'] s).result = .ok ['a', '$', '1', 'b', '$', '1'] ∧
      (e'.replace p ['$', '0'] s).result = .ok s ∧
      Pattern.onward ['('] = true ∧
      (e.findAll ['('] s).result = .error (.malformed ['(']) ∧
      (e'.replace ['('] ['$', '0'] s).result = .error (.malformed ['(']) ∧
      (∀ r, (e'.replace "(?<=\\Kb)b".toList r "abbb".toList).result = .panicked) ∧
      ∀ r, (e'.replace "(?<=\\Ka)".toList r ['a']).result = .panicked := by
  intro e e' p s all
  have hall : (e.findAll p s).result = .ok all := by decide +kernel
  have hp : Pattern.onward ['('] = true := by decide +kernel
  have herr : (e.findAll ['('] s).result = .error (.malformed ['(']) := by decide +kernel
  obtain ⟨hsplices, -, -, -⟩ := replace_splices ⟨1000, 1, '/'⟩ [.compile ['a']] [] p s
  obtain ⟨hreplace, hdoubled, hzero⟩ := (hsplices all hall).1 (by decide)
  have hbrackets : exchanged? s (Template.expand ['[', '$', '1', ']']) 0 all =
    some ['a', '[', 'é', ']', 'b', '[', ']'] := by decide
  have hverbatim : exchanged? s (fun _ => ['$', '1']) 0 all =
    some ['a', '$', '1', 'b', '$', '1'] := by decide
  obtain ⟨t, ht, hresult⟩ := hreplace ['[', '$', '1', ']']
  obtain rfl := Option.some.inj (ht.symm.trans hbrackets)
  obtain ⟨t, ht, hresult'⟩ := hdoubled ['$', '1']
  obtain rfl := Option.some.inj (ht.symm.trans hverbatim)
  obtain ⟨-, -, -, honward⟩ := replace_splices ⟨1000, 1, '/'⟩ [.compile ['a']] [] ['('] s
  have hoverlap : (e.findAll "(?<=\\Kb)b".toList "abbb".toList).result = .ok [
      ⟨⟨1, 3, ['b', 'b']⟩, [some ⟨1, 3, ['b', 'b']⟩], [none]⟩,
      ⟨⟨2, 4, ['b', 'b']⟩, [some ⟨2, 4, ['b', 'b']⟩], [none]⟩] := by decide +kernel
  have hendless : (e.findAll "(?<=\\Ka)".toList ['a']).result = .endless := by decide +kernel
  obtain ⟨hbreaks, -, -, -⟩ := replace_splices ⟨1000, 1, '/'⟩ [.compile ['a']] []
    "(?<=\\Kb)b".toList "abbb".toList
  obtain ⟨-, -, hnever, -⟩ := replace_splices ⟨1000, 1, '/'⟩ [.compile ['a']] []
    "(?<=\\Ka)".toList ['a']
  exact ⟨hall, hresult, hresult', hzero (by decide), hp, herr, (honward hp).2 _ herr _,
    ((hbreaks _ hoverlap).2 (by decide)).2, hnever hendless⟩

/-- A match that was told to begin inside of the one before is found, and then there is no text between
the two to be kept. -/
theorem replace_breaks_off :
    let e := Engine.new ⟨1000, 1, '/'⟩
    let p : Text := ['(', '?', '<', '=', '\\', 'K', 'b', ')', 'b']
    let s : Text := ['a', 'b', 'b', 'b']
    (e.findAll p s).result = .ok [
      ⟨⟨1, 3, ['b', 'b']⟩, [some ⟨1, 3, ['b', 'b']⟩], [none]⟩,
      ⟨⟨2, 4, ['b', 'b']⟩, [some ⟨2, 4, ['b', 'b']⟩], [none]⟩] ∧
      s.sliceBytes? 3 2 = none ∧ (e.replace p ['X'] s).result = .panicked ∧
      (e.replace p ['$', '0'] s).result = .panicked := by
  intro e p s
  exact ⟨by decide +kernel, by decide, by decide +kernel, by decide +kernel⟩

end Engine

end PatternLoom
