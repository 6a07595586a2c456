import PatternLoom.Proofs.Pattern.Literal
import PatternLoom.Proofs.Pattern.LookReading
import PatternLoom.Proofs.Pattern.SuccessiveSearch

/-!
# Texts between look-around

A text that has to be followed by another is compiled into one pass: the text is captured as the whole
match, and the other is matched behind it. A text that has to be preceded by another is matched by
backtracking, in which an attempt at one place costs nothing, since there is nothing to choose.
-/

namespace PatternLoom

set_option autoImplicit false

open Reader (literals symbolElements)

namespace Regex

theorem splitBehind_spine (ps : List Regex) :
    (spine ps).splitBehind = spine (ps.map splitBehind) := by
  induction ps with
  | nil => rfl
  | cons p ps ih =>
    change Regex.seq p.splitBehind (spine ps).splitBehind = _
    rw [ih]
    rfl

theorem splitBehind_symbols (t : Text) : (symbolElements t).map splitBehind = symbolElements t := by
  rw [symbolElements, List.map_map]
  rfl

theorem splitBehind_literals (u : Text) : (literals u).splitBehind = literals u :=
  splitBehind_of_easy (denotes_literals u).plain.isHard

theorem ofElements_append {ps qs : List Regex} (hps : ps ≠ []) (hqs : qs ≠ []) :
    ofElements (ps ++ qs) = spine (ps ++ qs) := by
  apply ofElements_eq_spine
  have hp := List.length_pos_iff.mpr hps
  have hq := List.length_pos_iff.mpr hqs
  rw [List.length_append]
  omega

theorem symbolElements_ne_nil {t : Text} (ht : t ≠ []) : symbolElements t ≠ [] := by
  simpa [symbolElements] using ht

theorem trailingAhead?_spine {ps : List Regex} (hps : ∀ p ∈ ps, ∀ q, p ≠ .ahead true q) (q : Regex) :
    (spine (ps ++ [.ahead true q])).trailingAhead? = some (spine ps, q) := by
  induction ps with
  | nil => rfl
  | cons p ps ih =>
    obtain ⟨hp, hps⟩ := List.forall_mem_cons.mp hps
    change (Regex.seq p (spine (ps ++ [.ahead true q]))).trailingAhead? = _
    rw [trailingAhead?, ih hps]
    · rfl
    · intro q' hq'
      exact absurd hq' (hp q')

theorem trailingAhead?_spine_eq_none {ps : List Regex} (hps : ∀ p ∈ ps, ∀ q, p ≠ .ahead true q) :
    (spine ps).trailingAhead? = none := by
  induction ps with
  | nil => rfl
  | cons p ps ih =>
    obtain ⟨hp, hps⟩ := List.forall_mem_cons.mp hps
    change (Regex.seq p (spine ps)).trailingAhead? = _
    rw [trailingAhead?, ih hps]
    · rfl
    · intro q' hq'
      exact absurd hq' (hp q')

theorem symbolElements_ne_ahead (t : Text) :
    ∀ p ∈ symbolElements t, ∀ q, p ≠ .ahead true q := by
  intro p hp q
  obtain ⟨c, -, rfl⟩ := List.mem_map.mp hp
  simp

theorem exists_simple?_spine (t : Text) :
    ∃ p, (spine (symbolElements t)).simple? = some p ∧ p.Spells {t} ∧ p.captures = [] :=
  (denotesAll_symbols t).spine.exists_simple? (copyless_spine (copyless_symbols t))

theorem exists_simple?_literals (t : Text) :
    ∃ p, (literals t).simple? = some p ∧ p.Spells {t} ∧ p.captures = [] :=
  (denotes_literals t).exists_simple? (copyless_ofElements (copyless_symbols t))

end Regex

namespace Regex

/-- A text that has to be followed by another is matched in one pass. -/
theorem matcher?_followed {t : Text} (ht : t ≠ []) {u : Text} {p q : Simple}
    (hp : (spine (symbolElements t)).simple? = some p) (hq : (literals u).simple? = some q) :
    (ofElements (symbolElements t ++ [.ahead true (literals u)])).splitBehind.matcher? [] =
      some (.onePass (.seq (.capture 0 p) (.seq q .empty))) := by
  have hsplit : (ofElements (symbolElements t ++ [.ahead true (literals u)])).splitBehind =
      spine (symbolElements t ++ [.ahead true (literals u)]) := by
    rw [ofElements_append (symbolElements_ne_nil ht) (List.cons_ne_nil _ _), splitBehind_spine,
      List.map_append, splitBehind_symbols, List.map_singleton, splitBehind, splitBehind_literals]
  have hwhole : (spine (symbolElements t ++ [.ahead true (literals u)])).whole =
      .seq (.capture 0 (spine (symbolElements t))) (.seq (literals u) .empty) := by
    rw [whole, trailingAhead?_spine (symbolElements_ne_ahead t)]
    rfl
  have hplain : (Regex.seq (.capture 0 (spine (symbolElements t)))
      (.seq (literals u) .empty)).Plain :=
    ⟨(denotesAll_symbols t).spine.plain, (denotes_literals u).plain, trivial⟩
  rw [hsplit, matcher?, hwhole, hplain.isHard, if_neg (by simp)]
  simp only [simple?, hp, hq]
  rfl

end Regex

namespace Cursor

theorem backward?_eq (n : Nat) (c : Cursor) :
    c.backward? n = if n ≤ c.behind.length then
      some ⟨c.behind.drop n, (c.behind.take n).reverse ++ c.ahead⟩ else none := by
  induction n generalizing c with
  | zero => rfl
  | succ n ih =>
    obtain ⟨behind, ahead⟩ := c
    cases behind with
    | nil => rfl
    | cons d behind =>
      rw [backward?, ih]
      simp only [List.length_cons, Nat.add_le_add_iff_right, List.drop_succ_cons,
        List.take_succ_cons, List.reverse_cons, List.append_assoc, List.singleton_append]

theorem exists_backward?_iff {c : Cursor} {u : Text} :
    (∃ d, c.backward? u.length = some d ∧ u <+: d.ahead) ↔ u <:+ c.behind.reverse := by
  rw [backward?_eq]
  constructor
  · rintro ⟨d, hd, hu⟩
    split at hd
    · rename_i hle
      cases hd
      have hlength : (c.behind.take u.length).reverse.length = u.length := by
        rw [List.length_reverse, List.length_take_of_le hle]
      have heq := List.prefix_iff_eq_take.mp hu
      rw [List.take_left' hlength] at heq
      rw [heq, List.reverse_suffix]
      exact List.take_prefix _ _
    · cases hd
  · intro hu
    have hle := hu.length_le
    rw [List.length_reverse] at hle
    have hfront : u.reverse <+: c.behind := by
      rwa [← List.reverse_suffix, List.reverse_reverse]
    have heq := List.prefix_iff_eq_take.mp hfront
    rw [List.length_reverse] at heq
    refine ⟨_, if_pos hle, ?_⟩
    rw [← heq, List.reverse_reverse]
    exact List.prefix_append _ _

end Cursor

namespace Simple

theorem matchAt?_followed {p q : Simple} {t u : Text} (hp : p.Spells {t}) (hpc : p.captures = [])
    (hq : q.Spells {u}) (hqc : q.captures = []) (s : Place) :
    (Simple.seq (.capture 0 p) (.seq q .empty)).matchAt? s.before s.offset s.slots s.ahead none =
      if t ++ u <+: s.ahead then
        some ⟨s.offset + (t ++ u).length, bounds s.slots s.offset (s.offset + t.length)⟩
      else none := by
  apply matchAt?_of_walks
  · rintro ⟨rest, hrest⟩
    rw [List.append_assoc] at hrest
    obtain ⟨v, hv, hahead⟩ := (hp.capture 0).complete none rfl hrest.symm
    obtain ⟨v', hv', -⟩ := hq.complete none rfl hahead
    exact ⟨v', .seq hv (.seq hv' .empty)⟩
  · intro v hv
    cases hv with
    | seq hcapture hrest =>
      cases hcapture with
      | @capture _ _ _ v₁ hv₁ =>
        cases hrest with
        | @seq _ _ _ v₂ _ hv₂ hempty =>
          cases hempty
          obtain ⟨w, rfl, hs, hoffset⟩ := hp.sound hv₁
          obtain ⟨w', rfl, hs', hoffset'⟩ := hq.sound hv₂
          -- the text behind moves the end of the walk, but not the bounds of the match
          have hslots : v₁.slots = s.slots.openAt 0 s.offset := hv₁.slots_eq hpc
          have hslots' : v.slots = v₁.slots.closeAt 0 v₁.offset := hv₂.slots_eq hqc
          have hbehind : v₁.offset = s.offset + w.length := hoffset
          have hend : v.offset = v₁.offset + w'.length := hoffset'
          have hahead : s.ahead = w ++ v₁.ahead := hs
          have hahead' : v₁.ahead = w' ++ v.ahead := hs'
          refine ⟨⟨v.ahead, ?_⟩, ?_⟩
          · rw [hahead, hahead', List.append_assoc]
          · rw [hslots', hslots, hend, hbehind, List.length_append, Nat.add_assoc]
            rfl

end Simple

namespace Plan

/-- A plan that matches a text where it stands and has nothing to choose. -/
def Consumes (p : Plan) (t : Text) : Prop :=
  ∀ k st budget, p.run k st budget =
    if t <+: st.cursor.ahead then k { st with cursor := st.cursor.forward t.length } budget
    else .failed budget

theorem consumes_scan {p : Simple} {t : Text} (hp : p.Spells {t}) (hc : p.captures = []) :
    (Plan.scan p).Consumes t := by
  intro k st budget
  have hmatch := Simple.matchAt?_spells hp hc
    ⟨st.cursor.site.before, st.cursor.ahead, st.cursor.offset, st.slots⟩
  have hforget : st.slots.forget p.captures = st.slots := by
    rw [hc]
    rfl
  have hscan : scanFrom? p st = (if t <+: st.cursor.ahead then
      some ⟨st.cursor.offset + t.length, st.slots⟩ else none : Option Simple.Hit).map fun hit =>
        { st with cursor := st.cursor.forwardTo hit.stop, slots := hit.slots } := by
    rw [← hmatch]
    unfold scanFrom?
    rw [hforget]
  simp only [run, hscan]
  by_cases ht : t <+: st.cursor.ahead
  · rw [if_pos ht, if_pos ht]
    simp only [Option.map_some, Cursor.forwardTo, Nat.add_sub_cancel_left]
  · rw [if_neg ht, if_neg ht]
    rfl

theorem consumes_chars (c : Char) : (Plan.chars (.one c)).Consumes [c] := by
  intro k st budget
  obtain ⟨⟨behind, ahead⟩, slots, origin⟩ := st
  cases ahead with
  | nil => rfl
  | cons d ahead =>
    have hiff : [c] <+: d :: ahead ↔ (CharClass.one c).contains d = true := by
      rw [List.cons_prefix_cons, CharClass.contains_one]
      constructor
      · exact fun h => h.1.symm
      · exact fun h => ⟨h.symm, List.nil_prefix⟩
    simp only [hiff]
    rfl

def preceded (width : Nat) (body : Plan) (p : Simple) : Plan :=
  .capture 0 (.seq (.behind true width body) (.scan p))

theorem run_behind {body : Plan} {u : Text} (hbody : body.Consumes u) (k : Goal) (st : State)
    (budget : Nat) :
    (Plan.behind true u.length body).run k st budget =
      if u <:+ st.cursor.behind.reverse then k st budget else .failed budget := by
  cases hback : st.cursor.backward? u.length with
  | none =>
    have hrun : (Plan.behind true u.length body).run k st budget = .failed budget := by
      simp only [run, condition, hback, if_true]
    rw [hrun, if_neg]
    intro hu
    obtain ⟨c, hc, -⟩ := Cursor.exists_backward?_iff.mpr hu
    rw [hback] at hc
    cases hc
  | some c =>
    have hrun : (Plan.behind true u.length body).run k st budget =
        body.run (fun st' budget => k { st with slots := st'.slots } budget)
          { st with cursor := c } budget := by
      simp only [run, condition, hback, if_true]
    rw [hrun, hbody]
    have hiff : u <+: c.ahead ↔ u <:+ st.cursor.behind.reverse := by
      rw [← Cursor.exists_backward?_iff, hback]
      simp
    simp only [hiff]

theorem run_preceded {body : Plan} {p : Simple} {t u : Text} (hbody : body.Consumes u)
    (hp : p.Spells {t}) (hc : p.captures = []) (st : State) (budget : Nat) :
    (preceded u.length body p).run done st budget =
      if u <:+ st.cursor.behind.reverse ∧ t <+: st.cursor.ahead then
        .matched { st with
          cursor := st.cursor.forward t.length
          slots := Simple.bounds st.slots st.cursor.offset (st.cursor.offset + t.length) } budget
      else .failed budget := by
  have hrun : (preceded u.length body p).run done st budget =
      (Plan.behind true u.length body).run
        ((Plan.scan p).run fun st budget =>
          done { st with slots := st.slots.closeAt 0 st.cursor.offset } budget)
        { st with slots := st.slots.openAt 0 st.cursor.offset } budget := rfl
  rw [hrun, run_behind hbody, consumes_scan hp hc]
  by_cases hu : u <:+ st.cursor.behind.reverse
  · by_cases ht : t <+: st.cursor.ahead
    · have hoffset := Program.offset_forward ht.length_le
      rw [if_pos hu, if_pos ht, if_pos ⟨hu, ht⟩, hoffset]
      rfl
    · rw [if_pos hu, if_neg ht, if_neg fun h => ht h.2]
  · rw [if_neg hu, if_neg fun h => hu h.1]

end Plan

namespace Regex

theorem plan?_seq_of_easy {p q : Regex} (h : (Regex.seq p q).isHard [] = false) (leading : Bool) :
    (Regex.seq p q).plan? [] false leading = (Regex.seq p q).simple?.map .scan := by
  rw [plan?, h]
  rfl

theorem fixedLength_literals (u : Text) : (literals u).fixedLength = true := by
  apply ofElements_induction (P := fun r => r.fixedLength = true) rfl
  · intro p q hp hq
    rw [fixedLength, hp, hq, Bool.and_self]
  · intro r hr
    obtain ⟨c, -, rfl⟩ := List.mem_map.mp hr
    rfl

theorem minLength_spine (u : Text) : (spine (symbolElements u)).minLength = u.length := by
  induction u with
  | nil => rfl
  | cons c u ih =>
    change 1 + (spine (symbolElements u)).minLength = _
    rw [ih, List.length_cons, Nat.add_comm]

theorem minLength_literals (u : Text) : (literals u).minLength = u.length := by
  match u with
  | [] => rfl
  | [c] => rfl
  | c :: d :: u => exact minLength_spine (c :: d :: u)

/-- A literal text is a single character, or is left to a scan. -/
theorem exists_plan?_literals (u : Text) :
    ∃ body : Plan, (literals u).plan? [] false true = some body ∧ body.Consumes u := by
  match u with
  | [] => exact ⟨.empty, rfl, fun k st budget => rfl⟩
  | [c] => exact ⟨.chars (.one c), rfl, Plan.consumes_chars c⟩
  | c :: d :: u =>
    obtain ⟨p, hp, hspells, hcaptures⟩ := exists_simple?_literals (c :: d :: u)
    refine ⟨.scan p, ?_, Plan.consumes_scan hspells hcaptures⟩
    have heasy := (denotes_literals (c :: d :: u)).plain.isHard
    exact (plan?_seq_of_easy heasy true).trans (congrArg (Option.map Plan.scan) hp)

theorem lookBehind_literals (u : Text) : (literals u).lookBehind true = .behind true (literals u) := by
  match u with
  | [] => rfl
  | [c] => rfl
  | c :: d :: u => rfl

theorem plan?_preceded {t : Text} (ht : t ≠ []) (u : Text) {p : Simple}
    (hp : (spine (symbolElements t)).simple? = some p) :
    ∃ body : Plan, body.Consumes u ∧
      (Regex.capture 0 (.seq (.behind true (literals u)) (spine (symbolElements t)))).plan? []
        false true = some (.preceded u.length body p) := by
  obtain ⟨body, hbody, hconsumes⟩ := exists_plan?_literals u
  have htext : (spine (symbolElements t)).plan? [] false false = some (.scan p) := by
    obtain ⟨c, t, rfl⟩ := List.exists_cons_of_ne_nil ht
    have heasy := (denotesAll_symbols (c :: t)).spine.plain.isHard
    exact (plan?_seq_of_easy heasy false).trans (congrArg (Option.map Plan.scan) hp)
  have hbehind : (Regex.behind true (literals u)).plan? [] true true =
      some (.behind true u.length body) := by
    rw [plan?, if_pos (fixedLength_literals u), minLength_literals, hbody]
    rfl
  have hbehindHard : (Regex.behind true (literals u)).isHard [] = true := rfl
  have hseqHard : (Regex.seq (.behind true (literals u)) (spine (symbolElements t))).isHard [] =
    true := rfl
  have hwholeHard : (Regex.capture 0 (.seq (.behind true (literals u)) (spine (symbolElements t)))).isHard
    [] = true := rfl
  refine ⟨body, hconsumes, ?_⟩
  rw [plan?, hwholeHard, plan?, hseqHard, hbehindHard, hbehind, htext]
  rfl

/-- A text that has to be preceded by another is matched by backtracking. -/
theorem matcher?_preceded {t : Text} (ht : t ≠ []) (u : Text) {p : Simple}
    (hp : (spine (symbolElements t)).simple? = some p) :
    ∃ body : Plan, body.Consumes u ∧
      (ofElements ([.behind true (literals u)] ++ symbolElements t)).splitBehind.matcher? [] =
        some (.backtracking (.preceded u.length body p)) := by
  have hsplit : (ofElements ([.behind true (literals u)] ++ symbolElements t)).splitBehind =
      spine ([.behind true (literals u)] ++ symbolElements t) := by
    rw [ofElements_append (List.cons_ne_nil _ _) (symbolElements_ne_nil ht), splitBehind_spine,
      List.map_append, splitBehind_symbols, List.map_singleton, splitBehind, splitBehind_literals,
      lookBehind_literals]
  have hnoAhead : ∀ r ∈ [.behind true (literals u)] ++ symbolElements t, ∀ q,
      r ≠ .ahead true q := by
    intro r hr
    rcases List.mem_append.mp hr with hr | hr
    · obtain rfl := List.mem_singleton.mp hr
      simp
    · exact symbolElements_ne_ahead t r hr
  have hwhole : (spine ([.behind true (literals u)] ++ symbolElements t)).whole =
      .capture 0 (.seq (.behind true (literals u)) (spine (symbolElements t))) := by
    rw [whole, trailingAhead?_spine_eq_none hnoAhead]
    rfl
  have hhard : (Regex.capture 0 (.seq (.behind true (literals u)) (spine (symbolElements t)))).isHard
    [] = true := rfl
  obtain ⟨body, hconsumes, hplan⟩ := plan?_preceded ht u hp
  refine ⟨body, hconsumes, ?_⟩
  rw [hsplit, matcher?, hwhole, if_pos hhard, hplan]
  rfl

end Regex

namespace Program

variable {g : Program} {t u : Text}

theorem compile?_of_matcher? {pattern : Text} {r : Regex} {groups : Nat} {m : Matcher}
    (hread : Pattern.read? pattern = some ⟨r, groups, [], []⟩)
    (hm : r.splitBehind.matcher? [] = some m) :
    compile? pattern = some ⟨pattern, m.lastGroup groups, [], m⟩ := by
  rw [compile?, hread]
  simp only [Option.bind_eq_bind, Option.bind_some, hm]

def foundOnce (x : Nat × Text) : Found := foundAt x.2 x.1

theorem clampStart_foundAt (t : Text) (o : Nat) : clampStart (foundAt t o) = foundAt t o := by
  have hspan : (foundAt t o).span? 0 = some (o, o + t.length) := rfl
  rw [clampStart, hspan]
  simp only [Nat.min_eq_left (Nat.le_add_right o t.length)]
  rfl

theorem seeks_followed {p q : Simple} (ht : t ≠ []) (hp : p.Spells {t}) (hpc : p.captures = [])
    (hq : q.Spells {u}) (hqc : q.captures = []) (hgroups : g.groups = 0)
    (hm : g.matcher = .onePass (.seq (.capture 0 p) (.seq q .empty))) (limit : Nat) (s : Text) :
    g.Seeks limit none s (fun o => if t ++ u <+: s.drop o then some t else none) foundOnce := by
  apply seeks_of_onePass hm
  · intro c hs
    have hahead : s.drop c.offset = c.ahead := hs ▸ c.drop_text
    have hmatch := Simple.matchAt?_followed hp hpc hq hqc
      ⟨c.behind.head?, c.ahead, c.offset, Slots.unset g.groups⟩
    refine (congrArg (Option.map Simple.Hit.slots) hmatch).trans ?_
    simp only [hahead, hgroups]
    by_cases h : t ++ u <+: c.ahead
    · rw [if_pos h, if_pos h]
      rfl
    · rw [if_neg h, if_neg h]
      rfl
  · intro o w
    rfl
  · intro o w hw
    split at hw
    · rename_i h
      obtain rfl := Option.some.inj hw
      exact ⟨ht, Text.add_length_le_of_prefix_drop ht ((List.prefix_append _ _).trans h)⟩
    · cases hw

theorem seeks_preceded {body : Plan} {p : Simple} (ht : t ≠ []) (hbody : body.Consumes u)
    (hp : p.Spells {t}) (hc : p.captures = []) (hgroups : g.groups = 0)
    (hm : g.matcher = .backtracking (.preceded u.length body p)) (limit : Nat) (s : Text) :
    g.Seeks limit (some limit) s
      (fun o => if u <:+ s.take o ∧ t <+: s.drop o then some t else none) foundOnce := by
  apply seeks_of_plan hm
  · intro origin
    have hattempt (c : Cursor) (budget : Nat) (hs : c.text = s) :
        (Plan.preceded u.length body p).run Plan.done ⟨c, Slots.unset g.groups, origin⟩ budget =
          if u <:+ s.take c.offset ∧ t <+: s.drop c.offset then
            .matched ⟨c.forward t.length,
              Simple.bounds (Slots.unset g.groups) c.offset (c.offset + t.length), origin⟩ budget
          else .failed budget := by
      have hahead : s.drop c.offset = c.ahead := hs ▸ c.drop_text
      have hbehind : s.take c.offset = c.behind.reverse := hs ▸ c.take_text
      rw [hahead, hbehind, Plan.run_preceded hbody hp hc]
    constructor
    · intro c budget w hs hw
      split at hw
      · rename_i h
        obtain rfl := Option.some.inj hw
        refine ⟨_, (hattempt c budget hs).trans (if_pos h), ?_⟩
        rw [hgroups]
        exact clampStart_foundAt t c.offset
      · cases hw
    · intro c budget hs hw
      split at hw
      · cases hw
      · rename_i h
        exact (hattempt c budget hs).trans (if_neg h)
  · intro o w
    rfl
  · intro o w hw
    split at hw
    · rename_i h
      obtain rfl := Option.some.inj hw
      exact ⟨ht, Text.add_length_le_of_prefix_drop ht h.2⟩
    · cases hw

theorem exists_followed (ht : t ≠ []) (u : Text) : ∃ g : Program,
    compile?
        (Text.escapeLiteral t ++ ('(' :: ['?', '='] ++ (Text.escapeLiteral u ++ [')']))) = some g ∧
      g.groups = 0 ∧ g.names = [] ∧ ∀ limit s, g.Seeks limit none s
        (fun q => if t ++ u <+: s.drop q then some t else none) foundOnce := by
  obtain ⟨p, hp, hpspells, hpcaptures⟩ := Regex.exists_simple?_spine t
  obtain ⟨q, hq, hqspells, hqcaptures⟩ := Regex.exists_simple?_literals u
  have hroom : 0 < 63 := by decide
  have hread := Reader.read?_of_readsAs
    (Reader.readsAs_followed (Reader.basic_start _) hroom t u)
  have hcompile := compile?_of_matcher? hread (Regex.matcher?_followed ht hp hq)
  have hgroups : (Matcher.onePass (.seq (.capture 0 p) (.seq q .empty))).lastGroup 0 = 0 := by
    simp [Matcher.lastGroup, Simple.captures, hpcaptures, hqcaptures]
  refine ⟨_, hcompile, hgroups, rfl, ?_⟩
  intro limit s
  exact seeks_followed ht hpspells hpcaptures hqspells hqcaptures hgroups rfl limit s

theorem exists_preceded (ht : t ≠ []) (u : Text) : ∃ g : Program,
    compile?
        ('(' :: ['?', '<', '='] ++ (Text.escapeLiteral u ++ [')']) ++ Text.escapeLiteral t) = some g ∧
      g.groups = 0 ∧ g.names = [] ∧ ∀ limit s, g.Seeks limit (some limit) s
        (fun q => if u <:+ s.take q ∧ t <+: s.drop q then some t else none) foundOnce := by
  obtain ⟨p, hp, hpspells, hpcaptures⟩ := Regex.exists_simple?_spine t
  obtain ⟨body, hbody, hmatcher⟩ := Regex.matcher?_preceded ht u hp
  have hroom : 0 < 63 := by decide
  have hread := Reader.read?_of_readsAs
    (Reader.readsAs_preceded (Reader.basic_start _) hroom t u)
  refine ⟨_, compile?_of_matcher? hread hmatcher, rfl, rfl, ?_⟩
  intro limit s
  exact seeks_preceded ht hbody hpspells hpcaptures rfl rfl limit s

end Program

end PatternLoom
