import PatternLoom.Proofs.Engine.Replacement

/-!
# Agreement of the entry points

An engine can be asked in several ways about one pattern. All of them judge the pattern alike, and a
search for the first match and a test for a match say what the list of all matches says.
-/

namespace PatternLoom

set_option autoImplicit false

/-- Nothing but a limit on backtracking steps keeps the request from a value. -/
def Outcome.Limited {β : Type} (p : Text) (x : Outcome β) : Prop :=
  x = .error (.exhausted p) ∨ ∃ b, x = .ok b

/-- What can be asked about one pattern, after any requests to the engine. A match is reported as an
`α`. -/
structure Answers (α : Type) where
  compile : List Request → Outcome (Compiled Program)
  isMatch : List Request → Text → Outcome Bool
  first : List Request → Text → Outcome (Option α)
  all : List Request → Text → Outcome (List α)
  replace : List Request → Text → Text → Outcome Text

theorem Outcome.Limited.map {α β : Type} {p : Text} {x : Outcome α} (h : x.Limited p) (f : α → β) :
    (x.map f).Limited p := by
  rcases h with herr | ⟨a, ha⟩
  · exact Or.inl (map_eq_error_iff.mpr herr)
  · exact Or.inr ⟨f a, map_eq_ok_iff.mpr ⟨a, ha, rfl⟩⟩

theorem Outcome.limited_ofSearch {β : Type} (p : Text) (found : Option β) :
    (ofSearch p found).Limited p := by
  cases found with
  | none => exact Or.inl rfl
  | some b => exact Or.inr ⟨b, rfl⟩

namespace Answers

variable {α β : Type}

/-- Every answer is that the pattern is ill-formed. -/
structure Rejected (a : Answers α) (p : Text) : Prop where
  compile : ∀ past, a.compile past = .error (.malformed p)
  isMatch : ∀ past s, a.isMatch past s = .error (.malformed p)
  first : ∀ past s, a.first past s = .error (.malformed p)
  all : ∀ past s, a.all past s = .error (.malformed p)
  replace : ∀ past r s, a.replace past r s = .error (.malformed p)

/-- The pattern compiles, and no answer fails but for too many steps, as long as the matches do not
overlap. A search that comes upon matches that do may go on for ever, and a replacement breaks off
there. -/
structure Accepted (a : Answers α) (p : Text) : Prop where
  compile : ∀ past, ∃ g, a.compile past = .ok g
  isMatch : ∀ past s, (a.isMatch past s).Limited p
  first : ∀ past s, (a.first past s).Limited p
  all : ∀ past s, (a.all past s).Limited p ∨ a.all past s = .endless ∧ Pattern.onward p = false
  replace : ∀ past r s,
    (a.replace past r s).Limited p ∨ a.replace past r s = .panicked ∧ Pattern.onward p = false

/-- The answers fit together, even when other requests have been made between them. -/
structure Agree (a : Answers α) (p : Text) : Prop where
  verdict : a.Rejected p ∨ a.Accepted p
  first : ∀ past past' s ms, a.all past s = .ok ms → a.first past' s = .ok ms.head?
  isMatch : ∀ past past' s ms,
    a.all past s = .ok ms → a.isMatch past' s = .ok (!ms.isEmpty)

def report (f : α → β) (a : Answers α) : Answers β where
  compile := a.compile
  isMatch := a.isMatch
  first past s := (a.first past s).map fun m => m.map f
  all past s := (a.all past s).map fun ms => ms.map f
  replace := a.replace

theorem Agree.report {a : Answers α} {p : Text} (h : a.Agree p) (f : α → β) :
    (a.report f).Agree p where
  verdict := by
    rcases h.verdict with hno | hyes
    · apply Or.inl
      refine ⟨hno.compile, hno.isMatch, ?_, ?_, hno.replace⟩
      · intro past s
        exact Outcome.map_eq_error_iff.mpr (hno.first past s)
      · intro past s
        exact Outcome.map_eq_error_iff.mpr (hno.all past s)
    · apply Or.inr
      refine ⟨hyes.compile, hyes.isMatch, ?_, ?_, hyes.replace⟩
      · intro past s
        exact (hyes.first past s).map _
      · intro past s
        rcases hyes.all past s with hlimited | ⟨hendless, hp⟩
        · exact Or.inl (hlimited.map _)
        · exact Or.inr ⟨Outcome.map_eq_endless_iff.mpr hendless, hp⟩
  first past past' s ms hall := by
    obtain ⟨ns, hns, rfl⟩ := Outcome.map_eq_ok_iff.mp hall
    apply Outcome.map_eq_ok_iff.mpr
    exact ⟨ns.head?, h.first past past' s ns hns, List.head?_map.symm⟩
  isMatch past past' s ms hall := by
    obtain ⟨ns, hns, rfl⟩ := Outcome.map_eq_ok_iff.mp hall
    rw [List.isEmpty_map]
    exact h.isMatch past past' s ns hns

end Answers

def Engine.answers (config : Config) (p : Text) : Answers Captures where
  compile past := (((Engine.new config).after past).compile p).result
  isMatch past s := (((Engine.new config).after past).isMatch p s).result
  first past s := (((Engine.new config).after past).findFirst p s).result
  all past s := (((Engine.new config).after past).findAll p s).result
  replace past r s := (((Engine.new config).after past).replace p r s).result

/-- What a builder answers about its pattern, with the groups of the matches. -/
def Builder.answers (config : Config) (b : Builder) : Answers Captures where
  compile past := (b.compile ((Engine.new config).after past)).result
  isMatch past s := (b.isMatch ((Engine.new config).after past) s).result
  first past s := (b.captures ((Engine.new config).after past) s).result
  all past s := (b.capturesAll ((Engine.new config).after past) s).result
  replace past r s := (b.replace ((Engine.new config).after past) r s).result

/-- What a builder answers about its pattern, with the texts of the matches. -/
def Builder.textAnswers (config : Config) (b : Builder) : Answers Text where
  compile past := (b.compile ((Engine.new config).after past)).result
  isMatch past s := (b.isMatch ((Engine.new config).after past) s).result
  first past s := (b.findText ((Engine.new config).after past) s).result
  all past s := (b.findAllTexts ((Engine.new config).after past) s).result
  replace past r s := (b.replace ((Engine.new config).after past) r s).result

namespace Engine

variable {config : Config} {p : Text}

theorem rejected_of_compile? (h : Program.compile? p = none) : (answers config p).Rejected p := by
  have hfaithful (past : List Request) := ((faithful_new config).after past).1
  have hrun {β : Type} (past : List Request) (report : β → List Event)
      (run : Nat → Program → Outcome β) :
      (((Engine.new config).after past).execute p report run).result = .error (.malformed p) := by
    rw [((hfaithful past).execute p report run).1]
    exact outcome_of_compile?_eq_none h
  refine ⟨?_, ?_, ?_, ?_, ?_⟩
  · intro past
    have hcompile := ((hfaithful past).compile p).1
    rw [compiled, h] at hcompile
    exact Outcome.map_eq_error_iff.mp hcompile
  · intro past s
    simp only [answers, isMatch, hrun]
  · intro past s
    simp only [answers, findFirst, hrun]
  · intro past s
    simp only [answers, findAll, hrun]
  · intro past r s
    simp only [answers, replace, hrun]

theorem limited_conclude {β : Type} {ending : Program.Ending} (h : ending ≠ .endless) (b : β) :
    (ending.conclude p b).Limited p := by
  cases ending with
  | complete => exact Or.inr ⟨b, rfl⟩
  | exhausted => exact Or.inl rfl
  | endless => exact absurd rfl h

theorem limited_allCaptures {g : Program} (h : Program.compile? p = some g) (limit : Nat) (s : Text) :
    (allCaptures p s limit g).Limited p ∨
      allCaptures p s limit g = .endless ∧ Pattern.onward p = false := by
  by_cases hending : (g.findAll limit s).ending = .endless
  · refine Or.inr ⟨Program.Ending.conclude_eq_endless_iff.mpr hending, ?_⟩
    by_contra hp
    exact (Program.finds_of_onward (Bool.not_eq_false _ ▸ hp) h).ending_findAll limit s hending
  · exact Or.inl (limited_conclude hending _)

theorem limited_replaced {g : Program} (h : Program.compile? p = some g) (limit : Nat) (r s : Text) :
    (replaced p r s limit g).Limited p ∨
      replaced p r s limit g = .panicked ∧ Pattern.onward p = false := by
  have hg := Program.finds_of_compile? h
  by_cases hapart : (reported limit s g).Pairwise fun m m' => m.whole.stop ≤ m'.whole.start
  · obtain ⟨hending, t, -, hresult⟩ := replaced_of_apart hg hapart p r
    exact Or.inl (hresult ▸ limited_conclude hending t)
  · refine Or.inr ⟨(replaced_of_not_apart hg hapart).2 p r, ?_⟩
    by_contra hp
    exact hapart (apart_of_onward (Bool.not_eq_false _ ▸ hp) h limit s)

theorem accepted_of_compile? {g : Program} (h : Program.compile? p = some g) :
    (answers config p).Accepted p := by
  have hfaithful (past : List Request) := ((faithful_new config).after past).1
  have hrun {β : Type} (past : List Request) (report : β → List Event)
      (run : Nat → Program → Outcome β) :=
    (hfaithful past).execute_of_compile? h report run
  refine ⟨?_, ?_, ?_, ?_, ?_⟩
  · intro past
    apply (hfaithful past).compiles_iff.mpr
    rw [h]
    rfl
  · intro past s
    simp only [answers, isMatch, hrun]
    exact Outcome.limited_ofSearch p _
  · intro past s
    simp only [answers, findFirst, hrun]
    exact Outcome.limited_ofSearch p _
  · intro past s
    simp only [answers, findAll, hrun]
    exact limited_allCaptures h _ s
  · intro past r s
    simp only [answers, replace, hrun]
    exact limited_replaced h _ r s

theorem first_of_allCaptures {g : Program} {behind : Bool} (hg : g.Finds behind) {limit : Nat}
    {s : Text} {all : List Captures} (h : allCaptures p s limit g = .ok all) :
    ((g.find? limit s).map fun found => found.bind (Captures.ofFound? g s)) = some all.head? ∧
      (g.find? limit s).map Option.isSome = some !all.isEmpty := by
  obtain ⟨hending, rfl⟩ := allCaptures_eq_ok_iff.mp h
  have hfirst := hg.find?_of_findAll hending
  rw [hfirst]
  cases hfound : (g.findAll limit s).found with
  | nil => exact ⟨rfl, rfl⟩
  | cons hit rest =>
    rw [hfound] at hfirst
    -- a match that is found has captures, so it is not left out of the list
    obtain ⟨start, stop, hspan, -, -⟩ := hg _ _ _ _ hfirst
    have hwhole := Captures.map_whole_ofFound? g s hit
    rw [hspan, Option.map_some, Option.map_eq_some_iff] at hwhole
    obtain ⟨caps, hcaps, -⟩ := hwhole
    rw [List.filterMap_cons_some hcaps]
    exact ⟨congrArg some hcaps, rfl⟩

theorem agree_answers (config : Config) (p : Text) : (answers config p).Agree p := by
  have hfaithful (past : List Request) := (faithful_new config).after past
  have hfirst {past : List Request} {s : Text} {ms : List Captures}
      (hall : (answers config p).all past s = .ok ms) (past' : List Request) :
      (answers config p).first past' s = .ok ms.head? ∧
        (answers config p).isMatch past' s = .ok !ms.isEmpty := by
    obtain ⟨hf, hconfig⟩ := hfaithful past
    obtain ⟨hf', hconfig'⟩ := hfaithful past'
    simp only [answers, findAll, findFirst, isMatch, (hf.execute _ _ _).1, (hf'.execute _ _ _).1,
      hconfig, hconfig', outcome_eq_ok_iff, Outcome.ofSearch_eq_ok_iff] at hall ⊢
    obtain ⟨g, hcompile, hrun⟩ := hall
    obtain ⟨hhead, hany⟩ := first_of_allCaptures (Program.finds_of_compile? hcompile) hrun
    exact ⟨⟨g, hcompile, hhead⟩, g, hcompile, hany⟩
  refine ⟨?_, ?_, ?_⟩
  · cases hcompile : Program.compile? p with
    | none => exact Or.inl (rejected_of_compile? hcompile)
    | some g => exact Or.inr (accepted_of_compile? hcompile)
  · exact fun past past' s ms hall => (hfirst hall past').1
  · exact fun past past' s ms hall => (hfirst hall past').2

/-- All ways to ask about a pattern agree, and so do those of a builder about its bare pattern, whether
they report groups or texts. -/
theorem entry_points_agree (config : Config) :
    (∀ p, (Engine.answers config p).Agree p) ∧
      ∀ b : Builder, (b.answers config).Agree b.bare ∧ (b.textAnswers config).Agree b.bare := by
  refine ⟨agree_answers config, ?_⟩
  intro b
  exact ⟨agree_answers config b.bare, (agree_answers config b.bare).report (·.whole.text)⟩

end Engine

end PatternLoom
