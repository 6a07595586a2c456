import PatternLoom.Proofs.Engine.ClassSearch

/-!
# Classes of items

The body of a class lists items: single characters and ranges. A closing bracket may be one of their
characters, at any place, since a builder escapes it. The class has for its members what is listed, and
nothing else, whether the body is given as a text, appended piece by piece, or taken from another builder.
-/

namespace PatternLoom

set_option autoImplicit false

open Reader (ReadsAs)

/-- The characters that no item of a class may have. The closing bracket is not among them. -/
def itemSigns : List Char := ['\\', '[', '^', '-', '&', '~']

/-- A character that an item of a class may have. -/
def ItemCharacter := { c : Char // c ∉ itemSigns }

/-- A character by itself, or a range with both its ends. -/
inductive ClassItem where
  | one (a : ItemCharacter)
  | range (lo hi : ItemCharacter) (hle : lo.1 ≤ hi.1)

namespace ClassItem

def text : ClassItem → Text
  | .one a => [a.1]
  | .range lo hi _ => [lo.1, '-', hi.1]

/-- The characters that an item is meant for. -/
def Has : ClassItem → Char → Prop
  | .one a, c => c = a.1
  | .range lo hi _, c => lo.1 ≤ c ∧ c ≤ hi.1

instance (i : ClassItem) (c : Char) : Decidable (i.Has c) :=
  match i with
  | .one a => inferInstanceAs (Decidable (c = a.1))
  | .range lo hi _ => inferInstanceAs (Decidable (lo.1 ≤ c ∧ c ≤ hi.1))

def charClass : ClassItem → CharClass
  | .one a => .one a.1
  | .range lo hi _ => .range lo.1 hi.1

def body (items : List ClassItem) : Text := items.flatMap text

def fragment (items : List ClassItem) : Text := '[' :: (Text.escapeClass (body items) ++ [']'])

variable {items : List ClassItem} {program : List Step} {sub : SubPattern}

theorem contains_charClass (i : ClassItem) (c : Char) : i.charClass.contains c = true ↔ i.Has c := by
  cases i with
  | one a => exact CharClass.contains_one a.1 c
  | range lo hi hle => simp [charClass, CharClass.contains, Has]

theorem contains_unions_items (items : List ClassItem) (c : Char) :
    (CharClass.unions (items.map charClass)).contains c = true ↔ ∃ i ∈ items, i.Has c := by
  rw [CharClass.contains_unions, List.any_map, List.any_eq_true]
  simp only [Function.comp_apply, contains_charClass]

theorem body_ne_nil (hne : items ≠ []) : body items ≠ [] := by
  obtain ⟨i, items, rfl⟩ := List.exists_cons_of_ne_nil hne
  cases i <;> simp [body, text]

/-- Steps that append a text piece by piece, each piece verbatim or as the ends of a range. -/
inductive Appends : List Step → Text → Prop where
  | nil : Appends [] []
  | raw (u : Text) {program : List Step} {t : Text} (h : Appends program t) :
      Appends (.raw u :: program) (u ++ t)
  | range (start stop : Text) {program : List Step} {t : Text} (h : Appends program t) :
      Appends (.range start stop :: program) (start ++ '-' :: (stop ++ t))

theorem Appends.bare {t : Text} (h : Appends program t) (b : Builder) :
    (runProgram b program).1.bare = b.bare ++ t := by
  induction h generalizing b with
  | nil => simp [runProgram]
  | raw u _ ih => simp [runProgram, Step.run, ih]
  | range start stop _ ih => simp [runProgram, Step.run, ih]

/-- The forms in which items are given to a builder: as a text, by steps that append it, or as another
builder with the text for its pattern. -/
inductive GivenBy (items : List ClassItem) : SubPattern → Prop where
  | literal : GivenBy items (.literal (body items))
  | callback {program : List Step} (h : Appends program (body items)) :
      GivenBy items (.callback program none)
  | built {program : List Step} (h : (runProgram .new program).1.bare = body items) :
      GivenBy items (.built program)

theorem GivenBy.evaluate (h : GivenBy items sub) : sub.evaluate.1 = body items := by
  cases h with
  | literal => rfl
  | callback h => simpa [SubPattern.evaluate] using h.bare .new
  | built h => exact h

theorem GivenBy.run_group (h : GivenBy items sub) (b : Builder) :
    ((Step.group sub).run b).builder = b.push (fragment items) := by
  simp [Step.run, h.evaluate, fragment]

/-- A closing bracket is the only sign of a class that a character of an item can be, and it is
escaped. -/
theorem escaped_or_plain {c : Char} (hc : c ∉ itemSigns) :
    c ∈ Text.classCharacters ∨ c ∉ Bracket.signs := by
  have hsigns : ∀ d ∈ Bracket.signs, d ∈ Text.classCharacters ∨ d ∈ itemSigns := by
    simp [Bracket.signs, Text.classCharacters, itemSigns]
  exact (em (c ∈ Bracket.signs)).imp_left fun h => (hsigns c h).resolve_right hc

theorem stands (a : ItemCharacter) : Bracket.Stands (Bracket.pieceOf Text.classCharacters a.1) a.1 :=
  Bracket.stands_pieceOf (escaped_or_plain a.2)

theorem lists_body (items : List ClassItem) :
    Bracket.Lists ((body items).map (Bracket.pieceOf Text.classCharacters))
      (items.map charClass) := by
  induction items with
  | nil => exact .nil
  | cons i items ih =>
    cases i with
    | one a => exact .one (stands a) ih
    | range lo hi hle => exact .range (stands lo) (stands hi) hle ih

theorem readable_body {c : Char} (hc : c ∈ body items) :
    c ∈ Text.classCharacters ∨ c ∉ ['\\', '[', ']'] := by
  have hitem (a : ItemCharacter) : a.1 ∈ Text.classCharacters ∨ a.1 ∉ ['\\', '[', ']'] := by
    refine (escaped_or_plain a.2).imp_right fun hsign hmem => ?_
    have hpieces : ∀ d ∈ ['\\', '[', ']'], d ∈ Bracket.signs ∨ d ∈ itemSigns := by
      simp [Bracket.signs, itemSigns]
    exact (hpieces _ hmem).elim hsign a.2
  obtain ⟨i, -, hc⟩ := List.mem_flatMap.mp hc
  cases i with
  | one a => exact List.mem_singleton.mp hc ▸ hitem a
  | range lo hi hle =>
    simp only [text, List.mem_cons, List.not_mem_nil, or_false] at hc
    rcases hc with rfl | rfl | rfl
    · exact hitem lo
    · decide
    · exact hitem hi

theorem readsAs_fragment {r : Reader} (hr : r.Basic) (hne : items ≠ []) :
    ReadsAs r (fragment items) 0 [.chars (.unions (items.map charClass))] := by
  have hmeta : ∀ c ∈ Text.classCharacters, Text.isMeta c = true := List.all_eq_true.mp rfl
  exact Reader.readsAs_class hr
    (Bracket.read?_escapeWith hmeta (body_ne_nil hne) (fun _ => readable_body) (lists_body items))

/-- The class of items is compiled, and finds what one of the items is meant for. -/
theorem exists_program (hne : items ≠ []) :
    ∃ g, Program.compile? (fragment items) = some g ∧
      ∀ limit c, ∃ found, g.find? limit [c] = some found ∧
        (found.isSome = true ↔ ∃ i ∈ items, i.Has c) := by
  have hdenotes := (Regex.denotes_chars (.unions (items.map charClass))).singleton
  obtain ⟨g, hcompile, hfind⟩ := Program.exists_of_plain
    (fun r hr => readsAs_fragment hr hne) hdenotes (List.forall_mem_singleton.mpr trivial)
  refine ⟨g, hcompile, fun limit c => ?_⟩
  obtain ⟨found, hfound, hiff⟩ := hfind limit [c]
  refine ⟨found, hfound, hiff.trans ?_⟩
  rw [CharClass.exists_infix_singleton_iff, contains_unions_items]

end ClassItem

namespace Engine

/-- However items are given to it, a builder makes the same class of them. Whatever it has been asked
before, an engine compiles the class, and it matches the characters that the items are meant for. -/
theorem items_search (config : Config) (past : List Request) (items : List ClassItem)
    (hne : items ≠ []) (sub : SubPattern) (hsub : ClassItem.GivenBy items sub) :
    let e := (Engine.new config).after past
    let b := (runProgram .new [.group sub]).1
    (∀ b', ((Step.group sub).run b').builder = b'.push (ClassItem.fragment items)) ∧
      (∃ v, (b.compile e).result = .ok v) ∧
      ∀ c, ∃ matched, (b.isMatch e [c]).result = .ok matched ∧
        (matched = true ↔ ∃ i ∈ items, i.Has c) := by
  intro e b
  obtain ⟨he, -⟩ := (faithful_new config).after past
  obtain ⟨g, hcompile, hfind⟩ := ClassItem.exists_program hne
  have hbare : b.bare = ClassItem.fragment items := by
    simp [b, runProgram, hsub.run_group]
  rw [← hbare] at hcompile
  exact ⟨hsub.run_group, he.isMatch_characters hcompile hfind⟩

/-- A closing bracket may come first, last and as the end of a range. -/
theorem items_search_closing :
    let close : ItemCharacter := ⟨']', by decide⟩
    let capital : ItemCharacter := ⟨'A', by decide⟩
    let items : List ClassItem := [.one close, .range capital close (by decide), .one close]
    let sub : SubPattern := .callback [.raw [']'], .range ['A'] [']'], .raw [']']] none
    let e := (Engine.new ⟨0, 1, '/'⟩).after [.clear]
    let b := (runProgram .new [.group sub]).1
    items ≠ [] ∧ ClassItem.GivenBy items sub ∧ b.bare = "[\\]A-\\]\\]]".toList ∧
      (b.isMatch e [']']).result = .ok true ∧ (b.isMatch e ['Z']).result = .ok true ∧
        (b.isMatch e ['-']).result = .ok false := by
  intro close capital items sub e b
  have hne : items ≠ [] := List.cons_ne_nil _ _
  have hprogram : ClassItem.Appends [.raw [']'], .range ['A'] [']'], .raw [']']]
      (ClassItem.body items) := .raw _ (.range _ _ (.raw _ .nil))
  have hsub : ClassItem.GivenBy items sub := .callback hprogram
  obtain ⟨-, -, hmatch⟩ := items_search ⟨0, 1, '/'⟩ [.clear] items hne sub hsub
  have hanswer (c : Char) : (b.isMatch e [c]).result = .ok (decide (∃ i ∈ items, i.Has c)) := by
    obtain ⟨matched, hresult, hiff⟩ := hmatch c
    rw [hresult]
    exact congrArg Outcome.ok (Bool.eq_iff_iff.mpr (hiff.trans decide_eq_true_iff.symm))
  exact ⟨hne, hsub, by decide, hanswer ']', hanswer 'Z', hanswer '-'⟩

end Engine

end PatternLoom
