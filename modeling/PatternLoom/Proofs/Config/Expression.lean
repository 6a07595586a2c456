import Mathlib.Data.List.Forall2
import PatternLoom.Proofs.Config.Variables
import PatternLoom.Proofs.Text.Decimal

/-!
# Configurations given by variables

Three overrides give any valid configuration, whatever was configured before: numerals are read back,
upper case undoes the spelling of a name, and trimming takes the blanks around a value but never a
character that can be a delimiter.
-/

namespace PatternLoom

set_option autoImplicit false

namespace Text

theorem isBlank_of_isDigit {c : Char} (hc : c.isDigit = true) : Unicode.isBlank c = false := by
  simp only [Char.isDigit, Bool.and_eq_true, decide_eq_true_eq] at hc
  obtain ⟨hlo, hhi⟩ := hc
  have hlo' : 48 ≤ c.toNat := UInt32.le_iff_toNat_le.mp hlo
  have hhi' : c.toNat ≤ 57 := UInt32.le_iff_toNat_le.mp hhi
  simp only [Unicode.isBlank, Bool.or_eq_false_iff, Bool.and_eq_false_iff, decide_eq_false_iff_not,
    beq_eq_false_iff_ne]
  omega

end Text

namespace Config

/-- A spelling of a name: every letter stands in its own case or in lower case. -/
def Spells (name spelling : Text) : Prop := List.Forall₂ (fun c d => d = c ∨ d = c.toLower) name spelling

namespace Variable

def all : List Variable := [.backtrackLimit, .cacheSize, .delimiter]

theorem mem_all (v : Variable) : v ∈ all := by
  cases v <;> decide

/-- What a variable is set to for a configuration. -/
def text (c : Config) : Variable → Text
  | .backtrackLimit => Text.ofNat c.backtrackLimit
  | .cacheSize => Text.ofNat c.cacheSize
  | .delimiter => [c.delimiter]

theorem upper_of_spells {v : Variable} {spelling : Text} (h : Spells v.name spelling) :
    Settings.upper spelling = v.name := by
  have hcase : (v.name.all fun c =>
      Unicode.upperCase c == [c] && Unicode.upperCase c.toLower == [c]) = true := by
    cases v <;> decide +kernel
  rw [List.all_eq_true] at hcase
  unfold Spells at h
  generalize v.name = name at h hcase
  induction h with
  | nil => rfl
  | @cons c d name spelling hd _ ih =>
    obtain ⟨hboth, hcase⟩ := List.forall_mem_cons.mp hcase
    obtain ⟨hupper, hlower⟩ := Bool.and_eq_true_iff.mp hboth
    have hletter : Unicode.upperCase d = [c] := by
      rcases hd with rfl | rfl
      · exact eq_of_beq hupper
      · exact eq_of_beq hlower
    rw [Settings.upper, List.flatMap_cons, hletter, ← Settings.upper, ih hcase]
    rfl

/-- What stands in a variable has no blanks of its own. -/
theorem isBlank_of_mem_text {c : Config} (hvalid : c.validate = .ok ()) {v : Variable} {d : Char}
    (hd : d ∈ v.text c) : Unicode.isBlank d = false := by
  cases v with
  | backtrackLimit | cacheSize => exact Text.isBlank_of_isDigit (Text.isDigit_of_mem_ofNat hd)
  | delimiter =>
    obtain rfl := List.mem_singleton.mp hd
    exact isBlank_of_isValidDelimiter ((validate_eq_ok_iff c).mp hvalid)

theorem text_ne_nil (v : Variable) (c : Config) : v.text c ≠ [] := by
  cases v with
  | backtrackLimit | cacheSize => exact Text.ofNat_ne_nil _
  | delimiter => exact List.cons_ne_nil _ _

end Variable

end Config

/-- A variable that is overridden once has the value of that override. -/
theorem Layers.value?_of_unique {l : Layers} {o : Text × Text} (ho : o ∈ l.overrides)
    (honly : ∀ o' ∈ l.overrides, Settings.upper o'.1 = Settings.upper o.1 → o' = o) :
    l.value? (Settings.upper o.1) = some o.2 := by
  rw [value?]
  cases hfind : l.overrides.reverse.find? fun o' => Settings.upper o'.1 == Settings.upper o.1 with
  | none =>
    have hnone := List.find?_eq_none.mp hfind o (List.mem_reverse.mpr ho)
    exact absurd (beq_self_eq_true _) hnone
  | some o' =>
    have hmem := List.mem_reverse.mp (List.mem_of_find?_eq_some hfind)
    have hname := List.find?_some hfind
    rw [honly o' hmem (eq_of_beq hname)]

namespace Config

/-- The overrides give a configuration: one for each variable in some order, under a name that is the
variable's in upper case, and with blanks around the value. -/
structure GivenBy (c : Config) (overrides : List (Text × Text)) (names front back : Variable → Text) :
    Prop where
  overrides : overrides.Perm
    (Variable.all.map fun v => (names v, front v ++ (v.text c ++ back v)))
  names : ∀ v, Settings.upper (names v) = v.name
  front : ∀ v, ∀ d ∈ front v, Unicode.isBlank d = true
  back : ∀ v, ∀ d ∈ back v, Unicode.isBlank d = true

namespace GivenBy

variable {c : Config} {l : Layers} {names front back : Variable → Text}

theorem value? (h : GivenBy c l.overrides names front back) (v : Variable) :
    l.value? v.name = some (front v ++ (v.text c ++ back v)) := by
  have hmem {o : Text × Text} : o ∈ l.overrides ↔
      ∃ v ∈ Variable.all, (names v, front v ++ (v.text c ++ back v)) = o := by
    rw [h.overrides.mem_iff, List.mem_map]
  rw [← h.names v]
  apply Layers.value?_of_unique (o := (names v, front v ++ (v.text c ++ back v)))
  · exact hmem.mpr ⟨v, v.mem_all, rfl⟩
  · intro o ho hname
    obtain ⟨v', -, rfl⟩ := hmem.mp ho
    have hsame : v'.name = v.name := by rw [← h.names v', ← h.names v, hname]
    rw [Variable.name_inj.mp hsame]

theorem trim (h : GivenBy c l.overrides names front back) (hvalid : c.validate = .ok ())
    (v : Variable) : Text.trim (front v ++ (v.text c ++ back v)) = v.text c :=
  Text.trim_padded (fun _ => Variable.isBlank_of_mem_text hvalid) (v.text_ne_nil c) (h.front v)
    (h.back v)

/-- Every variable stands for what the configuration has. -/
theorem applied (h : GivenBy c l.overrides names front back) (hvalid : c.validate = .ok ())
    (hlimit : c.backtrackLimit < Nat.pow 2 64) (hsize : c.cacheSize < Nat.pow 2 64) :
    (l.value? backtrackLimitName).bind sizeOf? = some c.backtrackLimit ∧
      (l.value? cacheSizeName).bind sizeOf? = some c.cacheSize ∧
      (l.value? delimiterName).bind delimiterOf? = some c.delimiter := by
  have hdelimiter := (validate_eq_ok_iff c).mp hvalid
  refine ⟨?_, ?_, ?_⟩
  · apply (congrArg (·.bind sizeOf?) (h.value? .backtrackLimit)).trans
    rw [Option.bind_some, sizeOf?, h.trim hvalid]
    exact Text.toNatBelow?_ofNat hlimit
  · apply (congrArg (·.bind sizeOf?) (h.value? .cacheSize)).trans
    rw [Option.bind_some, sizeOf?, h.trim hvalid]
    exact Text.toNatBelow?_ofNat hsize
  · apply (congrArg (·.bind delimiterOf?) (h.value? .delimiter)).trans
    rw [Option.bind_some, delimiterOf?, h.trim hvalid]
    exact (Option.filter_some ..).trans (if_pos hdelimiter)

end GivenBy

theorem any_eq_false_of_bind {α β : Type} {a : Option α} {f : α → Option β} {b : β}
    (h : a.bind f = some b) : (a.any fun a => !(f a).isSome) = false := by
  cases a with
  | none => cases h
  | some a =>
    rw [Option.bind_some] at h
    rw [Option.any_some, h]
    rfl

theorem snd_withSettings_eq_nil {base : Config} {l : Layers}
    (h : ∀ v : Variable, v.isDropped (l.value? v.name) = false) :
    (base.withSettings l.settings).2 = [] := by
  have hsilent (v : Variable) : eventsOf l.settings v = [] := by
    have hreports := reports_eventsOf l v
    rw [h v] at hreports
    exact hreports.eq_nil
  rw [snd_withSettings, hsilent, hsilent, hsilent]
  rfl

/-- A name in upper case, in lower case or in a mixture of both is the variable's in upper case. Three
overrides under such names that give a valid configuration with sizes of 64 bits make it out of any
other one, with nothing to warn of. -/
theorem config_expressed :
    (∀ (v : Variable) (spelling : Text), Spells v.name spelling →
      Settings.upper spelling = v.name) ∧
    ∀ (c base : Config) (l : Layers) (names front back : Variable → Text),
      c.validate = .ok () → c.backtrackLimit < Nat.pow 2 64 → c.cacheSize < Nat.pow 2 64 →
      GivenBy c l.overrides names front back → base.withSettings l.settings = (c, []) := by
  refine ⟨fun v spelling => Variable.upper_of_spells, ?_⟩
  intro c base l names front back hvalid hlimit hsize hgiven
  obtain ⟨hlimit', hsize', hdelimiter⟩ := hgiven.applied hvalid hlimit hsize
  apply Prod.ext
  · rw [fst_withSettings, hlimit', hsize', hdelimiter]
    rfl
  · apply snd_withSettings_eq_nil
    intro v
    cases v with
    | backtrackLimit => exact any_eq_false_of_bind hlimit'
    | cacheSize => exact any_eq_false_of_bind hsize'
    | delimiter => exact any_eq_false_of_bind hdelimiter

/-- The largest size, no cache and a delimiter between blanks, in another order than that of the fields
and against values of the environment. -/
theorem config_expressed_padded :
    let c : Config := ⟨18446744073709551615, 0, '#'⟩
    let base : Config := ⟨1, 2, '!'⟩
    let l : Layers :=
      ⟨[], [("delimiter".toList, [' ', '#', '\u3000', '\n']),
        ("backtrack_limit".toList, ' ' :: "18446744073709551615".toList ++ ['\u3000', '\n']),
        ("cache_size".toList, [' ', '0', '\u3000', '\n'])], [("CACHE_SIZE".toList, ['7'])]⟩
    Settings.upper "cache_size".toList = cacheSizeName ∧ base.withSettings l.settings = (c, []) := by
  intro c base l
  obtain ⟨hspelling, hexpressed⟩ := config_expressed
  constructor
  · apply hspelling .cacheSize
    unfold Spells
    decide +kernel
  · apply hexpressed c base l (fun v => v.name.map Char.toLower) (fun _ => [' '])
      (fun _ => ['\u3000', '\n'])
    · decide
    · decide
    · decide
    · refine ⟨?_, ?_, ?_, ?_⟩
      · decide +kernel
      · intro v
        cases v <;> decide +kernel
      · exact fun _ => List.forall_mem_singleton.mpr rfl
      · exact fun _ => List.forall_mem_cons.mpr ⟨rfl, List.forall_mem_singleton.mpr rfl⟩

end Config

end PatternLoom
