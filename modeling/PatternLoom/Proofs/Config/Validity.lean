import Mathlib.Data.List.TakeWhile
import PatternLoom.Config.Environment
import PatternLoom.Config.File

/-!
# Loaded configurations are valid

A configuration text is checked after it has been read, and a delimiter from the environment before it
is taken over. So validity, once there, is kept by any number of environments, and one that supplies a
delimiter establishes it.
-/

namespace PatternLoom

set_option autoImplicit false

namespace Text

theorem dropWhile_isBlank {v : Text} (hv : ∀ c ∈ v, Unicode.isBlank c = false) (hne : v ≠ [])
    {front : Text} (hfront : ∀ c ∈ front, Unicode.isBlank c = true) (back : Text) :
    (front ++ (v ++ back)).dropWhile Unicode.isBlank = v ++ back := by
  rw [List.dropWhile_append_of_pos hfront]
  cases v with
  | nil => exact absurd rfl hne
  | cons c v =>
    have hc := hv c List.mem_cons_self
    rw [List.cons_append, List.dropWhile_cons_of_neg (by simp [hc])]

theorem trim_padded {v : Text} (hv : ∀ c ∈ v, Unicode.isBlank c = false) (hne : v ≠ [])
    {front back : Text} (hfront : ∀ c ∈ front, Unicode.isBlank c = true)
    (hback : ∀ c ∈ back, Unicode.isBlank c = true) : trim (front ++ (v ++ back)) = v := by
  have hback' : ∀ c ∈ back.reverse, Unicode.isBlank c = true :=
    fun c hc => hback c (List.mem_reverse.mp hc)
  have hv' : ∀ c ∈ v.reverse, Unicode.isBlank c = false :=
    fun c hc => hv c (List.mem_reverse.mp hc)
  have hrear := dropWhile_isBlank hv' (by simpa using hne) hback' []
  rw [List.append_nil] at hrear
  rw [trim, dropWhile_isBlank hv hne hfront, List.reverse_append, hrear, List.reverse_reverse]

theorem trim_eq_singleton_iff {t : Text} {d : Char} :
    trim t = [d] ↔ Unicode.isBlank d = false ∧ ∃ front back, t = front ++ d :: back ∧
      (∀ c ∈ front, Unicode.isBlank c = true) ∧ ∀ c ∈ back, Unicode.isBlank c = true := by
  constructor
  · intro h
    have hrear := List.reverse_eq_iff.mp h
    have hfront := List.takeWhile_append_dropWhile (p := Unicode.isBlank) (l := t)
    generalize t.dropWhile Unicode.isBlank = u at hrear hfront
    have hsplit := List.takeWhile_append_dropWhile (p := Unicode.isBlank) (l := u.reverse)
    rw [hrear] at hsplit
    have hu : u = d :: (u.reverse.takeWhile Unicode.isBlank).reverse := by
      have hreverse := congrArg List.reverse hsplit
      simpa using hreverse.symm
    refine ⟨?_, t.takeWhile Unicode.isBlank, (u.reverse.takeWhile Unicode.isBlank).reverse, ?_,
      fun c hc => List.mem_takeWhile_imp hc, ?_⟩
    · have hhead := List.head?_dropWhile_not Unicode.isBlank u.reverse
      rw [hrear] at hhead
      simpa using hhead
    · rw [← hu, hfront]
    · intro c hc
      exact List.mem_takeWhile_imp (List.mem_reverse.mp hc)
  · rintro ⟨hd, front, back, rfl, hfront, hback⟩
    have hmiddle : ∀ c ∈ [d], Unicode.isBlank c = false := List.forall_mem_singleton.mpr hd
    exact trim_padded hmiddle (List.cons_ne_nil d []) hfront hback

end Text

namespace Config

/-- The variable of the delimiter is set to a character that can be one, apart from blanks around it. -/
def Supplies (s : Settings) (d : Char) : Prop :=
  isValidDelimiter d = true ∧ ∃ front back, s.get? delimiterName = some (front ++ d :: back) ∧
    (∀ c ∈ front, Unicode.isBlank c = true) ∧ ∀ c ∈ back, Unicode.isBlank c = true

/-- A configuration with the values of several environments, each of them laid over those before. -/
def layered (config : Config) (layers : List Settings) : Config :=
  layers.foldl (fun config s => (config.withSettings s).1) config

theorem isBlank_of_isValidDelimiter {d : Char} (h : isValidDelimiter d = true) :
    Unicode.isBlank d = false := by
  simp only [isValidDelimiter, Bool.not_eq_true', Bool.or_eq_false_iff] at h
  exact h.1.2

theorem validate_eq_ok_iff (config : Config) :
    config.validate = .ok () ↔ isValidDelimiter config.delimiter = true := by
  rw [validate]
  split <;> simp_all

theorem readChar?_eq_some_iff {t : Text} {d : Char} : Settings.readChar? t = some d ↔ t = [d] := by
  unfold Settings.readChar?
  split
  · simp
  · rename_i hne
    exact ⟨nofun, fun h => absurd h (hne d)⟩

theorem fst_readSetting {α : Type} (s : Settings) (name : Text) (read? : Text → Option α) :
    (readSetting s name read?).1 = s.parse? name read? := by
  rw [readSetting]
  cases s.parse? name read? <;> rfl

theorem fst_readDelimiter (s : Settings) :
    (readDelimiter s).1 = (s.parse? delimiterName Settings.readChar?).filter isValidDelimiter := by
  have hread := fst_readSetting s delimiterName Settings.readChar?
  rw [readDelimiter]
  split
  · rename_i d events hsetting
    rw [hsetting] at hread
    rw [← hread, Option.filter_some]
    split <;> rfl
  · rename_i events hsetting
    rw [hsetting] at hread
    rw [← hread]
    rfl

theorem fst_readDelimiter_eq_some_iff {s : Settings} {d : Char} :
    (readDelimiter s).1 = some d ↔ Supplies s d := by
  rw [fst_readDelimiter, Option.filter_eq_some_iff, Settings.parse?, Option.bind_eq_some_iff]
  constructor
  · rintro ⟨⟨value, hvalue, hread⟩, hvalid⟩
    obtain ⟨-, front, back, rfl, hfront, hback⟩ :=
      Text.trim_eq_singleton_iff.mp (readChar?_eq_some_iff.mp hread)
    exact ⟨hvalid, front, back, hvalue, hfront, hback⟩
  · rintro ⟨hvalid, front, back, hvalue, hfront, hback⟩
    refine ⟨⟨_, hvalue, readChar?_eq_some_iff.mpr ?_⟩, hvalid⟩
    apply Text.trim_eq_singleton_iff.mpr
    exact ⟨isBlank_of_isValidDelimiter hvalid, front, back, rfl, hfront, hback⟩

/-- One layer: a delimiter that is supplied is valid, and without one the configuration is as valid as
it was. -/
theorem validate_withSettings_iff (config : Config) (s : Settings) :
    (config.withSettings s).1.validate = .ok () ↔
      config.validate = .ok () ∨ ∃ d, Supplies s d := by
  have hdelimiter : (config.withSettings s).1.delimiter =
      (readDelimiter s).1.getD config.delimiter := rfl
  rw [validate_eq_ok_iff, validate_eq_ok_iff, hdelimiter]
  cases hread : (readDelimiter s).1 with
  | some d =>
    have hd := fst_readDelimiter_eq_some_iff.mp hread
    exact ⟨fun _ => .inr ⟨d, hd⟩, fun _ => hd.1⟩
  | none =>
    rw [Option.getD_none]
    constructor
    · exact .inl
    · rintro (h | ⟨d, hd⟩)
      · exact h
      · rw [fst_readDelimiter_eq_some_iff.mpr hd] at hread
        cases hread

theorem validate_layered {config : Config} (h : config.validate = .ok ()) (layers : List Settings) :
    (config.layered layers).validate = .ok () := by
  induction layers generalizing config with
  | nil => exact h
  | cons s layers ih => exact ih ((config.validate_withSettings_iff s).mpr (.inl h))

theorem validate_default : ({} : Config).validate = .ok () := by decide

theorem parse_eq_ok_iff {format : Format} {t : Text} {config : Config} :
    parse format t = .ok config ↔ read format t = .ok config ∧ config.validate = .ok () := by
  unfold parse
  cases read format t with
  | error err => simp [bind, Except.bind]
  | ok other =>
    cases hvalidate : other.validate with
    | error err =>
      simp only [bind, Except.bind, hvalidate, reduceCtorEq, Except.ok.injEq, false_iff, not_and]
      rintro rfl
      simp [hvalidate]
    | ok u =>
      simp only [bind, Except.bind, hvalidate, pure, Except.pure, Except.ok.injEq]
      constructor
      · rintro rfl
        exact ⟨rfl, hvalidate⟩
      · exact fun h => h.1

theorem exists_fault_of_validate {config : Config} {err : PatternError}
    (h : config.validate = .error err) : ∃ fault, err = .config fault := by
  rw [validate] at h
  split at h
  · cases h
  · cases h
    exact ⟨_, rfl⟩

theorem exists_fault_of_read {format : Format} {t : Text} {err : PatternError}
    (h : read format t = .error err) : ∃ fault, err = .config fault := by
  unfold read at h
  split at h <;> split at h
  all_goals
    cases h
  all_goals
    exact ⟨_, rfl⟩

theorem exists_fault_of_parse {format : Format} {t : Text} {err : PatternError}
    (h : parse format t = .error err) : ∃ fault, err = .config fault := by
  unfold parse at h
  cases hread : read format t with
  | error err' =>
    rw [hread] at h
    cases h
    exact exists_fault_of_read hread
  | ok config =>
    cases hvalidate : config.validate with
    | error err' =>
      simp only [hread, bind, Except.bind, hvalidate] at h
      cases h
      exact exists_fault_of_validate hvalidate
    | ok u =>
      simp only [hread, bind, Except.bind, hvalidate] at h
      cases h

theorem exists_parse_of_load {tree : FileTree} {path : Text} {config : Config}
    (h : load tree path = .ok config) : ∃ format t, parse format t = .ok config := by
  unfold load at h
  split at h
  · cases h
  · rename_i format _
    split at h
    · cases h
    · rename_i t _
      exact ⟨format, t, h⟩

/-- A configuration that is read from a text or a file is valid, and so is every configuration that
starts from one of these, from the defaults or from the environment of the process and goes through
more environments. A text is never refused with an error of another kind. An invalid configuration gets
valid exactly if an environment supplies a delimiter. -/
theorem loaded_valid :
    (∀ format t config, parse format t = .ok config →
      config.validate = .ok () ∧ ∀ layers, (config.layered layers).validate = .ok ()) ∧
    (∀ tree path config, load tree path = .ok config →
      config.validate = .ok () ∧ ∀ layers, (config.layered layers).validate = .ok ()) ∧
    (∀ layers, (({} : Config).layered layers).validate = .ok ()) ∧
    (∀ environment layers, ((ofEnvironment environment).1.layered layers).validate = .ok ()) ∧
    (∀ format t err, parse format t = .error err → ∃ fault, err = .config fault) ∧
    ∀ (config : Config) (s : Settings), config.validate ≠ .ok () →
      ((config.withSettings s).1.validate = .ok () ↔ ∃ d, Supplies s d) := by
  have hparse {format : Format} {t : Text} {config : Config} (h : parse format t = .ok config) :
      config.validate = .ok () ∧ ∀ layers, (config.layered layers).validate = .ok () := by
    have hvalid := (parse_eq_ok_iff.mp h).2
    exact ⟨hvalid, validate_layered hvalid⟩
  refine ⟨fun format t config => hparse, ?_, validate_layered validate_default, ?_,
    fun format t err => exists_fault_of_parse, ?_⟩
  · intro tree path config h
    obtain ⟨format, t, ht⟩ := exists_parse_of_load h
    exact hparse ht
  · intro environment layers
    exact validate_layered validate_default (⟨Settings.defaultScope, [], environment⟩ :: layers)
  · intro config s hinvalid
    rw [validate_withSettings_iff]
    exact ⟨fun h => h.resolve_left hinvalid, .inr⟩

/-- A file with the delimiter `#` under an environment with an unusable one, and a letter for which an
environment supplies a delimiter between blanks. -/
theorem loaded_valid_file :
    let content := "delimiter = '#'".toUTF8
    let path := "engine.toml".toList
    let tree : FileTree := [([path], .file content)]
    let letter : Settings := ⟨[], [(delimiterName, ['a'])], []⟩
    let supplied : Settings := ⟨[], [(delimiterName, [' ', '~', '\u3000'])], [(delimiterName, ['a'])]⟩
    load tree path = .ok { delimiter := '#' } ∧
      (({ delimiter := '#' } : Config).layered [letter, supplied, letter]).validate = .ok () ∧
      (({ delimiter := 'a' } : Config).validate ≠ .ok () ∧
        ((({ delimiter := 'a' } : Config).withSettings supplied).1.validate = .ok () ↔
          ∃ d, Supplies supplied d) ∧ Supplies supplied '~') := by
  intro content path tree letter supplied
  obtain ⟨-, hload, -, -, -, hinvalid⟩ := loaded_valid
  have hfile : load tree path = .ok { delimiter := '#' } := by decide +kernel
  have hletter : ({ delimiter := 'a' } : Config).validate ≠ .ok () := by decide
  refine ⟨hfile, (hload _ _ _ hfile).2 _, hletter, hinvalid _ _ hletter, ?_⟩
  exact fst_readDelimiter_eq_some_iff.mp (by decide)

end Config

end PatternLoom
