import PatternLoom.Proofs.Config.Validity

/-!
# Variables and warnings

A variable has the value of the last override of its name, in whatever case the name was given, or else
that of the environment. Each field follows its own variable, and a variable that is set in vain is the
subject of one warning.
-/

namespace PatternLoom

set_option autoImplicit false

/-- Overrides in the order in which they are made, on top of the environment of a process. -/
structure Layers where
  scope : Text
  overrides : List (Text × Text)
  environment : Environment

namespace Layers

/-- The reader of variables after all overrides. -/
def settings (l : Layers) : Settings :=
  l.overrides.foldl (fun s o => s.override o.1 o.2) ⟨l.scope, [], l.environment⟩

def fullName (scope name : Text) : Text := if scope = [] then name else scope ++ '_' :: name

/-- The value of a variable: that of the last override whose name is the variable's in upper case, else
that of the environment. -/
def value? (l : Layers) (name : Text) : Option Text :=
  match l.overrides.reverse.find? fun o => Settings.upper o.1 == name with
  | some o => some o.2
  | none => l.environment.lookup (fullName l.scope name)

theorem variableName_eq (s : Settings) (name : Text) :
    s.variableName name = fullName s.scope (Settings.upper name) := by
  rw [Settings.variableName, fullName]
  cases s.scope <;> simp

theorem fullName_inj {scope name name' : Text} :
    fullName scope name = fullName scope name' ↔ name = name' := by
  rw [fullName, fullName]
  split <;> simp

theorem foldl_override (overrides : List (Text × Text)) (s : Settings) :
    overrides.foldl (fun s o => s.override o.1 o.2) s =
      { s with overrides :=
          overrides.reverse.map (fun o => (fullName s.scope (Settings.upper o.1), o.2)) ++
            s.overrides } := by
  induction overrides generalizing s with
  | nil => rfl
  | cons o overrides ih =>
    rw [List.foldl_cons, ih, Settings.override, variableName_eq]
    simp

theorem lookup_map_fullName (scope name : Text) (overrides : List (Text × Text)) :
    (overrides.map fun o => (fullName scope (Settings.upper o.1), o.2)).lookup (fullName scope name) =
      (overrides.find? fun o => Settings.upper o.1 == name).map (·.2) := by
  induction overrides with
  | nil => rfl
  | cons o overrides ih =>
    rw [List.map_cons, List.lookup_cons, List.find?_cons, ih]
    by_cases heq : Settings.upper o.1 = name
    · simp [heq]
    · have hne : (fullName scope name == fullName scope (Settings.upper o.1)) = false := by
        rw [beq_eq_false_iff_ne, ne_eq, fullName_inj]
        exact fun h => heq h.symm
      simp [hne, beq_eq_false_iff_ne.mpr heq]

theorem get?_settings (l : Layers) (name : Text) :
    l.settings.get? name = l.value? (Settings.upper name) := by
  rw [settings, foldl_override, Settings.get?]
  simp only [variableName_eq, List.append_nil, lookup_map_fullName]
  rw [value?]
  cases l.overrides.reverse.find? fun o => Settings.upper o.1 == Settings.upper name <;> rfl

end Layers

namespace Config

inductive Variable where
  | backtrackLimit
  | cacheSize
  | delimiter
deriving DecidableEq

def sizeOf? (value : Text) : Option Nat := Settings.readSize? (Text.trim value)

def delimiterOf? (value : Text) : Option Char :=
  (Settings.readChar? (Text.trim value)).filter isValidDelimiter

namespace Variable

def name : Variable → Text
  | .backtrackLimit => backtrackLimitName
  | .cacheSize => cacheSizeName
  | .delimiter => delimiterName

/-- The value stands for something that the field can be set to. -/
def applies : Variable → Text → Bool
  | .backtrackLimit, value | .cacheSize, value => (sizeOf? value).isSome
  | .delimiter, value => (delimiterOf? value).isSome

/-- The variable is set, but its field is not set to it. -/
def isDropped (v : Variable) (value : Option Text) : Bool := value.any fun value => !v.applies value

theorem upper_name (v : Variable) : Settings.upper v.name = v.name := by
  cases v <;> decide +kernel

theorem name_inj {v v' : Variable} : v.name = v'.name ↔ v = v' := by
  constructor
  · intro h
    cases v <;> cases v' <;> first | rfl | exact absurd h (by decide)
  · exact congrArg name

end Variable

end Config

/-- The event is a warning that names a variable. -/
def Event.warnsOf (full : Text) (e : Event) : Bool :=
  e.level == .warn && e.fields.lookup "var" == some (String.ofList full)

theorem Event.warnsOf_warning (full other : Text) (message : String)
    (fields : List (String × String)) :
    warnsOf other ⟨.warn, message, ("var", String.ofList full) :: fields⟩ = decide (other = full) := by
  simp [warnsOf, eq_comm, Bool.beq_eq_decide_eq, String.ofList_inj]

namespace Config

open Layers (fullName)

/-- The events are a single warning that names one variable and no other, if that is dropped, and none
otherwise. -/
inductive Reports (full : Text) : Bool → List Event → Prop where
  | warning {e : Event} (h : ∀ other, e.warnsOf other = decide (other = full)) : Reports full true [e]
  | silence : Reports full false []

namespace Reports

variable {full : Text} {dropped : Bool} {events : List Event}

theorem countP (h : Reports full dropped events) (other : Text) :
    events.countP (Event.warnsOf other) = if dropped = true ∧ other = full then 1 else 0 := by
  cases h with
  | warning h => simp [List.countP_cons, h]
  | silence => rfl

theorem eq_nil (h : Reports full false events) : events = [] := by
  cases h
  rfl

theorem of_mem (h : Reports full dropped events) {e : Event} (he : e ∈ events) :
    dropped = true ∧ e.warnsOf full = true := by
  cases h with
  | warning h =>
    obtain rfl := List.mem_singleton.mp he
    exact ⟨rfl, by rw [h, decide_eq_true rfl]⟩
  | silence => cases he

end Reports

theorem reports_readSetting {α : Type} (s : Settings) (name : Text) (read? : Text → Option α) :
    Reports (s.variableName name)
      ((s.get? name).any fun value => (read? (Text.trim value)).isNone)
      (readSetting s name read?).2 := by
  rw [readSetting, Settings.parse?, Settings.isSet]
  cases hvalue : s.get? name with
  | none => exact .silence
  | some value =>
    cases hread : read? (Text.trim value) with
    | none =>
      have hwarning : Reports (s.variableName name) true [unparsable s name] :=
        .warning fun other => Event.warnsOf_warning _ _ _ _
      simpa [hread] using hwarning
    | some a => simpa [hread] using Reports.silence

/-- A character that is no delimiter is reported as well as a text that is no character. -/
theorem reports_readDelimiter (s : Settings) :
    Reports (s.variableName delimiterName)
      ((s.get? delimiterName).any fun value => (delimiterOf? value).isNone) (readDelimiter s).2 := by
  rw [readDelimiter, readSetting, Settings.parse?, Settings.isSet]
  cases hvalue : s.get? delimiterName with
  | none => exact .silence
  | some value =>
    cases hread : Settings.readChar? (Text.trim value) with
    | none =>
      have hwarning : Reports (s.variableName delimiterName) true [unparsable s delimiterName] :=
        .warning fun other => Event.warnsOf_warning _ _ _ _
      simpa [delimiterOf?, hread] using hwarning
    | some d =>
      cases hvalid : isValidDelimiter d with
      | true => simpa [delimiterOf?, hread, hvalid] using Reports.silence
      | false =>
        have hwarning : Reports (s.variableName delimiterName) true
            [⟨.warn, "ignoring invalid delimiter",
              [("var", String.ofList (s.variableName delimiterName)), ("delimiter", d.toString)]⟩] :=
          .warning fun other => Event.warnsOf_warning _ _ _ _
        simpa [delimiterOf?, hread, hvalid] using hwarning

def eventsOf (s : Settings) : Variable → List Event
  | .backtrackLimit => (readSetting s backtrackLimitName Settings.readSize?).2
  | .cacheSize => (readSetting s cacheSizeName Settings.readSize?).2
  | .delimiter => (readDelimiter s).2

theorem snd_withSettings (base : Config) (s : Settings) :
    (base.withSettings s).2 =
      eventsOf s .backtrackLimit ++ eventsOf s .cacheSize ++ eventsOf s .delimiter := rfl

theorem get?_name (l : Layers) (v : Variable) : l.settings.get? v.name = l.value? v.name := by
  rw [Layers.get?_settings, v.upper_name]

theorem fst_withSettings (base : Config) (l : Layers) :
    (base.withSettings l.settings).1 =
      { backtrackLimit := ((l.value? backtrackLimitName).bind sizeOf?).getD base.backtrackLimit
        cacheSize := ((l.value? cacheSizeName).bind sizeOf?).getD base.cacheSize
        delimiter := ((l.value? delimiterName).bind delimiterOf?).getD base.delimiter } := by
  have hlimit : l.settings.get? backtrackLimitName = l.value? backtrackLimitName :=
    get?_name l .backtrackLimit
  have hsize : l.settings.get? cacheSizeName = l.value? cacheSizeName := get?_name l .cacheSize
  have hdelimiter : l.settings.get? delimiterName = l.value? delimiterName := get?_name l .delimiter
  have hchar : (readDelimiter l.settings).1 = (l.settings.get? delimiterName).bind delimiterOf? := by
    rw [fst_readDelimiter, Settings.parse?]
    cases l.settings.get? delimiterName <;> rfl
  have hread (name : Text) : (readSetting l.settings name Settings.readSize?).1 =
      (l.settings.get? name).bind sizeOf? := fst_readSetting _ _ _
  rw [← hlimit, ← hsize, ← hdelimiter, ← hchar, ← hread, ← hread]
  rfl

theorem reports_eventsOf (l : Layers) (v : Variable) :
    Reports (fullName l.scope v.name) (v.isDropped (l.value? v.name)) (eventsOf l.settings v) := by
  have hname : l.settings.variableName v.name = fullName l.scope v.name := by
    rw [Layers.variableName_eq, v.upper_name, Layers.settings, Layers.foldl_override]
  have hnone {α : Type} (a : Option α) : (!a.isSome) = a.isNone := by cases a <;> rfl
  rw [← hname, ← get?_name, Variable.isDropped]
  cases v with
  | backtrackLimit | cacheSize =>
    simp only [Variable.applies, hnone]
    exact reports_readSetting _ _ _
  | delimiter =>
    simp only [Variable.applies, hnone]
    exact reports_readDelimiter _

theorem countP_withSettings (base : Config) (l : Layers) (v : Variable) :
    (base.withSettings l.settings).2.countP (Event.warnsOf (fullName l.scope v.name)) =
      if v.isDropped (l.value? v.name) then 1 else 0 := by
  have hcount (v' : Variable) :
      (eventsOf l.settings v').countP (Event.warnsOf (fullName l.scope v.name)) =
        if v'.isDropped (l.value? v'.name) = true ∧ v = v' then 1 else 0 := by
    rw [(reports_eventsOf l v').countP]
    simp only [Layers.fullName_inj, Variable.name_inj]
  rw [snd_withSettings, List.countP_append, List.countP_append, hcount, hcount, hcount]
  cases v <;> simp

theorem exists_of_mem_withSettings (base : Config) (l : Layers) {e : Event}
    (he : e ∈ (base.withSettings l.settings).2) :
    ∃ v : Variable, v.isDropped (l.value? v.name) = true ∧
      e.warnsOf (fullName l.scope v.name) = true := by
  have hof {v : Variable} (h : e ∈ eventsOf l.settings v) := (reports_eventsOf l v).of_mem h
  rw [snd_withSettings, List.mem_append, List.mem_append] at he
  rcases he with (he | he) | he
  · exact ⟨_, hof he⟩
  · exact ⟨_, hof he⟩
  · exact ⟨_, hof he⟩

/-- Every field is set to what its variable stands for, or keeps its value if that stands for nothing,
so it depends on nothing else. Every variable that is set and not applied is named by exactly one
warning, and there are no other events. -/
theorem variables_applied (base : Config) (l : Layers) :
    let result := base.withSettings l.settings
    (result.1.backtrackLimit =
        ((l.value? backtrackLimitName).bind sizeOf?).getD base.backtrackLimit ∧
      result.1.cacheSize = ((l.value? cacheSizeName).bind sizeOf?).getD base.cacheSize ∧
      result.1.delimiter = ((l.value? delimiterName).bind delimiterOf?).getD base.delimiter) ∧
    (∀ v : Variable, result.2.countP (Event.warnsOf (fullName l.scope v.name)) =
      if v.isDropped (l.value? v.name) then 1 else 0) ∧
    (∀ e ∈ result.2, ∃ v : Variable, v.isDropped (l.value? v.name) = true ∧
      e.warnsOf (fullName l.scope v.name) = true) ∧
    ∀ (base' : Config) (l' : Layers),
      let result' := base'.withSettings l'.settings
      (l.value? backtrackLimitName = l'.value? backtrackLimitName →
        base.backtrackLimit = base'.backtrackLimit →
        result.1.backtrackLimit = result'.1.backtrackLimit) ∧
      (l.value? cacheSizeName = l'.value? cacheSizeName → base.cacheSize = base'.cacheSize →
        result.1.cacheSize = result'.1.cacheSize) ∧
      (l.value? delimiterName = l'.value? delimiterName → base.delimiter = base'.delimiter →
        result.1.delimiter = result'.1.delimiter) := by
  intro result
  refine ⟨?_, countP_withSettings base l, fun e => exists_of_mem_withSettings base l, ?_⟩
  · simp only [result, fst_withSettings, and_self]
  · intro base' l' result'
    simp only [result, result', fst_withSettings]
    refine ⟨?_, ?_, ?_⟩
    · intro hvalue hbase
      rw [hvalue, hbase]
    · intro hvalue hbase
      rw [hvalue, hbase]
    · intro hvalue hbase
      rw [hvalue, hbase]

/-- The last override counts, in whatever case its name is given. A size that is out of range and a
letter in place of a delimiter are reported. A size between blanks is applied, like the same one under
another scope. -/
theorem variables_applied_overridden :
    let base : Config := { backtrackLimit := 7 }
    let l : Layers :=
      ⟨['P'], [("cache_size".toList, ['1']),
        ("backtrack_limit".toList, "18446744073709551616".toList),
        ("Cache_Size".toList, [' ', '+', '5', '\u3000'])], [("P_DELIMITER".toList, ['e'])]⟩
    let l' : Layers := ⟨[], [("CACHE_SIZE".toList, [' ', '+', '5', '\u3000'])], []⟩
    let result := base.withSettings l.settings
    (result.1.backtrackLimit = 7 ∧ result.1.cacheSize = 5 ∧ result.1.delimiter = '/') ∧
      (∀ v : Variable, result.2.countP (Event.warnsOf (fullName ['P'] v.name)) =
        if v = .cacheSize then 0 else 1) ∧
      (∃ e ∈ result.2, ∃ v : Variable, e.warnsOf (fullName ['P'] v.name) = true) ∧
      l.value? cacheSizeName = l'.value? cacheSizeName ∧
      result.1.cacheSize = (({} : Config).withSettings l'.settings).1.cacheSize := by
  intro base l l' result
  obtain ⟨⟨hlimit, hsize, hdelimiter⟩, hcount, hevent, hother⟩ := variables_applied base l
  have hcounts (v : Variable) : result.2.countP (Event.warnsOf (fullName ['P'] v.name)) =
      if v = .cacheSize then 0 else 1 := by
    rw [hcount v]
    cases v <;> decide +kernel
  have hvalue : l.value? cacheSizeName = l'.value? cacheSizeName := by decide +kernel
  refine ⟨⟨?_, ?_, ?_⟩, hcounts, ?_, hvalue, (hother {} l').2.1 hvalue rfl⟩
  · rw [hlimit]
    decide +kernel
  · rw [hsize]
    decide +kernel
  · rw [hdelimiter]
    decide +kernel
  · have hpos : 0 < result.2.countP (Event.warnsOf (fullName ['P'] Variable.delimiter.name)) := by
      rw [hcounts]
      exact Nat.one_pos
    obtain ⟨e, he, -⟩ := List.countP_pos_iff.mp hpos
    obtain ⟨v, -, hv⟩ := hevent e he
    exact ⟨e, he, v, hv⟩

end Config

end PatternLoom
