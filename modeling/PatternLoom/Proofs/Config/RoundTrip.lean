import PatternLoom.Proofs.Config.Validity
import PatternLoom.Proofs.Json.Reading
import PatternLoom.Proofs.Toml.Reading

/-!
# Written configurations are read back

Both formats keep the three fields, whatever escapes the delimiter takes. Reading undoes writing for
every configuration whose sizes the format can hold, and only then is the delimiter checked: what comes
back is the configuration if its delimiter is valid, and otherwise a complaint about that delimiter.
-/

namespace PatternLoom.Config

set_option autoImplicit false

/-- The keys of a configuration in order, with something for each. -/
def fields {α : Type} (limit size delimiter : α) : List (Text × α) :=
  [(backtrackLimitKey, limit), (cacheSizeKey, size), (delimiterKey, delimiter)]

theorem ofFields?_fields {α : Type} (size? : α → Option Nat) (character? : α → Option Char)
    (limit size delimiter : α) :
    ofFields? size? character? (fields limit size delimiter) =
      (size? limit).bind fun n => (size? size).bind fun m => (character? delimiter).map fun c =>
        { backtrackLimit := n, cacheSize := m, delimiter := c } := by
  have hlimit : field? size? ({} : Config).backtrackLimit backtrackLimitKey
      (fields limit size delimiter) = size? limit := rfl
  have hsize : field? size? ({} : Config).cacheSize cacheSizeKey
      (fields limit size delimiter) = size? size := rfl
  have hdelimiter : field? character? ({} : Config).delimiter delimiterKey
      (fields limit size delimiter) = character? delimiter := rfl
  rw [ofFields?, hlimit, hsize, hdelimiter]
  cases character? delimiter <;> rfl

/-! ## JSON -/

theorem size?_ofNat {n : Nat} (hn : n < Nat.pow 2 64) : (Json.ofNat n).size? = some n := by
  rw [Json.ofNat, Json.size?, Text.toNat?_ofNat]
  exact if_pos hn

theorem character?_reread (c : Char) :
    (Json.string ([c].map JsonUnit.reread)).character? = some c := by
  rw [Json.character?, JsonUnit.text?_map_reread]

theorem read_writeJson {config : Config} (hlimit : config.backtrackLimit < Nat.pow 2 64)
    (hsize : config.cacheSize < Nat.pow 2 64) : read .json config.writeJson = .ok config := by
  have hfields : Json.FieldsReadBack
      (fields (.ofNat config.backtrackLimit) (.ofNat config.cacheSize) (.ofText [config.delimiter]))
      (fields (.ofNat config.backtrackLimit) (.ofNat config.cacheSize)
        (.string ([config.delimiter].map JsonUnit.reread))) :=
    .cons ⟨rfl, .ofNat _⟩ (.cons ⟨rfl, .ofNat _⟩ (.cons ⟨rfl, .ofText _⟩ .nil))
  have hread : Json.read? config.writeJson = _ := Json.read?_write_object hfields nofun
  have hconfig : ofJson? (.object ((fields (.ofNat config.backtrackLimit) (.ofNat config.cacheSize)
      (.string ([config.delimiter].map JsonUnit.reread))).map Json.rereadMember)) = some config := by
    rw [ofJson?, Json.mapM_text?_rereadMember]
    apply (ofFields?_fields _ _ _ _ _).trans
    rw [size?_ofNat hlimit, size?_ofNat hsize, character?_reread]
    rfl
  rw [read, hread, Option.bind_some, hconfig]

/-! ## TOML -/

theorem bare_of_mem_keys {key : Text} (h : key ∈ [backtrackLimitKey, cacheSizeKey, delimiterKey]) :
    Toml.Bare key := by
  simp only [List.mem_cons, List.not_mem_nil, or_false] at h
  rcases h with rfl | rfl | rfl
  all_goals
    exact ⟨nofun, List.all_eq_true.mp rfl⟩

theorem nodup_keys_fields {α : Type} (limit size delimiter : α) :
    ((fields limit size delimiter).map (·.1)).Nodup := by
  have hkeys : [backtrackLimitKey, cacheSizeKey, delimiterKey].Nodup := by decide
  exact hkeys

theorem writeToml?_eq_some {config : Config} (hlimit : config.backtrackLimit < Nat.pow 2 63)
    (hsize : config.cacheSize < Nat.pow 2 63) :
    config.writeToml? = some (Toml.writeLines (fields (Text.ofNat config.backtrackLimit)
      (Text.ofNat config.cacheSize) (Toml.writeChar config.delimiter))) := by
  have hlimit' : Toml.writeSize? config.backtrackLimit = some (Text.ofNat config.backtrackLimit) :=
    if_pos hlimit
  have hsize' : Toml.writeSize? config.cacheSize = some (Text.ofNat config.cacheSize) :=
    if_pos hsize
  rw [writeToml?, hlimit', hsize']
  simp [Toml.writeLines, fields]

theorem read_writeToml {config : Config} {t : Text} (hlimit : config.backtrackLimit < Nat.pow 2 63)
    (hsize : config.cacheSize < Nat.pow 2 63) (ht : config.writeToml? = some t) :
    read .toml t = .ok config := by
  rw [writeToml?_eq_some hlimit hsize] at ht
  cases ht
  have hlines : Toml.LinesReadAs
      (fields (Text.ofNat config.backtrackLimit) (Text.ofNat config.cacheSize)
        (Toml.writeChar config.delimiter))
      (fields (.integer config.backtrackLimit) (.integer config.cacheSize)
        (.text [config.delimiter])) :=
    .cons ⟨rfl, bare_of_mem_keys (by simp), .ofNat hlimit⟩
      (.cons ⟨rfl, bare_of_mem_keys (by simp), .ofNat hsize⟩
        (.cons ⟨rfl, bare_of_mem_keys (by simp), .ofChar _⟩ .nil))
  rw [read, Toml.read?_writeLines hlines (nodup_keys_fields ..), Option.bind_some, ofToml?,
    ofFields?_fields]
  rfl

/-! ## Checking -/

theorem parse_of_read {format : Format} {t : Text} {config : Config}
    (h : read format t = .ok config) : parse format t = config.validate.map fun _ => config := by
  rw [parse, h]
  cases hvalidate : config.validate <;> simp only [bind, Except.bind, hvalidate] <;> rfl

theorem validate_of_ne_ok {config : Config} (h : config.validate ≠ .ok ()) :
    config.validate = .error (.config (.badDelimiter config.delimiter)) := by
  rw [ne_eq, validate_eq_ok_iff] at h
  exact if_neg h

/-- A configuration is read back from its JSON text, and from its TOML text if there is one, provided
that the delimiter is valid. With any other delimiter both texts are refused on account of it. -/
theorem written_read_back (config : Config) (hlimit : config.backtrackLimit < Nat.pow 2 64)
    (hsize : config.cacheSize < Nat.pow 2 64) :
    (config.validate = .ok () → parse .json config.writeJson = .ok config) ∧
    (config.validate ≠ .ok () → parse .json config.writeJson =
      .error (.config (.badDelimiter config.delimiter))) ∧
    (config.backtrackLimit < Nat.pow 2 63 → config.cacheSize < Nat.pow 2 63 →
      ∃ t, config.writeToml? = some t ∧
        (config.validate = .ok () → parse .toml t = .ok config) ∧
        (config.validate ≠ .ok () → parse .toml t =
          .error (.config (.badDelimiter config.delimiter)))) := by
  have hchecked {format : Format} {t : Text} (h : read format t = .ok config) :
      (config.validate = .ok () → parse format t = .ok config) ∧
        (config.validate ≠ .ok () → parse format t =
          .error (.config (.badDelimiter config.delimiter))) := by
    rw [parse_of_read h]
    constructor
    · intro hvalid
      rw [hvalid]
      rfl
    · intro hinvalid
      rw [validate_of_ne_ok hinvalid]
      rfl
  obtain ⟨hvalid, hinvalid⟩ := hchecked (read_writeJson hlimit hsize)
  refine ⟨hvalid, hinvalid, fun hlimit' hsize' => ?_⟩
  have ht := writeToml?_eq_some hlimit' hsize'
  exact ⟨_, ht, hchecked (read_writeToml hlimit' hsize' ht)⟩

/-- A control character as the delimiter beside the largest size of JSON, a quote beside the largest
size of TOML, and a letter, which both formats refuse. -/
theorem written_read_back_control :
    let control : Config := ⟨Nat.pow 2 64 - 1, 0, '\x1b'⟩
    let quote : Config := ⟨Nat.pow 2 63 - 1, 7, '"'⟩
    let letter : Config := ⟨0, 0, 'a'⟩
    (control.backtrackLimit < Nat.pow 2 64 ∧ control.cacheSize < Nat.pow 2 64 ∧
      parse .json control.writeJson = .ok control) ∧
    (∃ t, quote.writeToml? = some t ∧ parse .toml t = .ok quote) ∧
    parse .json letter.writeJson = .error (.config (.badDelimiter 'a')) ∧
    ∃ t, letter.writeToml? = some t ∧ parse .toml t = .error (.config (.badDelimiter 'a')) := by
  intro control quote letter
  have hletter : letter.validate ≠ .ok () := by decide
  obtain ⟨hcontrol, -, -⟩ := written_read_back control (by decide) (by decide)
  obtain ⟨-, -, hquote⟩ := written_read_back quote (by decide) (by decide)
  obtain ⟨-, hjson, htoml⟩ := written_read_back letter (by decide) (by decide)
  refine ⟨⟨by decide, by decide, hcontrol (by decide)⟩, ?_, hjson hletter, ?_⟩
  · obtain ⟨t, ht, hread, -⟩ := hquote (by decide) (by decide)
    exact ⟨t, ht, hread (by decide)⟩
  · obtain ⟨t, ht, -, hread⟩ := htoml (by decide) (by decide)
    exact ⟨t, ht, hread hletter⟩

end PatternLoom.Config
