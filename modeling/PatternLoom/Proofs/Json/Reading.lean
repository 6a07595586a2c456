import Mathlib.Data.List.Forall2
import PatternLoom.Json.Reader
import PatternLoom.Json.Writer
import PatternLoom.Proofs.Text.Decimal
import PatternLoom.Proofs.Text.Hexadecimal

/-!
# JSON is read back

A string that is written from a text spells the text again, a number keeps its numeral, and an object
of values that are read back is read back member by member.
-/

namespace PatternLoom

set_option autoImplicit false

namespace JsonUnit

/-- The unit that a written character is read back as. A control character without a short escape is
written, and so read, as its code. -/
def reread (c : Char) : JsonUnit :=
  if c.toNat < 0x20 ∧ c ∉ ['\x08', '\x0c', '\n', '\r', '\t'] then .code c.toNat else .plain c

theorem text?_plain_cons (c : Char) (units : List JsonUnit) :
    text? (.plain c :: units) = (text? units).map (c :: ·) := rfl

/-- A unit below the surrogates spells one character, whatever follows it. -/
theorem text?_code_cons {unit : Nat} (h : unit < 0xD800) (units : List JsonUnit) :
    text? (.code unit :: units) = (text? units).map (Char.ofNat unit :: ·) := by
  have hhigh : isHigh unit = false := by
    simp [isHigh]
    omega
  have hlow : isLow unit = false := by
    simp [isLow]
    omega
  rcases units with _ | ⟨_ | _, units⟩ <;> simp [text?, hhigh, hlow]

theorem text?_map_reread (t : Text) : text? (t.map reread) = some t := by
  induction t with
  | nil => rfl
  | cons c t ih =>
    rw [List.map_cons, reread]
    split
    · rename_i hc
      rw [text?_code_cons (by omega), ih, Option.map_some, Char.ofNat_toNat]
    · rw [text?_plain_cons, ih, Option.map_some]

theorem readUnits?_shortEscape {e c : Char} (h : Json.shortEscape? e = some c) (rest : Text) :
    Json.readUnits? ('\\' :: e :: rest) =
      (Json.readUnits? rest).map fun (units, rest) => (.plain c :: units, rest) := by
  have he : e ≠ 'u' := by
    rintro rfl
    cases h
  conv =>
    lhs
    unfold Json.readUnits?
  cases hrest : Json.readUnits? rest <;> simp_all

theorem readUnits?_code {unit : Nat} (h : unit < 0x10000) (rest : Text) :
    Json.readUnits? ((JsonUnit.code unit).write ++ rest) =
      (Json.readUnits? rest).map fun (units, rest) => (.code unit :: units, rest) := by
  have hunit := Text.hexNumber?_hexQuad h
  rw [Text.hexQuad] at hunit
  rw [write, Text.hexQuad, List.append_assoc]
  simp only [List.cons_append, List.nil_append]
  rw [Json.readUnits?, hunit]
  cases Json.readUnits? rest <;> rfl

theorem readUnits?_plain {c : Char} (hquote : c ≠ '"') (hslash : c ≠ '\\') (hcontrol : 0x20 ≤ c.toNat)
    (rest : Text) :
    Json.readUnits? (c :: rest) =
      (Json.readUnits? rest).map fun (units, rest) => (.plain c :: units, rest) := by
  have hallowed : ¬(c = '\\' ∨ c.toNat < 0x20) := by
    rintro (h | h)
    · exact hslash h
    · omega
  rw [Json.readUnits?, if_neg hallowed]
  all_goals
    simp_all

theorem readUnits?_write (c : Char) (rest : Text) :
    Json.readUnits? ((JsonUnit.plain c).write ++ rest) =
      (Json.readUnits? rest).map fun (units, rest) => (reread c :: units, rest) := by
  unfold write
  split
  case h_8 d hquote hslash hback hfeed hline hreturn htab hd =>
    cases hd
    split
    · rename_i hcontrol
      have hreread : reread c = .code c.toNat := if_pos ⟨hcontrol, by simp_all⟩
      rw [hreread]
      exact readUnits?_code (by omega) rest
    · rename_i hcontrol
      have hreread : reread c = .plain c := if_neg fun h => hcontrol h.1
      rw [hreread]
      exact readUnits?_plain hquote hslash (by omega) rest
  case h_9 hd => cases hd
  all_goals
    rename_i hd
    cases hd
    exact readUnits?_shortEscape (by rfl) rest

end JsonUnit

namespace Json

theorem readUnits?_flatMap_write (t rest : Text) :
    readUnits? ((t.map .plain).flatMap JsonUnit.write ++ '"' :: rest) =
      some (t.map JsonUnit.reread, rest) := by
  induction t with
  | nil => rw [List.map_nil, List.flatMap_nil, List.nil_append, readUnits?, List.map_nil]
  | cons c t ih =>
    rw [List.map_cons, List.flatMap_cons, List.append_assoc, JsonUnit.readUnits?_write, ih,
      Option.map_some, List.map_cons]

/-! ## Numerals -/

section

variable {c : Char} (hdigit : c.isDigit = false)

include hdigit

theorem readDigits?_ofNat_append (n : Nat) (rest : Text) :
    readDigits? (Text.ofNat n ++ c :: rest) = some (Text.ofNat n, c :: rest) := by
  rw [readDigits?, Text.takeWhile_ofNat_append n hdigit, Text.dropWhile_ofNat_append n hdigit]
  split
  · rename_i hnil
    exact absurd hnil (Text.ofNat_ne_nil n)
  · rfl

theorem readInteger?_ofNat_append (n : Nat) (rest : Text) :
    readInteger? (Text.ofNat n ++ c :: rest) = some (Text.ofNat n, c :: rest) := by
  unfold readInteger?
  split
  · rename_i hzero
    obtain ⟨hn, rfl⟩ := Text.eq_of_ofNat_append_eq_zero_cons hzero
    rw [hn]
  · exact readDigits?_ofNat_append hdigit n rest

/-- A plain numeral is read up to a character that cannot go on with it. -/
theorem readNumeral?_ofNat_append (hpoint : c ≠ '.') (he : c ≠ 'e') (hE : c ≠ 'E') (n : Nat)
    (rest : Text) :
    readNumeral? (Text.ofNat n ++ c :: rest) = some (Text.ofNat n, c :: rest) := by
  have hwhole := readInteger?_ofNat_append hdigit n rest
  have hfraction : readFraction? (c :: rest) = some ([], c :: rest) := by
    unfold readFraction?
    split
    · rename_i hc
      exact absurd (List.cons.inj hc).1 hpoint
    · rfl
  have hexponent : readExponent? (c :: rest) = some ([], c :: rest) := by
    unfold readExponent?
    exact if_neg (by simp [he, hE])
  unfold readNumeral?
  split
  rename_i sign t hsign
  split at hsign
  · rename_i hminus
    obtain ⟨d, s, hs, hd⟩ := Text.exists_digit_cons n
    rw [hs, List.cons_append] at hminus
    exact absurd (List.cons.inj hminus).1 (Text.ne_of_isDigit hd rfl)
  · cases hsign
    simp [hwhole, hfraction, hexponent]

end

/-! ## Values -/

theorem skipBlanks_cons {c : Char} (h : isBlank c = false) (rest : Text) :
    skipBlanks (c :: rest) = c :: rest := by
  rw [skipBlanks, List.dropWhile_cons_of_neg (by simp [h])]

theorem isBlank_of_isDigit {c : Char} (h : c.isDigit = true) : isBlank c = false := by
  have hspace : c ≠ ' ' := Text.ne_of_isDigit h rfl
  have hline : c ≠ '\n' := Text.ne_of_isDigit h rfl
  have htab : c ≠ '\t' := Text.ne_of_isDigit h rfl
  have hreturn : c ≠ '\r' := Text.ne_of_isDigit h rfl
  simp [isBlank, hspace, hline, htab, hreturn]

theorem readValue?_quote (bound : Nat) (rest : Text) :
    readValue? (bound + 1) ('"' :: rest) =
      (readUnits? rest).map fun (units, rest) => (.string units, rest) := by
  rw [readValue?, skipBlanks_cons rfl]
  rfl

theorem readValue?_digit {d : Char} (hd : d.isDigit = true) (bound : Nat) (rest : Text) :
    readValue? (bound + 1) (d :: rest) =
      (readNumeral? (d :: rest)).map fun (numeral, rest) => (.number numeral, rest) := by
  rw [readValue?, skipBlanks_cons (isBlank_of_isDigit hd)]
  split
  case h_7 => rfl
  all_goals
    rename_i heq
    exact absurd (List.cons.inj heq).1 (Text.ne_of_isDigit hd rfl)

/-- The value that a written value is read back as, inside of an object. -/
def ReadsBack (v w : Json) : Prop :=
  ∀ (bound : Nat) (mark : Char) (rest : Text), mark = ',' ∨ mark = '\x7d' →
    readValue? (bound + 1) (write v ++ mark :: rest) = some (w, mark :: rest)

theorem ReadsBack.ofText (t : Text) : ReadsBack (.ofText t) (.string (t.map JsonUnit.reread)) := by
  intro bound mark rest hmark
  rw [Json.ofText, write, writeUnits]
  simp only [List.cons_append, List.nil_append, List.append_assoc]
  rw [readValue?_quote, readUnits?_flatMap_write, Option.map_some]

theorem ReadsBack.ofNat (n : Nat) : ReadsBack (.ofNat n) (.ofNat n) := by
  intro bound mark rest hmark
  have hnumeral : readNumeral? (Text.ofNat n ++ mark :: rest) = some (Text.ofNat n, mark :: rest) := by
    rcases hmark with rfl | rfl <;>
      exact readNumeral?_ofNat_append rfl (by decide) (by decide) (by decide) n rest
  obtain ⟨d, t, ht, hd⟩ := Text.exists_digit_cons n
  rw [Json.ofNat, write]
  rw [ht, List.cons_append] at hnumeral ⊢
  rw [readValue?_digit hd, hnumeral, Option.map_some]

/-! ## Objects -/

def plainMember (field : Text × Json) : List JsonUnit × Json := (field.1.map .plain, field.2)

def rereadMember (field : Text × Json) : List JsonUnit × Json :=
  (field.1.map JsonUnit.reread, field.2)

/-- Fields and what they are read back as. -/
abbrev FieldsReadBack (fields fields' : List (Text × Json)) : Prop :=
  List.Forall₂ (fun f g => f.1 = g.1 ∧ ReadsBack f.2 g.2) fields fields'

section

variable {v w : Json} (h : ReadsBack v w) (key : Text) (bound : Nat) (rest : Text)

include h

theorem readMembers?_last :
    readMembers? (bound + 2)
        (writeUnits (key.map .plain) ++ [':'] ++ write v ++ '\x7d' :: rest) =
      some ([rereadMember (key, w)], rest) := by
  have hvalue := h bound '\x7d' rest (.inr rfl)
  simp only [readMembers?, writeUnits, List.cons_append, List.nil_append, List.append_assoc,
    skipBlanks_cons (c := '"') rfl, skipBlanks_cons (c := ':') rfl, readUnits?_flatMap_write, hvalue,
    skipBlanks_cons (c := '\x7d') rfl]
  rfl

theorem readMembers?_next :
    readMembers? (bound + 2)
        (writeUnits (key.map .plain) ++ [':'] ++ write v ++ ',' :: rest) =
      (readMembers? (bound + 1) rest).map fun (members, rest) =>
        (rereadMember (key, w) :: members, rest) := by
  have hvalue := h bound ',' rest (.inl rfl)
  simp only [readMembers?, writeUnits, List.cons_append, List.nil_append, List.append_assoc,
    skipBlanks_cons (c := '"') rfl, skipBlanks_cons (c := ':') rfl, readUnits?_flatMap_write, hvalue,
    skipBlanks_cons (c := ',') rfl]
  rfl

end

theorem readMembers?_write {fields fields' : List (Text × Json)} (h : FieldsReadBack fields fields')
    (hne : fields ≠ []) {bound : Nat} (hbound : fields.length < bound) (rest : Text) :
    readMembers? bound (writeMembers (fields.map plainMember) ++ '\x7d' :: rest) =
      some (fields'.map rereadMember, rest) := by
  induction h generalizing bound with
  | nil => exact absurd rfl hne
  | @cons f g fields fields' hfg htail ih =>
    obtain ⟨key, v⟩ := f
    obtain ⟨key', w⟩ := g
    obtain ⟨rfl, hvalue⟩ := hfg
    obtain ⟨bound, rfl⟩ : ∃ b, bound = b + 2 := ⟨bound - 2, by simp at hbound; omega⟩
    cases htail with
    | nil => exact readMembers?_last hvalue key bound rest
    | @cons f g fields fields' hfg htail =>
      have hrest := ih (List.cons_ne_nil f fields) (Nat.lt_of_succ_lt_succ hbound)
      have hsplit : writeMembers (((key, v) :: f :: fields).map plainMember) ++ '\x7d' :: rest =
          writeUnits (key.map .plain) ++ [':'] ++ write v ++
            ',' :: (writeMembers ((f :: fields).map plainMember) ++ '\x7d' :: rest) := by
        simp [writeMembers, plainMember]
      rw [hsplit, readMembers?_next hvalue, hrest, Option.map_some]
      rfl

theorem length_le_length_writeMembers (members : List (List JsonUnit × Json)) :
    members.length ≤ (writeMembers members).length := by
  induction members with
  | nil => exact Nat.zero_le _
  | cons member members ih =>
    cases members with
    | nil => simp [writeMembers, writeUnits]
    | cons next members =>
      simp only [List.length_cons, writeMembers, writeUnits, List.length_append] at ih ⊢
      omega

theorem exists_writeMembers_eq_cons {members : List (List JsonUnit × Json)} (hne : members ≠ []) :
    ∃ t, writeMembers members = '"' :: t := by
  cases members with
  | nil => exact absurd rfl hne
  | cons member members =>
    cases members with
    | nil => exact ⟨_, rfl⟩
    | cons next members => exact ⟨_, rfl⟩

theorem readValue?_brace (bound : Nat) (rest : Text) :
    readValue? (bound + 1) ('\x7b' :: '"' :: rest) =
      (readMembers? bound ('"' :: rest)).map fun (members, rest) => (.object members, rest) := by
  rw [readValue?, skipBlanks_cons rfl]
  rfl

/-- An object is read back from its text, with its fields in order. -/
theorem read?_write_object {fields fields' : List (Text × Json)} (h : FieldsReadBack fields fields')
    (hne : fields ≠ []) :
    read? (write (.object (fields.map plainMember))) = some (.object (fields'.map rereadMember)) := by
  have hlength := length_le_length_writeMembers (fields.map plainMember)
  rw [List.length_map] at hlength
  obtain ⟨t, ht⟩ := exists_writeMembers_eq_cons (mt List.map_eq_nil_iff.mp hne)
  have hbound : fields.length < 2 * ('\x7b' :: '"' :: (t ++ ['\x7d'])).length + 1 := by
    rw [ht] at hlength
    simp only [List.length_cons, List.length_append, List.length_nil] at hlength ⊢
    omega
  have hmembers := readMembers?_write h hne hbound []
  rw [ht, List.cons_append] at hmembers
  have htext : write (.object (fields.map plainMember)) = '\x7b' :: '"' :: (t ++ ['\x7d']) := by
    rw [write, ht]
    rfl
  rw [read?, htext, readValue?_brace, hmembers]
  rfl

/-- The keys of the members are texts again. -/
theorem mapM_text?_rereadMember (fields : List (Text × Json)) :
    ((fields.map rereadMember).mapM fun (key, value) => (JsonUnit.text? key).map (·, value)) =
      some fields := by
  induction fields with
  | nil => rfl
  | cons f fields ih =>
    rw [List.map_cons, List.mapM_cons, ih]
    simp [rereadMember, JsonUnit.text?_map_reread]

end Json

end PatternLoom
