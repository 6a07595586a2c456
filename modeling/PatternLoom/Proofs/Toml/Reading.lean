import Mathlib.Data.List.Forall2
import PatternLoom.Proofs.Text.Decimal
import PatternLoom.Proofs.Text.Hexadecimal
import PatternLoom.Toml.Reader
import PatternLoom.Toml.Writer

/-!
# TOML is read back

A character and an integer are read back from their lines, and lines with different keys make a
document that has these keys in order.
-/

namespace PatternLoom.Toml

set_option autoImplicit false

/-! ## Strings -/

theorem readEscape?_hexQuad {c : Char} (hc : c.toNat < 0x10000) (rest : Text) :
    readEscape? ('u' :: ((Text.hexQuad c.toNat).map Char.toUpper ++ rest)) = some (c, rest) := by
  have htake : Text.takeHex? 4 ((Text.hexQuad c.toNat).map Char.toUpper ++ rest) =
      some (c.toNat, rest) := by
    have happend := Text.takeHex?_append ((Text.hexQuad c.toNat).map Char.toUpper) rest
    rw [Text.hexNumber?_map_hexQuad Text.hexValue?_toUpper_hexDigit hc] at happend
    exact happend
  rw [readEscape?, htake]
  simp [Text.scalar?_toNat]

theorem readShortString?_plain {c : Char} (hquote : c ≠ '"') (hslash : c ≠ '\\')
    (hplain : isPlain c = true) (rest : Text) :
    readShortString? ('"' :: c :: '"' :: rest) = some ([c], rest) := by
  simp [readShortString?, readBasic?, hplain]

theorem readShortString?_escape {t : Text} {c : Char} {rest : Text}
    (h : readEscape? t = some (c, '"' :: rest)) :
    readShortString? ('"' :: '\\' :: t) = some ([c], rest) := by
  simp [readShortString?, readBasic?, h]

/-- A written character is read back in front of a line end. With a quote there instead, the quotes
around a line end would not be the closing ones. -/
theorem readString?_writeChar (c : Char) (rest : Text) :
    readString? (writeChar c ++ '\n' :: rest) = some ([c], '\n' :: rest) := by
  unfold writeChar
  split
  case h_8 hquote hslash hline hback htab hfeed hreturn =>
    split
    · rename_i hcontrol
      simp only [List.cons_append, List.nil_append, List.append_assoc]
      exact readShortString?_escape (readEscape?_hexQuad (by omega) ('"' :: '\n' :: rest))
    · rename_i hcontrol
      have hplain : isPlain c = true := by
        simp only [not_or] at hcontrol
        simp [isPlain, hcontrol.2]
        omega
      have hread := readShortString?_plain hquote hslash hplain ('\n' :: rest)
      simp only [List.cons_append, List.nil_append]
      rw [readString?, hread]
      · intro rest' heq
        exact hquote (by simp_all)
      · simp
  all_goals
    rfl

/-! ## Integers -/

theorem hexValue?_digitChar (n : Nat) : Text.hexValue? (Text.digitChar n) = some (n % 10) := by
  have h : ∀ d < 10, Text.hexValue? (Char.ofNat (0x30 + d)) = some d := by decide
  exact h (n % 10) (by omega)

theorem digitsValue_ofNat (n : Nat) : digitsValue 10 (Text.ofNat n) = n := by
  fun_induction Text.ofNat n with
  | case1 n h =>
    simp only [digitsValue, List.foldl_cons, List.foldl_nil, hexValue?_digitChar, Option.getD_some]
    omega
  | case2 n h ih =>
    rw [digitsValue] at ih
    rw [digitsValue, List.foldl_append, ih]
    simp only [List.foldl_cons, List.foldl_nil, hexValue?_digitChar, Option.getD_some]
    omega

theorem splitDigits_append {digits : Text} (h : ∀ d ∈ digits, d.isDigit = true) (rest : Text) :
    splitDigits Char.isDigit (digits ++ '\n' :: rest) = (digits, '\n' :: rest) := by
  induction digits with
  | nil => rfl
  | cons d digits ih =>
    have hd := h d List.mem_cons_self
    have hrest := ih fun d hd => h d (List.mem_cons_of_mem _ hd)
    rw [List.cons_append]
    unfold splitDigits
    split
    · rename_i heq
      exact absurd (List.cons.inj heq).1 (Text.ne_of_isDigit hd rfl)
    · rename_i heq
      obtain ⟨rfl, rfl⟩ := List.cons.inj heq
      rw [if_pos hd, hrest]
    · rename_i heq
      cases heq

theorem readWhole?_ofNat_append (n : Nat) (rest : Text) :
    readWhole? (Text.ofNat n ++ '\n' :: rest) = some (Text.ofNat n, '\n' :: rest) := by
  unfold readWhole?
  split
  · rename_i hzero
    obtain ⟨hn, rfl⟩ := Text.eq_of_ofNat_append_eq_zero_cons hzero
    rw [hn]
  · have hdigits : ∀ d ∈ Text.ofNat n, d.isDigit = true := fun _ => Text.isDigit_of_mem_ofNat
    obtain ⟨d, t, ht, hd⟩ := Text.exists_digit_cons n
    rw [ht] at hdigits ⊢
    rw [List.cons_append, readDigits?, if_pos hd,
      splitDigits_append fun e he => hdigits e (List.mem_cons_of_mem d he)]

/-- Digits in front of a line end. Dates and times of a day take digits and then a dash or a colon, so
they are never read from such a text, whatever is left of it. -/
def DigitsLeft (t : Text) : Prop :=
  ∃ digits rest, (∀ d ∈ digits, d.isDigit = true) ∧ t = digits ++ '\n' :: rest

theorem DigitsLeft.readField? {t : Text} (h : DigitsLeft t) {width low high n : Nat} {t' : Text}
    (hread : readField? width low high t = some (n, t')) : DigitsLeft t' := by
  obtain ⟨digits, rest, hdigits, rfl⟩ := h
  simp only [Toml.readField?] at hread
  split at hread
  · rename_i hfield
    split at hread
    · cases hread
      by_cases hwidth : width ≤ digits.length
      · refine ⟨digits.drop width, rest, fun d hd => hdigits d (List.mem_of_mem_drop hd), ?_⟩
        rw [List.drop_append_of_le_length hwidth]
      · obtain ⟨k, hk⟩ : ∃ k, width - digits.length = k + 1 := ⟨width - digits.length - 1, by omega⟩
        rw [List.take_append, hk, List.take_succ_cons] at hfield
        have hline : '\n'.isDigit = true := by
          refine List.all_eq_true.mp hfield.2 '\n' ?_
          exact List.mem_append_right _ List.mem_cons_self
        cases hline
    · cases hread
  · cases hread

theorem DigitsLeft.after? {t : Text} (h : DigitsLeft t) (mark : Char) (hdigit : mark.isDigit = false)
    (hline : mark ≠ '\n') : after? mark t = none := by
  obtain ⟨digits, rest, hdigits, rfl⟩ := h
  cases digits with
  | nil => exact if_neg (Ne.symm hline)
  | cons d digits =>
    exact if_neg (Text.ne_of_isDigit (hdigits d List.mem_cons_self) hdigit)

theorem DigitsLeft.afterDate? {t : Text} (h : DigitsLeft t) : afterDate? t = none := by
  unfold Toml.afterDate?
  cases hyear : Toml.readField? 4 0 9999 t with
  | none => rfl
  | some year =>
    have hdash := (h.readField? hyear).after? '-' rfl (by decide)
    simp [hdash]

theorem DigitsLeft.afterTime? {t : Text} (h : DigitsLeft t) : afterTime? t = none := by
  unfold Toml.afterTime?
  cases hhour : Toml.readField? 2 0 23 t with
  | none => rfl
  | some hour =>
    have hcolon := (h.readField? hhour).after? ':' rfl (by decide)
    simp [hcolon]

theorem DigitsLeft.readMoment? {t : Text} (h : DigitsLeft t) : readMoment? t = none := by
  rw [Toml.readMoment?, h.afterDate?, h.afterTime?]
  rfl

theorem readSign_of_isDigit {d : Char} (hd : d.isDigit = true) (rest : Text) :
    readSign (d :: rest) = (false, d :: rest) := by
  unfold readSign
  split
  case h_3 => rfl
  all_goals
    rename_i heq
    exact absurd (List.cons.inj heq).1 (Text.ne_of_isDigit hd rfl)

theorem readReal?_ofNat_append (n : Nat) (rest : Text) :
    readReal? (Text.ofNat n ++ '\n' :: rest) = none := by
  have hwhole := readWhole?_ofNat_append n rest
  obtain ⟨d, t, ht, hd⟩ := Text.exists_digit_cons n
  rw [ht, List.cons_append] at hwhole ⊢
  simp only [readReal?, readSign_of_isDigit hd]
  split
  case h_3 =>
    rw [hwhole]
    rfl
  all_goals
    rename_i heq
    exact absurd (List.cons.inj heq).1 (Text.ne_of_isDigit hd rfl)

theorem readInteger?_ofNat_append {n : Nat} (hn : n < Nat.pow 2 63) (rest : Text) :
    readInteger? (Text.ofNat n ++ '\n' :: rest) = some (.integer n, '\n' :: rest) := by
  unfold readInteger?
  split
  case h_4 =>
    have hwhole := readWhole?_ofNat_append n rest
    have hvalue := digitsValue_ofNat n
    obtain ⟨d, t, ht, hd⟩ := Text.exists_digit_cons n
    rw [ht] at hwhole hvalue ⊢
    rw [List.cons_append] at hwhole ⊢
    simp only [readSign_of_isDigit hd, hwhole, Option.bind_eq_bind, Option.bind_some, hvalue]
    exact if_pos hn
  -- a mark of another base would stand right after the zero, where the line ends
  all_goals
    rename_i hmark
    cases (Text.eq_of_ofNat_append_eq_zero_cons hmark).2

theorem readNumber?_ofNat_append {n : Nat} (hn : n < Nat.pow 2 63) (rest : Text) :
    readNumber? (Text.ofNat n ++ '\n' :: rest) = some (.integer n, '\n' :: rest) := by
  have hdigits : DigitsLeft (Text.ofNat n ++ '\n' :: rest) :=
    ⟨_, rest, fun _ => Text.isDigit_of_mem_ofNat, rfl⟩
  rw [readNumber?, hdigits.readMoment?, readReal?_ofNat_append, readInteger?_ofNat_append hn]
  rfl

/-! ## Values -/

theorem skipBlanks_cons {c : Char} (h : isBlank c = false) (rest : Text) :
    skipBlanks (c :: rest) = c :: rest := by
  rw [skipBlanks, List.dropWhile_cons_of_neg (by simp [h])]

theorem readValue?_digit {d : Char} (hd : d.isDigit = true) (bound depth : Nat) (rest : Text) :
    readValue? (bound + 1) depth (d :: rest) = readNumber? (d :: rest) := by
  have hne {mark : Char} (hmark : mark.isDigit = false) : d ≠ mark := Text.ne_of_isDigit hd hmark
  unfold readValue?
  dsimp only
  rw [if_neg (hne rfl), if_neg (hne rfl), if_neg (not_or.mpr ⟨hne rfl, hne rfl⟩)]
  split
  case h_3 => rfl
  all_goals
    rename_i heq
    exact absurd (List.cons.inj heq).1 (hne rfl)

theorem readValue?_quote {quote : Char} (h : quote = '"' ∨ quote = '\'') (bound depth : Nat)
    (rest : Text) :
    readValue? (bound + 1) depth (quote :: rest) =
      (readString? (quote :: rest)).map fun (t, rest) => (.text t, rest) := by
  rcases h with rfl | rfl <;> rfl

/-- The value that a text is read as in front of a line end. -/
structure ReadsAs (t : Text) (value : Toml) : Prop where
  front : ∃ c s, t = c :: s ∧ isBlank c = false
  read : ∀ bound depth rest,
    readValue? (bound + 1) depth (t ++ '\n' :: rest) = some (value, '\n' :: rest)

theorem ReadsAs.skipBlanks {t : Text} {value : Toml} (h : ReadsAs t value) (rest : Text) :
    skipBlanks (' ' :: (t ++ rest)) = t ++ rest := by
  obtain ⟨c, s, rfl, hc⟩ := h.front
  exact skipBlanks_cons hc (s ++ rest)

theorem ReadsAs.ofNat {n : Nat} (hn : n < Nat.pow 2 63) : ReadsAs (Text.ofNat n) (.integer n) := by
  obtain ⟨d, t, ht, hd⟩ := Text.exists_digit_cons n
  constructor
  · refine ⟨d, t, ht, ?_⟩
    have hspace : d ≠ ' ' := Text.ne_of_isDigit hd rfl
    have htab : d ≠ '\t' := Text.ne_of_isDigit hd rfl
    simp [isBlank, hspace, htab]
  · intro bound depth rest
    have hnumber := readNumber?_ofNat_append hn rest
    rw [ht, List.cons_append] at hnumber ⊢
    rw [readValue?_digit hd, hnumber]

theorem exists_writeChar_eq_cons (c : Char) :
    ∃ quote t, writeChar c = quote :: t ∧ (quote = '"' ∨ quote = '\'') := by
  unfold writeChar
  split
  case h_8 =>
    split
    · exact ⟨_, _, rfl, .inl rfl⟩
    · exact ⟨_, _, rfl, .inl rfl⟩
  all_goals
    exact ⟨_, _, rfl, by decide⟩

theorem ReadsAs.ofChar (c : Char) : ReadsAs (writeChar c) (.text [c]) := by
  obtain ⟨quote, t, ht, hquote⟩ := exists_writeChar_eq_cons c
  constructor
  · refine ⟨quote, t, ht, ?_⟩
    rcases hquote with rfl | rfl <;> rfl
  · intro bound depth rest
    have hstring := readString?_writeChar c rest
    rw [ht, List.cons_append] at hstring ⊢
    rw [readValue?_quote hquote, hstring, Option.map_some]

/-! ## Lines -/

/-- A key that needs no quotes. -/
structure Bare (key : Text) : Prop where
  ne_nil : key ≠ []
  isBareKey : ∀ c ∈ key, isBareKey c = true

theorem ne_of_isBareKey {c mark : Char} (hc : isBareKey c = true) (hmark : isBareKey mark = false) :
    c ≠ mark := by
  rintro rfl
  rw [hc] at hmark
  cases hmark

theorem isBlank_of_isBareKey {c : Char} (h : isBareKey c = true) : isBlank c = false := by
  have hspace : c ≠ ' ' := ne_of_isBareKey h rfl
  have htab : c ≠ '\t' := ne_of_isBareKey h rfl
  simp [isBlank, hspace, htab]

theorem readShortString?_of_isBareKey {c : Char} (h : isBareKey c = true) (rest : Text) :
    readShortString? (c :: rest) = none := by
  unfold readShortString?
  split
  case h_3 => rfl
  all_goals
    rename_i heq
    exact absurd (List.cons.inj heq).1 (ne_of_isBareKey h rfl)

theorem Bare.readKey? {key : Text} (h : Bare key) (rest : Text) :
    readKey? (key ++ " = ".toList ++ rest) = some (([], key), '=' :: ' ' :: rest) := by
  obtain ⟨hne, hbare⟩ := h
  have hsplit : key ++ " = ".toList ++ rest = key ++ ' ' :: '=' :: ' ' :: rest := by simp
  have htake : (key ++ ' ' :: '=' :: ' ' :: rest).takeWhile Toml.isBareKey = key := by
    rw [List.takeWhile_append_of_pos hbare, List.takeWhile_cons_of_neg (by decide), List.append_nil]
  have hdrop : (key ++ ' ' :: '=' :: ' ' :: rest).dropWhile Toml.isBareKey =
      ' ' :: '=' :: ' ' :: rest := by
    rw [List.dropWhile_append_of_pos hbare, List.dropWhile_cons_of_neg (by decide)]
  obtain ⟨c, s, rfl⟩ := List.exists_cons_of_ne_nil hne
  have hc := hbare c List.mem_cons_self
  have hpart : readKeyPart? (skipBlanks (c :: s ++ ' ' :: '=' :: ' ' :: rest)) =
      some (c :: s, ' ' :: '=' :: ' ' :: rest) := by
    rw [List.cons_append] at htake hdrop ⊢
    rw [skipBlanks_cons (isBlank_of_isBareKey hc), readKeyPart?, readShortString?_of_isBareKey hc, htake,
      hdrop]
  rw [hsplit, Toml.readKey?, nestingLimit, readKeyParts?, hpart]
  rfl

theorem Document.assign?_new {entries : Entries} {key : Text} (h : entries.lookup key = none)
    (value : Toml) :
    Document.assign? { entries } [] key value = some { entries := entries ++ [(key, value)] } := by
  simp [Document.assign?, Entries.alterPassed, Entries.assign?, Entries.alterDotted, Entries.add?, h]

theorem afterLine?_of_isBareKey {c : Char} (h : isBareKey c = true) (rest : Text) :
    afterLine? (c :: rest) = none := by
  have hcomment : c ≠ '#' := ne_of_isBareKey h rfl
  have hline : c ≠ '\n' := ne_of_isBareKey h rfl
  have hreturn : c ≠ '\r' := ne_of_isBareKey h rfl
  rw [afterLine?, skipBlanks_cons (isBlank_of_isBareKey h)]
  simp [skipComment, afterLineEnd?, hcomment, hline, hreturn]

theorem readLine?_writeLine {entries : Entries} {key t : Text} {value : Toml} (hkey : Bare key)
    (hvalue : ReadsAs t value) (hnew : entries.lookup key = none) (rest : Text) :
    readLine? { entries } (writeLine key t ++ rest) =
      some ({ entries := entries ++ [(key, value)] }, rest) := by
  have hread := hkey.readKey? (t ++ '\n' :: rest)
  obtain ⟨c, s, hs⟩ := List.exists_cons_of_ne_nil hkey.ne_nil
  have hc : isBareKey c = true := hkey.isBareKey c (hs ▸ List.mem_cons_self)
  have htext : writeLine key t ++ rest = key ++ " = ".toList ++ (t ++ '\n' :: rest) := by
    simp [writeLine]
  rw [htext]
  rw [hs, List.cons_append, List.cons_append] at hread ⊢
  unfold readLine?
  split
  case h_3 =>
    rw [afterLine?_of_isBareKey hc]
    simp only
    have hend : afterLine? ('\n' :: rest) = some rest := rfl
    rw [hread]
    simp [hvalue.skipBlanks, hvalue.read, hend, ← hs, Document.assign?_new hnew]
  all_goals
    rename_i heq
    exact absurd (List.cons.inj heq).1 (ne_of_isBareKey hc rfl)

/-! ## Documents -/

/-- Lines and the entries that they make. -/
abbrev LinesReadAs (lines : List (Text × Text)) (entries : Entries) : Prop :=
  List.Forall₂ (fun line entry => line.1 = entry.1 ∧ Bare line.1 ∧ ReadsAs line.2 entry.2) lines
    entries

def writeLines (lines : List (Text × Text)) : Text :=
  lines.flatMap fun (key, value) => writeLine key value

theorem writeLines_cons (key value : Text) (lines : List (Text × Text)) :
    writeLines ((key, value) :: lines) = writeLine key value ++ writeLines lines := rfl

theorem exists_writeLines_eq_cons {key : Text} (h : Bare key) (value : Text)
    (lines : List (Text × Text)) :
    ∃ c s, writeLines ((key, value) :: lines) = c :: s ∧ isBareKey c = true := by
  obtain ⟨c, s, rfl⟩ := List.exists_cons_of_ne_nil h.ne_nil
  exact ⟨c, _, rfl, h.isBareKey c List.mem_cons_self⟩

theorem readLines?_cons {c : Char} (hc : isBareKey c = true) (bound : Nat) (d : Document)
    (s : Text) :
    readLines? (bound + 1) d (c :: s) =
      (readLine? d (c :: s)).bind fun (d, rest) => readLines? bound d rest := by
  rw [readLines?, skipBlanks_cons (isBlank_of_isBareKey hc)]
  cases hline : readLine? d (c :: s) <;> simp [hline]

theorem readLines?_writeLines {lines : List (Text × Text)} {entries : Entries}
    (h : LinesReadAs lines entries) (before : Entries)
    (hkeys : ((before ++ entries).map (·.1)).Nodup) {bound : Nat} (hbound : lines.length < bound) :
    readLines? bound { entries := before } (writeLines lines) =
      some { entries := before ++ entries } := by
  -- each line moves its entry from those that are to come to those before
  induction h generalizing before bound with
  | nil =>
    obtain ⟨bound, rfl⟩ : ∃ b, bound = b + 1 := ⟨bound - 1, by omega⟩
    rw [List.append_nil]
    rfl
  | @cons line entry lines entries hline hlines ih =>
    obtain ⟨key, t⟩ := line
    obtain ⟨key', value⟩ := entry
    obtain ⟨rfl, hkey, hvalue⟩ := hline
    obtain ⟨bound, rfl⟩ : ∃ b, bound = b + 1 := ⟨bound - 1, by omega⟩
    have hnew : before.lookup key = none := by
      rw [List.lookup_eq_none_iff]
      rw [List.map_append, List.nodup_append] at hkeys
      intro entry hentry
      exact bne_iff_ne.mpr (hkeys.2.2 _ (List.mem_map_of_mem hentry) _ List.mem_cons_self).symm
    have hread := readLine?_writeLine hkey hvalue hnew (writeLines lines)
    have hkeys' : ((before ++ [(key, value)] ++ entries).map (·.1)).Nodup := by
      rw [List.append_assoc]
      exact hkeys
    have hrest := ih (before ++ [(key, value)]) hkeys' (Nat.lt_of_succ_lt_succ hbound)
    obtain ⟨c, s, hs, hc⟩ := exists_writeLines_eq_cons hkey t lines
    rw [← writeLines_cons, hs] at hread
    rw [List.append_assoc] at hrest
    rw [hs, readLines?_cons hc, hread]
    exact hrest

theorem length_le_length_writeLines (lines : List (Text × Text)) :
    lines.length ≤ (writeLines lines).length := by
  induction lines with
  | nil => exact Nat.zero_le _
  | cons line lines ih =>
    rw [writeLines_cons, writeLine]
    simp only [List.length_cons, List.length_append]
    omega

/-- Lines with different keys are read as these keys and their values. -/
theorem read?_writeLines {lines : List (Text × Text)} {entries : Entries}
    (h : LinesReadAs lines entries) (hkeys : (entries.map (·.1)).Nodup) :
    read? (writeLines lines) = some entries := by
  have hread := readLines?_writeLines h [] hkeys
    (Nat.lt_succ_of_le (length_le_length_writeLines lines))
  have hmark : ∀ rest, writeLines lines ≠ '\ufeff' :: rest := by
    intro rest heq
    cases h with
    | nil => cases heq
    | @cons line entry lines entries hline _ =>
      obtain ⟨c, s, hs, hc⟩ := exists_writeLines_eq_cons hline.2.1 line.2 lines
      rw [hs, List.cons.injEq] at heq
      exact ne_of_isBareKey hc (by rfl) heq.1
  unfold read?
  split
  · rename_i heq
    exact absurd heq (hmark _)
  · dsimp only
    rw [hread]
    rfl

end PatternLoom.Toml
