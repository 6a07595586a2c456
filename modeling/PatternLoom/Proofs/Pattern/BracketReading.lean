import PatternLoom.Proofs.Pattern.ClassReading
import PatternLoom.Proofs.Pattern.Meaning

/-!
# Reading classes of escaped characters

An escaped text between brackets is read as the class of its characters, as long as none of them joins
operands or makes a range. A closing bracket in the text has to be escaped once more to stand between
brackets, and then carries two backslashes: the first one escapes the second, and the class ends there.
What follows is read as characters outside of the class.
-/

namespace PatternLoom

set_option autoImplicit false

def CharClass.listed (w : Text) : CharClass := .unions (w.map .one)

theorem CharClass.contains_listed (w : Text) (c : Char) :
    (listed w).contains c = true ↔ c ∈ w := by
  simp [listed, contains_unions]

/-- A text none of whose characters joins the operands of a class or makes a range. -/
def Text.Unjoined (t : Text) : Prop := '-' ∉ t ∧ '&' ∉ t ∧ '~' ∉ t

instance (t : Text) : Decidable (Text.Unjoined t) := inferInstanceAs (Decidable (_ ∧ _ ∧ _))

theorem Text.Unjoined.of_subset {s t : Text} (h : Unjoined t) (hs : s ⊆ t) : Unjoined s :=
  ⟨fun hc => h.1 (hs hc), fun hc => h.2.1 (hs hc), fun hc => h.2.2 (hs hc)⟩

namespace Text

variable {t u : Text}

theorem mem_of_mem_escapeLiteral {d : Char} (h : d ∈ escapeLiteral t) (hd : d ≠ '\\') : d ∈ t := by
  induction t with
  | nil => exact h
  | cons c t ih =>
    cases hc : isMeta c with
    | true =>
      rw [escapeLiteral_of_isMeta hc] at h
      rcases List.mem_cons.mp h with rfl | h
      · exact absurd rfl hd
      · exact List.mem_cons.mpr ((List.mem_cons.mp h).imp_right ih)
    | false =>
      rw [escapeLiteral_of_not_isMeta hc] at h
      exact List.mem_cons.mpr ((List.mem_cons.mp h).imp_right ih)

theorem escapeClass_escapeLiteral_of_not_mem (h : ']' ∉ t) :
    escapeClass (escapeLiteral t) = escapeLiteral t :=
  escapeClass_of_not_mem fun hmem => h (mem_of_mem_escapeLiteral hmem (by decide))

/-- The closing bracket carries two backslashes, of which the first escapes the second. -/
theorem escapeClass_escapeLiteral_closed (h : ']' ∉ u) (v : Text) :
    escapeClass (escapeLiteral (u ++ ']' :: v)) =
      escapeLiteral (u ++ ['\\']) ++ ']' :: escapeClass (escapeLiteral v) := by
  have hclose : isMeta ']' = true := by decide
  have hescaped := escapeClass_escapeLiteral_of_not_mem h
  calc escapeClass (escapeLiteral (u ++ ']' :: v))
    _ = escapeClass (escapeLiteral u ++ '\\' :: ']' :: escapeLiteral v) := by
      rw [escapeLiteral_append, escapeLiteral_of_isMeta hclose]
    _ = escapeClass (escapeLiteral u) ++ escapeClass ('\\' :: ']' :: escapeLiteral v) :=
      escapeWith_append _ _ _
    _ = escapeLiteral u ++ (escapeLiteral ['\\'] ++ ']' :: escapeClass (escapeLiteral v)) := by
      rw [hescaped]
      rfl
    _ = escapeLiteral (u ++ ['\\']) ++ ']' :: escapeClass (escapeLiteral v) := by
      rw [escapeLiteral_append, List.append_assoc]

end Text

namespace Bracket

/-- An escaped text in front of a closing bracket is read as the class of its characters. -/
theorem read?_symbols {w : Text} (hw : w ≠ []) (hjoin : Text.Unjoined w) (rest : Text) :
    read? false false (Text.escapeLiteral w ++ ']' :: rest) = some (.listed w, rest) := by
  have hmeta : ∀ c ∈ Text.metaCharacters, Text.isMeta c = true := List.all_eq_true.mp rfl
  have hsigns : ∀ c ∈ signs, c ∈ Text.metaCharacters ∨ ¬Text.Unjoined [c] := by
    simp [signs, Text.metaCharacters, Text.Unjoined]
  have hpieces : ∀ c ∈ ['\\', '[', ']'], c ∈ Text.metaCharacters := by
    simp [Text.metaCharacters]
  have hlists : Lists (w.map (pieceOf Text.metaCharacters)) (w.map .one) := by
    refine lists_pieces fun c hc => (em (c ∈ Text.metaCharacters)).imp_right fun hmem hsign => ?_
    have hc' : Text.Unjoined [c] := hjoin.of_subset (by simpa using hc)
    exact (hsigns c hsign).elim hmem fun h => h hc'
  refine read?_escapeWith hmeta hw (fun c _ => ?_) hlists rest
  exact (em (c ∈ Text.metaCharacters)).imp_right fun hmem hc => hmem (hpieces c hc)

end Bracket

namespace Reader

variable {r : Reader} {t u : Text}

theorem readsAs_class (hr : r.Basic) {s : CharClass}
    (hread : ∀ rest, Bracket.read? false false (t ++ ']' :: rest) = some (s, rest)) :
    ReadsAs r ('[' :: (t ++ [']'])) 0 [.chars s] := by
  apply ReadsAs.of_reads (by simp)
  apply Reads.of_char hr.flags (by decide)
  intro rest _
  change (Bracket.read? r.flags.anyCase r.flags.verbose _).map _ = _
  rw [hr.flags, List.append_assoc, ← offer_eq]
  change (Bracket.read? false false (t ++ ']' :: rest)).map _ = _
  rw [hread]
  rfl

theorem readsAs_listed (hr : r.Basic) (ht : t ≠ []) (hjoin : Text.Unjoined t) :
    ReadsAs r ('[' :: (Text.escapeLiteral t ++ [']'])) 0 [.chars (.listed t)] :=
  readsAs_class hr (Bracket.read?_symbols ht hjoin)

/-- Outside of a class a closing bracket is a character like any other. -/
theorem readsAs_close (hr : r.Basic) : ReadsAs r [']'] 0 (symbolElements [']']) := by
  apply ReadsAs.of_reads (by simp)
  rw [← hr.offerLiteral]
  exact .of_char hr.flags (by decide) fun rest _ => rfl

theorem quiet_escaped_append (v : Text) (rest : Text) :
    Quiet (Text.escapeClass (Text.escapeLiteral v) ++ [']'] ++ rest) := by
  cases v with
  | nil => trivial
  | cons c v =>
    cases h : Text.isMeta c with
    | true =>
      rw [Text.escapeLiteral_of_isMeta h]
      trivial
    | false =>
      have hc : c ≠ ']' := Text.ne_of_isMeta h (by decide)
      rw [Text.escapeLiteral_of_not_isMeta h, Text.escapeClass_of_ne hc]
      exact quiet_cons h _

/-- Outside of a class, a text escaped for being in one is read as the characters between its closing
brackets, each of which brings a backslash along. -/
theorem readsAs_escaped (hr : r.Basic) (v : Text) :
    ReadsAs r (Text.escapeClass (Text.escapeLiteral v) ++ [']']) 0
      (symbolElements (Text.escapeClass v ++ [']'])) := by
  induction v generalizing r with
  | nil => exact readsAs_close hr
  | cons c v ih =>
    have hrest : ∀ (ps : List Regex) (r' : Reader), r'.settle = r.added 0 ps →
        ReadsAs r' (Text.escapeClass (Text.escapeLiteral v) ++ [']']) 0
          (symbolElements (Text.escapeClass v ++ [']'])) :=
      fun ps r' hr' => ih (frame_of_settle hr hr').1
    by_cases hc : c = ']'
    · subst hc
      -- of the two backslashes the first escapes the second, and the bracket stands bare
      have hbackslash := readsAs_symbols hr ['\\']
      have hclose : ∀ r', r'.settle = r.added 0 (symbolElements ['\\']) →
          ReadsAs r' [']'] 0 (symbolElements [']']) :=
        fun r' hr' => readsAs_close (frame_of_settle hr hr').1
      have hfront := hbackslash.append hclose fun rest _ => trivial
      exact hfront.append (hrest _) fun rest _ => quiet_escaped_append v rest
    · have hmem : ']' ∉ [c] := by simpa using Ne.symm hc
      have hchar := readsAs_symbols hr [c]
      have hsplit : Text.escapeClass (Text.escapeLiteral (c :: v)) =
          Text.escapeLiteral [c] ++ Text.escapeClass (Text.escapeLiteral v) := by
        have happend : Text.escapeClass (Text.escapeLiteral [c] ++ Text.escapeLiteral v) =
            Text.escapeClass (Text.escapeLiteral [c]) ++ Text.escapeClass (Text.escapeLiteral v) :=
          Text.escapeWith_append _ _ _
        rw [Text.escapeLiteral_cons, happend, Text.escapeClass_escapeLiteral_of_not_mem hmem]
      rw [hsplit, Text.escapeClass_of_ne hc, List.append_assoc]
      exact hchar.append (hrest _) fun rest _ => quiet_escaped_append v rest

theorem readsAs_group (hr : r.Basic) (ht : t ≠ []) (hjoin : Text.Unjoined t) (hclose : ']' ∉ t) :
    ReadsAs r ('[' :: (Text.escapeClass (Text.escapeLiteral t) ++ [']'])) 0
      [.chars (.listed t)] := by
  rw [Text.escapeClass_escapeLiteral_of_not_mem hclose]
  exact readsAs_listed hr ht hjoin

/-- The first closing bracket of a text that has been escaped twice ends the class. -/
theorem readsAs_group_closed (hr : r.Basic) {v : Text} (hjoin : Text.Unjoined u) (hclose : ']' ∉ u) :
    ReadsAs r ('[' :: (Text.escapeClass (Text.escapeLiteral (u ++ ']' :: v)) ++ [']'])) 0
      ([.chars (.listed (u ++ ['\\']))] ++ symbolElements (Text.escapeClass v ++ [']'])) := by
  have hjoin' : Text.Unjoined (u ++ ['\\']) := by
    simpa [Text.Unjoined] using hjoin
  have hclass := readsAs_listed hr (t := u ++ ['\\']) (by simp) hjoin'
  have hrest : ∀ r', r'.settle = r.added 0 [.chars (.listed (u ++ ['\\']))] →
      ReadsAs r' (Text.escapeClass (Text.escapeLiteral v) ++ [']']) 0
        (symbolElements (Text.escapeClass v ++ [']'])) :=
    fun r' hr' => readsAs_escaped (frame_of_settle hr hr').1 v
  have hread := hclass.append hrest fun rest _ => quiet_escaped_append v rest
  rw [Text.escapeClass_escapeLiteral_closed hclose]
  simpa using hread

end Reader

end PatternLoom
