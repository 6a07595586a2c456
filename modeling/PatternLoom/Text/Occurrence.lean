import PatternLoom.Text.Basic

/-!
# Occurrences of a text in another

Occurrences are taken greedily from the left and do not overlap.
-/

namespace PatternLoom.Text

set_option autoImplicit false

def afterFront? : Text → Text → Option Text
  | [], t => some t
  | _ :: _, [] => none
  | k :: key, c :: t => if k = c then afterFront? key t else none

theorem afterFront?_eq_some_iff {key t rest : Text} :
    afterFront? key t = some rest ↔ t = key ++ rest := by
  induction key generalizing t with
  | nil => simp [afterFront?, eq_comm]
  | cons k key ih =>
    cases t with
    | nil => simp [afterFront?]
    | cons c t => by_cases h : k = c <;> simp [afterFront?, h, ih, eq_comm]

/-- The parts of a text between the leftmost non-overlapping occurrences of a non-empty `key`.
A key without characters occurs nowhere. -/
def parts (key t : Text) : List Text :=
  match key with
  | [] => [t]
  | k :: key' =>
    match t with
    | [] => [[]]
    | c :: t' =>
      match _found : afterFront? (k :: key') (c :: t') with
      | some rest => [] :: parts key rest
      | none =>
        match parts key t' with
        | [] => [[c]]
        | part :: more => (c :: part) :: more
termination_by t.length
decreasing_by
  · have := congrArg List.length (afterFront?_eq_some_iff.1 _found)
    simp at this ⊢
    omega
  · simp

def replaceAll (key replacement t : Text) : Text :=
  joinWith replacement (parts key t)

end PatternLoom.Text
