/-!
# Runs of case mappings

Case mappings move whole runs of scalars by the same distance, every scalar of the run or every
second one. The mappings are those of Unicode 16.0.
-/

namespace PatternLoom.Unicode

set_option autoImplicit false

/-- Every `step`-th scalar from `first` to `last` moves by `shift`. -/
structure CaseRun where
  first : Nat
  last : Nat
  step : Nat
  shift : Int

namespace CaseRun

def covers (r : CaseRun) (n : Nat) : Bool :=
  r.first ≤ n && n ≤ r.last && (n - r.first) % r.step == 0

def image? (r : CaseRun) (n : Nat) : Option Nat :=
  if r.covers n then some (n + r.shift).toNat else none

def source? (r : CaseRun) (n : Nat) : Option Nat :=
  let m := (n - r.shift).toNat
  if r.covers m then some m else none

end CaseRun

end PatternLoom.Unicode
