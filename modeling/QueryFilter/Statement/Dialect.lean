import QueryFilter.Clause

/-!
# Dialects

Where the two databases differ: the mark of a placeholder, a comparison that only one of them has,
and (in `Statement.Condition`) how a set is bound.
-/

namespace QueryFilter

inductive Dialect where
  | postgres
  | sqlite
  deriving DecidableEq

namespace Dialect

def mark : Dialect → Char
  | .postgres => '$'
  | .sqlite => '?'

/-- The place of parameter `k`; parameters count from one. -/
def placeholder (d : Dialect) (k : Nat) : String := String.ofList (d.mark :: Nat.toDigits 10 k)

theorem placeholder_eq (d : Dialect) (k : Nat) :
    d.placeholder k = String.singleton d.mark ++ toString k := by
  rw [← String.toList_inj]
  simp [placeholder]

def supportsIlike : Dialect → Bool
  | .postgres => true
  | .sqlite => false

/-- The comparison as the database knows it. Plain `LIKE` does not look at the case of ASCII letters
where `ILIKE` is missing. -/
def comparison (d : Dialect) : Comparison → Comparison
  | .ilike => if d.supportsIlike then .ilike else .like
  | op => op

end Dialect
end QueryFilter
