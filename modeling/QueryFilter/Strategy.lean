import QueryFilter.Clause
import QueryFilter.Error

/-!
# Strategies

A strategy gives an operator token its meaning: from a column and the operands it makes clauses, and
it may reject. `Outcome` holds both, since a strategy that rejects late leaves the clauses it had
made. Outcomes follow one another by `Outcome.andThen` up to the first rejection.
-/

namespace QueryFilter

/-- The clauses made, and the rejection that ended the making, if one did. -/
structure Outcome where
  clauses : List Clause
  rejection : Option FilterError := none
  deriving DecidableEq

structure Strategy where
  token : String
  run : (column : String) → (values : List Value) → Outcome

namespace Outcome

def nothing : Outcome := ⟨[], none⟩

def reject (e : FilterError) : Outcome := ⟨[], some e⟩

/-- Clauses all at once, or none. -/
def ofExcept : Except FilterError (List Clause) → Outcome
  | .ok clauses => ⟨clauses, none⟩
  | .error e => reject e

def andThen (x y : Outcome) : Outcome :=
  match x.rejection with
  | some _ => x
  | none => ⟨x.clauses ++ y.clauses, y.rejection⟩

/-- Outcomes one after the other, up to and with the first that is rejected. -/
def inTurn : List Outcome → Outcome
  | [] => nothing
  | x :: rest => x.andThen (inTurn rest)

/-! ## Lemmas -/

@[simp] theorem andThen_nothing (x : Outcome) : x.andThen nothing = x := by
  obtain ⟨cs, r⟩ := x
  cases r <;> simp [andThen, nothing]

theorem andThen_assoc (x y z : Outcome) : (x.andThen y).andThen z = x.andThen (y.andThen z) := by
  obtain ⟨cs, r⟩ := x
  obtain ⟨ds, s⟩ := y
  cases r <;> cases s <;> simp [andThen]

theorem inTurn_append (xs ys : List Outcome) :
    inTurn (xs ++ ys) = (inTurn xs).andThen (inTurn ys) := by
  induction xs with
  | nil => rfl
  | cons x rest ih => rw [List.cons_append, inTurn, ih, inTurn, andThen_assoc]

end Outcome
end QueryFilter
