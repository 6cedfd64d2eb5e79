/-!
# Operators

The built-in operators and the tokens that a filter spells them with. Every operator token starts
with `operatorMark`; the tokens of the built-in operators are pairwise different, so
`Operator.ofToken?` undoes `Operator.token`.
-/

namespace QueryFilter

/-- What tells an operator from a field name. -/
def operatorMark : Char := '$'

inductive Operator where
  | eq
  | ne
  | gt
  | gte
  | lt
  | lte
  | isIn
  | notIn
  | like
  | ilike
  | startsWith
  | endsWith
  | contains
  | between
  | null
  | notNull
  deriving DecidableEq

namespace Operator

def all : List Operator :=
  [.eq, .ne, .gt, .gte, .lt, .lte, .isIn, .notIn, .like, .ilike, .startsWith, .endsWith, .contains,
    .between, .null, .notNull]

def token : Operator → String
  | .eq => "$eq"
  | .ne => "$ne"
  | .gt => "$gt"
  | .gte => "$gte"
  | .lt => "$lt"
  | .lte => "$lte"
  | .isIn => "$in"
  | .notIn => "$nin"
  | .like => "$like"
  | .ilike => "$ilike"
  | .startsWith => "$startsWith"
  | .endsWith => "$endsWith"
  | .contains => "$contains"
  | .between => "$between"
  | .null => "$null"
  | .notNull => "$notNull"

def ofToken? (token : String) : Option Operator := all.find? fun op => op.token == token

/-! ## Lemmas -/

theorem ofToken?_token (op : Operator) : ofToken? op.token = some op := by cases op <;> decide

theorem ofToken?_eq_some {token : String} {op : Operator} :
    ofToken? token = some op ↔ op.token = token := by
  constructor
  · intro h
    simpa using List.find?_some h
  · rintro rfl
    exact ofToken?_token op

theorem token_injective {a b : Operator} (h : a.token = b.token) : a = b := by
  have found : ofToken? b.token = some a := ofToken?_eq_some.2 h
  rw [ofToken?_token] at found
  exact (Option.some.inj found).symm

end Operator
end QueryFilter
