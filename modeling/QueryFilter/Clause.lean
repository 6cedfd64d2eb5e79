import QueryFilter.Value

/-!
# Clauses

A query records the conditions laid on it as clauses, independent of how a database spells them.
Columns are free text here: they come from users, and only writing a statement tests them.
-/

namespace QueryFilter

inductive Comparison where
  | eq
  | ne
  | gt
  | gte
  | lt
  | lte
  | like
  | ilike
  | startsWith
  | endsWith
  | contains
  deriving DecidableEq

def Comparison.all : List Comparison :=
  [.eq, .ne, .gt, .gte, .lt, .lte, .like, .ilike, .startsWith, .endsWith, .contains]

def Comparison.symbol : Comparison → String
  | .eq => "="
  | .ne => "!="
  | .gt => ">"
  | .gte => ">="
  | .lt => "<"
  | .lte => "<="
  | .like => "LIKE"
  | .ilike => "ILIKE"
  | .startsWith => "STARTS WITH"
  | .endsWith => "ENDS WITH"
  | .contains => "CONTAINS"

inductive Clause where
  | compare (column : String) (op : Comparison) (value : Value)
  /-- The column compares with at least one of the values. -/
  | any (column : String) (op : Comparison) (values : List Value)
  | member (column : String) (values : List Value) (negated : Bool)
  | null (column : String) (negated : Bool)
  /-- The column lies between two values, both included. -/
  | between (column : String) (low high : Value)
  deriving DecidableEq

namespace Clause

def column : Clause → String
  | .compare column _ _ => column
  | .any column _ _ => column
  | .member column _ _ => column
  | .null column _ => column
  | .between column _ _ => column

def comparison? : Clause → Option (String × Comparison × Value)
  | .compare column op value => some (column, op, value)
  | _ => none

end Clause
end QueryFilter
