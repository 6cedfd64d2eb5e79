import QueryFilter.Strategy

/-!
# What the operators record

`Operator.clauses` is the meaning of the built-in operators: all clauses of the operands, or a
rejection that names the field and no clause. Comparisons of order refuse null, the pattern
operators take text only, and how many operands there are is tested last where both can fail.
-/

namespace QueryFilter
namespace Operator

def refuse {α : Type} (column : String) (fault : ShapeFault) : Except FilterError α :=
  .error (.malformed column fault)

/-- One comparison for each of at least one value. -/
def each (op : Operator) (cmp : Comparison) (column : String) (values : List Value) :
    Except FilterError (List Clause) :=
  if values = [] then refuse column (.noOperand op)
  else .ok (values.map (.compare column cmp))

/-- Comparisons of order: nothing is before or after null. -/
def eachOrdered (op : Operator) (cmp : Comparison) (column : String) (values : List Value) :
    Except FilterError (List Clause) :=
  if values.any Value.isNull then refuse column (.nullOperand op) else op.each cmp column values

def eachPattern (op : Operator) (cmp : Comparison) (column : String) (values : List Value) :
    Except FilterError (List Clause) :=
  match values.find? fun v => !v.isString with
  | some v => refuse column (.notString op v.kind)
  | none => op.each cmp column values

def set (op : Operator) (column : String) (values : List Value) (negated : Bool) :
    Except FilterError (List Clause) :=
  if values = [] then refuse column (.noOperand op) else .ok [.member column values negated]

/-- A flag asks for null or for its opposite. -/
def nullTest (op : Operator) (column : String) (values : List Value) (opposite : Bool) :
    Except FilterError (List Clause) :=
  match values with
  | [.bool flag] => .ok [.null column (flag == opposite)]
  | _ => refuse column (.notFlag op)

def clauses (op : Operator) (column : String) (values : List Value) :
    Except FilterError (List Clause) :=
  match op with
  | .eq =>
    match values with
    | [] => refuse column (.noOperand op)
    | [v] => .ok [.compare column .eq v]
    | values => .ok [.any column .eq values]
  | .ne => op.each .ne column values
  | .gt => op.eachOrdered .gt column values
  | .gte => op.eachOrdered .gte column values
  | .lt => op.eachOrdered .lt column values
  | .lte => op.eachOrdered .lte column values
  | .isIn => op.set column values false
  | .notIn => op.set column values true
  | .like => op.eachPattern .like column values
  | .ilike => op.eachPattern .ilike column values
  | .startsWith => op.eachPattern .startsWith column values
  | .endsWith => op.eachPattern .endsWith column values
  | .contains => op.eachPattern .contains column values
  | .between =>
    match values with
    | [low, high] => .ok [.between column low high]
    | values => refuse column (.notPair op values.length)
  | .null => op.nullTest column values false
  | .notNull => op.nullTest column values true

def strategy (op : Operator) : Strategy where
  token := op.token
  run column values := .ofExcept (op.clauses column values)

end Operator
end QueryFilter
