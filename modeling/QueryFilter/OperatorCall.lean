import QueryFilter.Spec

/-!
# Filter expressions

The expression of a field is a scalar or a list of scalars, which ask for equality, or an object
whose keys are operator tokens and whose entries are scalars or lists of scalars.
`OperatorCall.parse` turns it into calls of operators. It does not ask which operators exist.
-/

namespace QueryFilter

structure OperatorCall where
  column : String
  token : String
  values : List Value
  deriving DecidableEq

namespace OperatorCall

def scalar (field token : String) (json : Json) : Except FilterError Value :=
  match Value.ofJson? json with
  | some v => .ok v
  | none => .error (.malformed field (.notScalar token json.kind))

def operands (field token : String) : Json → Except FilterError (List Value)
  | .array items => items.mapM (scalar field token)
  | json => return [← scalar field token json]

def isToken (key : String) : Bool := key.toList.head? == some operatorMark

def ofEntry (field : String) (entry : String × Json) : Except FilterError OperatorCall := do
  if isToken entry.1 then
    return ⟨field, entry.1, ← operands field entry.1 entry.2⟩
  else .error (.malformed field (.notOperator entry.1))

def parse (field : String) (expression : Json) : Except FilterError (List OperatorCall) :=
  if field = "" then .error (.malformed field .emptyField)
  else match expression with
    | .object [] => .error (.malformed field .noOperators)
    | .object entries => entries.mapM (ofEntry field)
    | json => do return [⟨field, Operator.eq.token, ← operands field Operator.eq.token json⟩]

end OperatorCall
end QueryFilter
