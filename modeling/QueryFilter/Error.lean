import QueryFilter.Operator
import QueryFilter.Value

/-!
# Reasons for refusing a filter

`FilterError` has three sorts: the set of operators is configured wrongly, a filter uses an operator
that is not enabled, or a filter is malformed. The last two name the field. The causes are data;
their wording is in `ConfigFault.message`, `ShapeFault.message` and `FilterError.message` only.
-/

namespace QueryFilter

inductive ConfigFault where
  | unreadable
  | emptyKey
  | emptyToken
  | alreadyRegistered (token : String)
  | notRegistered (token : String)
  | noneEnabled
  /-- A reason in the words of a strategy or a source. -/
  | other (text : String)
  deriving DecidableEq

inductive ShapeFault where
  | unreadable
  | notFields (found : Json.Kind)
  | emptyField
  | noOperators
  | notOperator (key : String)
  | notScalar (token : String) (found : Json.Kind)
  | noOperand (op : Operator)
  | nullOperand (op : Operator)
  | notString (op : Operator) (found : Value.Kind)
  | notPair (op : Operator) (count : Nat)
  | notFlag (op : Operator)
  /-- A reason in the words of a strategy or a source. -/
  | other (text : String)
  deriving DecidableEq

inductive FilterError where
  | configuration (fault : ConfigFault)
  | unknownOperator (column token : String)
  | malformed (column : String) (fault : ShapeFault)
  deriving DecidableEq

/-! ## Wording -/

def quoted (name : String) : String := "`" ++ name ++ "`"

/-- The wording of a cause. That of `unreadable` is only the front of the report: behind a colon,
the reader of the document says in its own words what is wrong and where. -/
def ConfigFault.message : ConfigFault → String
  | .unreadable => "invalid filter config"
  | .emptyKey => "filter source key cannot be empty"
  | .emptyToken => "operator token cannot be empty"
  | .alreadyRegistered token => "operator " ++ quoted token ++ " is already registered"
  | .notRegistered token => "operator " ++ quoted token ++ " is not registered"
  | .noneEnabled => "no filter operators are enabled"
  | .other text => text

/-- What stands where a scalar was expected; the one number that is no scalar is too large. -/
def notScalarPhrase : Json.Kind → String
  | .number => "an out-of-range integer"
  | kind => kind.phrase

/-- The wording of a cause; as above, that of `unreadable` stops before the reader's own words. -/
def ShapeFault.message : ShapeFault → String
  | .unreadable => "invalid JSON"
  | .notFields found => "expected an object of field filters, got " ++ found.phrase
  | .emptyField => "field name cannot be empty"
  | .noOperators => "operator object cannot be empty"
  | .notOperator key => quoted key ++ " is not an operator, nested field filters are not supported"
  | .notScalar token found =>
    quoted token ++ " expects scalar values, got " ++ notScalarPhrase found
  | .noOperand op => quoted op.token ++ " expects at least one value"
  | .nullOperand op => quoted op.token ++ " cannot compare against null"
  | .notString op found => quoted op.token ++ " expects string values, got " ++ found.word
  | .notPair op count => quoted op.token ++ " expects exactly 2 values, got " ++ toString count
  | .notFlag op => quoted op.token ++ " expects a single boolean"
  | .other text => text

def FilterError.message : FilterError → String
  | .configuration fault => "filter configuration error: " ++ fault.message
  | .unknownOperator column token =>
    "operator " ++ quoted token ++ " is not enabled for field " ++ quoted column
  | .malformed column fault =>
    "malformed filter for field " ++ quoted column ++ ": " ++ fault.message

end QueryFilter
