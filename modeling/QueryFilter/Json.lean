import QueryFilter.Binary64
import QueryFilter.Fields

/-!
# JSON documents

A number is an integer or a binary64, never both: `1` and `1.0` are different documents. Objects
keep the order of their entries; `Json.equal` does not look at it.
-/

namespace QueryFilter

inductive Json where
  | null
  | bool (b : Bool)
  | integer (n : Int)
  | float (x : Binary64)
  | string (s : String)
  | array (items : List Json)
  | object (fields : List (String × Json))

namespace Json

inductive Kind where
  | null
  | boolean
  | number
  | string
  | array
  | object
  deriving DecidableEq

def Kind.phrase : Kind → String
  | .null => "null"
  | .boolean => "a boolean"
  | .number => "a number"
  | .string => "a string"
  | .array => "an array"
  | .object => "an object"

def kind : Json → Kind
  | .null => .null
  | .bool _ => .boolean
  | .integer _ => .number
  | .float _ => .number
  | .string _ => .string
  | .array _ => .array
  | .object _ => .object

/-! ## Equality -/

mutual

/-- Equality of content: entries of objects in any order, floats by their value. -/
def equal : Json → Json → Bool
  | .null, .null => true
  | .bool a, .bool b => a == b
  | .integer m, .integer n => m == n
  | .float x, .float y => x.equal y
  | .string s, .string t => s == t
  | .array xs, .array ys => equalItems xs ys
  | .object a, .object b => a.length == b.length && equalFields a b
  | _, _ => false

def equalItems : List Json → List Json → Bool
  | [], [] => true
  | x :: xs, y :: ys => x.equal y && equalItems xs ys
  | _, _ => false

def equalFields : List (String × Json) → List (String × Json) → Bool
  | [], _ => true
  | (name, x) :: rest, others =>
    (match Fields.get? name others with
      | some y => x.equal y
      | none => false) && equalFields rest others

end

end Json
end QueryFilter
