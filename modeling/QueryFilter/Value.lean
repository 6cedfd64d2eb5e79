import QueryFilter.Json

/-!
# Values bound to a statement

A `Value` is what a filter compares a column with and what a database driver binds. Arrays are made
only by sets bound as one parameter. `Value.ofJson?` admits the scalars of a document; an integer
beyond the signed 64-bit range is no value, and is not approximated.
-/

namespace QueryFilter

inductive Value where
  | null
  | bool (b : Bool)
  | int (n : Int64)
  | float (x : Binary64)
  | string (s : String)
  | array (items : List Value)

namespace Value

inductive Kind where
  | null
  | bool
  | int
  | float
  | string
  | array
  deriving DecidableEq

def Kind.word : Kind → String
  | .null => "null"
  | .bool => "bool"
  | .int => "int"
  | .float => "float"
  | .string => "string"
  | .array => "array"

def kind : Value → Kind
  | .null => .null
  | .bool _ => .bool
  | .int _ => .int
  | .float _ => .float
  | .string _ => .string
  | .array _ => .array

def isNull : Value → Bool
  | .null => true
  | _ => false

def isString : Value → Bool
  | .string _ => true
  | _ => false

def ofInt? (n : Int) : Option Value :=
  if -Int.pow 2 63 ≤ n ∧ n < Int.pow 2 63 then some (.int (Int64.ofInt n)) else none

def ofJson? : Json → Option Value
  | .null => some .null
  | .bool b => some (.bool b)
  | .integer n => ofInt? n
  | .float x => some (.float x)
  | .string s => some (.string s)
  | .array _ => none
  | .object _ => none

/-! ## Equality -/

mutual

/-- Equality of content, floats by their value: the zeros agree and a NaN agrees with nothing. -/
def equal : Value → Value → Bool
  | .null, .null => true
  | .bool a, .bool b => a == b
  | .int m, .int n => m == n
  | .float x, .float y => x.equal y
  | .string s, .string t => s == t
  | .array xs, .array ys => equalItems xs ys
  | _, _ => false

def equalItems : List Value → List Value → Bool
  | [], [] => true
  | x :: xs, y :: ys => x.equal y && equalItems xs ys
  | _, _ => false

end

mutual

/-- Identity of values, floats by their words. -/
def decEq : (v w : Value) → Decidable (v = w)
  | .null, w => by cases w <;> first | exact isTrue rfl | exact isFalse nofun
  | .bool a, w => by
    cases w
    case bool b => exact decidable_of_iff (a = b) (by simp)
    all_goals exact isFalse nofun
  | .int m, w => by
    cases w
    case int n => exact decidable_of_iff (m = n) (by simp)
    all_goals exact isFalse nofun
  | .float x, w => by
    cases w
    case float y => exact decidable_of_iff (x = y) (by simp)
    all_goals exact isFalse nofun
  | .string s, w => by
    cases w
    case string t => exact decidable_of_iff (s = t) (by simp)
    all_goals exact isFalse nofun
  | .array xs, w => by
    cases w
    case array ys => exact @decidable_of_iff _ (xs = ys) (by simp) (decEqItems xs ys)
    all_goals exact isFalse nofun

def decEqItems : (vs ws : List Value) → Decidable (vs = ws)
  | [], [] => isTrue rfl
  | [], _ :: _ => isFalse nofun
  | _ :: _, [] => isFalse nofun
  | v :: vs, w :: ws =>
    have := decEq v w
    have := decEqItems vs ws
    decidable_of_iff (v = w ∧ vs = ws) (by simp)

end

instance : DecidableEq Value := decEq

end Value
end QueryFilter
