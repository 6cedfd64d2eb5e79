import QueryFilter.Json.Numeral

/-!
# Documents as they are spelled

A `Literal` is a document before its numbers are computed and its repeated names merged.
`Literal.json?` is what it stands for, nothing if one of its numbers is out of range: of members of
one name the first place and the last content stay.
-/

namespace QueryFilter

inductive Literal where
  | null
  | bool (b : Bool)
  | number (x : Numeral)
  | string (s : String)
  | array (items : List Literal)
  | object (members : List (String × Literal))

namespace Literal

mutual

def json? : Literal → Option Json
  | .null => some .null
  | .bool b => some (.bool b)
  | .number x => x.value?
  | .string s => some (.string s)
  | .array items => (jsonItems? items).map .array
  | .object members => (jsonMembers? members).map fun fields => .object (Fields.ofList fields)

def jsonItems? : List Literal → Option (List Json)
  | [] => some []
  | x :: rest =>
    match x.json?, jsonItems? rest with
    | some v, some vs => some (v :: vs)
    | _, _ => none

def jsonMembers? : List (String × Literal) → Option (List (String × Json))
  | [] => some []
  | (name, x) :: rest =>
    match x.json?, jsonMembers? rest with
    | some v, some fields => some ((name, v) :: fields)
    | _, _ => none

end

end Literal
end QueryFilter
