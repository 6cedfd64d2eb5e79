import QueryFilter.Error
import QueryFilter.Json.Reader

/-!
# Filter specifications

A `Spec` maps field names to filter expressions, in the order in which the names arrived. Names are
pairwise different by type: setting a field again keeps its place. The expressions are documents;
`OperatorCall` says which of them are filters.
-/

namespace QueryFilter

/-- The name under which filters are looked up, and which names a specification as a whole. -/
def defaultKey : String := "filters"

structure Spec where
  fields : Fields Json
  distinct : (Fields.names fields).Nodup

namespace Spec

def empty : Spec := ⟨[], by simp [Fields.names]⟩

def ofFields (fields : Fields Json) : Spec := ⟨Fields.ofList fields, Fields.nodup_ofList fields⟩

def insert (s : Spec) (field : String) (expression : Json) : Spec :=
  ⟨Fields.insert field expression s.fields, Fields.nodup_insert s.distinct⟩

def size (s : Spec) : Nat := s.fields.length

/-- A document as a specification; a refusal names `key`. -/
def ofJsonAt (key : String) : Json → Except FilterError Spec
  | .object fields => .ok (ofFields fields)
  | json => .error (.malformed key (.notFields json.kind))

def ofJson (json : Json) : Except FilterError Spec := ofJsonAt defaultKey json

def parse (text : String) : Except FilterError Spec :=
  match Json.read? text with
  | some json => ofJson json
  | none => .error (.malformed defaultKey .unreadable)

def json (s : Spec) : Json := .object s.fields

/-- Equality of content; the order of fields does not count. -/
def equal (s t : Spec) : Bool := s.json.equal t.json

end Spec
end QueryFilter
