import QueryFilter.Spec

/-!
# Sources of filters

A source answers a key with a specification, with nothing, or with an error. Documents are sources:
the entry of the key is the specification, and a missing entry or null is nothing.
-/

namespace QueryFilter

abbrev Source := (key : String) → Except FilterError (Option Spec)

namespace Source

def ofFields (fields : Fields Json) : Source := fun key =>
  match Fields.get? key fields with
  | none => .ok none
  | some .null => .ok none
  | some json => (Spec.ofJsonAt key json).map some

/-- A document that is no object has no entries. -/
def ofJson : Json → Source
  | .object fields => ofFields fields
  | _ => fun _ => .ok none

end Source
end QueryFilter
