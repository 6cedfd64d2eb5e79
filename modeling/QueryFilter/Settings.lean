import QueryFilter.Spec

/-!
# Settings

The part of the configuration that a deployment sets: the operators that are enabled by default and
the name under which filters are looked up.
-/

namespace QueryFilter

structure Settings where
  /-- Nothing enables every registered operator. -/
  operators : Option (List String) := none
  key : String := defaultKey
  deriving DecidableEq

namespace Settings

def isDefault (s : Settings) : Bool := s == {}

def enabling (s : Settings) (tokens : List String) : Settings := { s with operators := some tokens }

end Settings
end QueryFilter
