import QueryFilter.Operator.Clauses
import QueryFilter.Settings

/-!
# Registries and enabled operators

A `Registry` lists strategies in the order of registration, and perhaps the tokens enabled by
default. Registration only appends; a token that is empty or taken is refused. `Enabled` is the set
of strategies that a filter may use, chosen from a registry by `Enabled.only`: the tokens of a list
given for the call, else the defaults, else everything registered. No set is empty.
-/

namespace QueryFilter

def findStrategy (strategies : List Strategy) (token : String) : Option Strategy :=
  strategies.find? fun s => s.token == token

theorem findStrategy_some {ss : List Strategy} {token : String} {s : Strategy}
    (h : findStrategy ss token = some s) : s ∈ ss ∧ s.token = token :=
  ⟨List.mem_of_find?_eq_some h, by simpa using List.find?_some h⟩

theorem findStrategy_isSome {ss : List Strategy} {token : String} :
    (findStrategy ss token).isSome ↔ token ∈ ss.map Strategy.token := by
  simp [findStrategy]

theorem findStrategy_append (ss ts : List Strategy) (token : String) :
    findStrategy (ss ++ ts) token = (findStrategy ss token).or (findStrategy ts token) :=
  List.find?_append

/-! ## Registries -/

structure Registry where
  strategies : List Strategy := []
  defaults : Option (List String) := none

namespace Registry

def empty : Registry := {}

def builtin : Registry := { strategies := Operator.all.map Operator.strategy }

def tokens (r : Registry) : List String := r.strategies.map Strategy.token

def get? (r : Registry) (token : String) : Option Strategy := findStrategy r.strategies token

def register (r : Registry) (s : Strategy) : Except FilterError Registry :=
  if s.token = "" then .error (.configuration .emptyToken)
  else if (r.get? s.token).isSome then .error (.configuration (.alreadyRegistered s.token))
  else .ok { r with strategies := r.strategies ++ [s] }

/-- A list of tokens without its repetitions; the first that is not registered is refused. -/
def known (r : Registry) (tokens : List String) : Except FilterError (List String) :=
  match tokens.find? fun t => (r.get? t).isNone with
  | some t => .error (.configuration (.notRegistered t))
  | none => .ok tokens.eraseDups

def withDefaults (r : Registry) (tokens : List String) : Except FilterError Registry := do
  return { r with defaults := some (← r.known tokens) }

def ofSettings (s : Settings) : Except FilterError Registry :=
  match s.operators with
  | some tokens => builtin.withDefaults tokens
  | none => .ok builtin

end Registry

/-! ## Enabled operators -/

structure Enabled where
  strategies : List Strategy

namespace Enabled

def tokens (e : Enabled) : List String := e.strategies.map Strategy.token

def get? (e : Enabled) (token : String) : Option Strategy := findStrategy e.strategies token

def contains (e : Enabled) (token : String) : Bool := (e.get? token).isSome

/-- The tokens that a registry enables, by the list given or by its own rule. -/
def chosen (r : Registry) : Option (List String) → Except FilterError (List String)
  | some allow => r.known allow
  | none => .ok (r.defaults.getD r.tokens)

def only (r : Registry) (allow : Option (List String)) : Except FilterError Enabled := do
  match (← chosen r allow).filterMap r.get? with
  | [] => .error (.configuration .noneEnabled)
  | strategies => return ⟨strategies⟩

def byDefault (r : Registry) : Except FilterError Enabled := only r none

end Enabled
end QueryFilter
