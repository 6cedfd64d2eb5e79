import QueryFilter.Context

/-!
# Models and sessions

A model keeps the list of operators that it allows, if one was given. Filtering stores the list that
comes with the call first, whatever becomes of the call, and runs with the operators that the stored
list then enables. The specification is the one given, else what the source of the context answers.
A `Session` is any number of models by name.
-/

namespace QueryFilter

structure Request where
  context : Context
  query : Select
  available : Option (List String) := none
  spec : Option Spec := none

structure Model where
  allowed : Option (List String) := none

namespace Model

def allow (_ : Model) (tokens : List String) : Model := { allowed := some tokens }

def clear (_ : Model) : Model := {}

/-- The model after a list came with a call. -/
def receive (m : Model) : Option (List String) → Model
  | some tokens => m.allow tokens
  | none => m

def filter (m : Model) (r : Request) : Model × Except FilterError Select :=
  let m' := m.receive r.available
  (m', r.context.filter m'.allowed r.query r.spec)

end Model

/-! ## Sessions -/

inductive Action where
  | allow (tokens : List String)
  | clear
  | filter (request : Request)

def Model.act (m : Model) : Action → Model × Option (Except FilterError Select)
  | .allow tokens => (m.allow tokens, none)
  | .clear => (m.clear, none)
  | .filter request =>
    let (m', result) := m.filter request
    (m', some result)

structure Session where
  model : (name : String) → Model := fun _ => {}

namespace Session

def step (s : Session) (name : String) (action : Action) :
    Session × Option (Except FilterError Select) :=
  let (m, result) := (s.model name).act action
  ({ model := fun other => if other = name then m else s.model other }, result)

def run (s : Session) (actions : List (String × Action)) : Session :=
  actions.foldl (fun s a => (s.step a.1 a.2).1) s

end Session
end QueryFilter
