import QueryFilter.OperatorCall
import QueryFilter.Registry

/-!
# Resolving filters

A field's expression is resolved in three steps: its operator calls are read, every token is looked
up, and the strategies run in order. A fault of the first two steps leaves no clause. A
specification is resolved field by field up to the first that is rejected.
-/

namespace QueryFilter
namespace Enabled

def strategyFor (e : Enabled) (field : String) (call : OperatorCall) :
    Except FilterError (Strategy × OperatorCall) :=
  match e.get? call.token with
  | some s => .ok (s, call)
  | none => .error (.unknownOperator field call.token)

def resolve (e : Enabled) (field : String) (expression : Json) :
    Except FilterError (List (Strategy × OperatorCall)) := do
  (← OperatorCall.parse field expression).mapM (e.strategyFor field)

def apply (e : Enabled) (field : String) (expression : Json) : Outcome :=
  match e.resolve field expression with
  | .error fault => .reject fault
  | .ok calls => .inTurn (calls.map fun c => c.1.run c.2.column c.2.values)

def applyAll (e : Enabled) (spec : Spec) : Outcome :=
  .inTurn (spec.fields.map fun f => e.apply f.1 f.2)

end Enabled
end QueryFilter
