import QueryFilter.Resolve
import QueryFilter.Source
import QueryFilter.Statement.Select

/-!
# Filtering in a context

A `Context` is what a filter meets where it runs: the operators known there, the source of
specifications and the key to ask it for. `Context.filter` refuses first the list of allowed
operators, then the source, which is not asked if a specification is given, then the filters.
-/

namespace QueryFilter

structure Context where
  registry : Registry
  key : String := defaultKey
  source : Option Source := none

namespace Context

def withSettings (ctx : Context) (s : Settings) : Context := { ctx with key := s.key }

def withKey (ctx : Context) (key : String) : Context := { ctx with key }

def withSource (ctx : Context) (source : Source) : Context := { ctx with source := some source }

/-- The specification of the source; without one, the empty specification. -/
def ambient (ctx : Context) : Except FilterError Spec :=
  match ctx.source with
  | some source => return (← source ctx.key).getD .empty
  | none => .ok .empty

def filter (ctx : Context) (allowed : Option (List String)) (q : Select) (spec : Option Spec) :
    Except FilterError Select := do
  let enabled ← Enabled.only ctx.registry allowed
  let spec ← match spec with
    | some spec => pure spec
    | none => ctx.ambient
  let outcome := enabled.applyAll spec
  match outcome.rejection with
  | some fault => .error fault
  | none => return q.add outcome.clauses

end Context

end QueryFilter
