import QueryFilter.Model
import QueryFilter.Text.Quoted

/-!
# Descriptions

How registries, sets of enabled operators and contexts appear in diagnostics: by their tokens.
Strategies and sources have no text of their own.
-/

namespace QueryFilter

def describeParts (name : String) (parts : List (String × String)) : String :=
  name ++ " \x7b " ++ ", ".intercalate (parts.map fun p => p.1 ++ ": " ++ p.2) ++ " \x7d"

def Registry.describe (r : Registry) : String :=
  describeParts "Registry" [("tokens", shownList r.tokens), ("defaults", shownOption r.defaults)]

def Enabled.describe (e : Enabled) : String := shownSet e.tokens

def Context.describe (ctx : Context) : String :=
  describeParts "FilterContext"
    [("registry", ctx.registry.describe), ("key", shown ctx.key),
      ("source", toString ctx.source.isSome)]

end QueryFilter
