import QueryFilter.Statement.Condition

/-!
# Queries and their statements

A `Select` is a table, a select list and the clauses recorded so far. Clauses are only ever added at
the end (`Select.add`). `Select.build` writes the statement: conditions in the order of the clauses,
placeholders from one on, and the values they stand for.
-/

namespace QueryFilter

structure Select where
  dialect : Dialect
  table : Identifier
  /-- The selected fields; an empty list selects all. -/
  fields : List Identifier := []
  clauses : List Clause := []
  deriving DecidableEq

/-- A text and the values of its placeholders, the first value for placeholder one. -/
structure Statement where
  sql : String
  params : List Value
  deriving DecidableEq

namespace Select

def on (d : Dialect) (table : String) : Except NameError Select := do
  return { dialect := d, table := ← Identifier.ofString .table table }

/-- Replaces the select list; the first name that is no identifier is refused. -/
def selecting (q : Select) (names : List String) : Except NameError Select := do
  return { q with fields := ← names.mapM (Identifier.ofString .field) }

def add (q : Select) (clauses : List Clause) : Select :=
  { q with clauses := q.clauses ++ clauses }

/-! ## Text -/

def fragments (d : Dialect) : List Clause → Nat → List Fragment
  | [], _ => []
  | c :: rest, start =>
    let f := c.fragment d start
    f :: fragments d rest f.next

def listText : List Identifier → String
  | [] => "*"
  | names => ", ".intercalate (names.map Identifier.text)

def headText (q : Select) : String :=
  "SELECT " ++ listText q.fields ++ " FROM " ++ q.table.text

def whereText : List String → String
  | [] => ""
  | conditions => " WHERE " ++ " AND ".intercalate conditions

def build (q : Select) : Statement :=
  let parts := fragments q.dialect q.clauses 1
  ⟨q.headText ++ whereText (parts.map Fragment.sql), parts.flatMap Fragment.params⟩

/-! ## Lemmas -/

@[simp] theorem add_nil (q : Select) : q.add [] = q := by simp [add]

@[simp] theorem add_add (q : Select) (cs ds : List Clause) :
    (q.add cs).add ds = q.add (cs ++ ds) := by
  simp [add]

/-- The placeholders of later clauses follow those of the clauses before them. -/
theorem fragments_append (d : Dialect) (cs ds : List Clause) (k : Nat) :
    fragments d (cs ++ ds) k =
      fragments d cs k ++
        fragments d ds (k + ((fragments d cs k).flatMap Fragment.params).length) := by
  induction cs generalizing k with
  | nil => rfl
  | cons c rest ih =>
    simp only [List.cons_append, fragments, ih, List.flatMap_cons, List.length_append,
      Clause.fragment_next, Nat.add_assoc]

end Select
end QueryFilter
