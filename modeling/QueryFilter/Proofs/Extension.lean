import QueryFilter.Proofs.Filtering
import QueryFilter.Proofs.Renumbering

/-!
# Statements with more clauses

The text of a clause depends on the clauses before it through one number only, the first placeholder
that they leave (`fragments_moved`). So clauses added to a query come behind its statement, as they
are written alone but for their numbers (`sql_add`, `params_add`), and what was there stays. Queries
that calls of the filter make one from another (`Select.Filtered`) each begin with the statement
before them (`extension_law`).
-/

namespace QueryFilter
namespace Select

/-! ## Added clauses -/

/-- The query with these clauses and no others. -/
def holding (q : Select) (cs : List Clause) : Select := { q with clauses := cs }

def joiner (earlier : List Clause) : String := if earlier = [] then " WHERE " else " AND "

theorem fragments_moved (d : Dialect) (cs : List Clause) (k n : Nat) :
    (fragments d cs (k + n)).map Fragment.sql =
      ((fragments d cs k).map Fragment.sql).map (renumbered d d (· + n)) := by
  induction cs generalizing k with
  | nil => rfl
  | cons c rest ih =>
      have text : renumbered d d (· + n) (c.fragment d k).sql = (c.fragment d (k + n)).sql :=
        text_renumbered d (c.condition d) d (range'_moved k n)
      have next : (c.fragment d (k + n)).next = (c.fragment d k).next + n := by
        rw [Clause.fragment_next, Clause.fragment_next, Nat.add_right_comm]
        rfl
      simp only [fragments, List.map_cons, text, next, ih]

theorem whereText_append (xs : List String) {ys : List String} (more : ys ≠ []) :
    whereText (xs ++ ys) =
      whereText xs ++ ((if xs = [] then " WHERE " else " AND ") ++ " AND ".intercalate ys) := by
  obtain ⟨y, ys, rfl⟩ := List.exists_cons_of_ne_nil more
  cases xs with
  | nil => simp [whereText]
  | cons x xs =>
      have joined := String.intercalate_append_of_ne_nil (s := " AND ") (List.cons_ne_nil x xs) more
      rw [if_neg (List.cons_ne_nil x xs)]
      change " WHERE " ++ " AND ".intercalate ((x :: xs) ++ (y :: ys)) =
        " WHERE " ++ " AND ".intercalate (x :: xs) ++ _
      simp only [joined, String.append_assoc]

theorem fragments_eq_nil {d : Dialect} {cs : List Clause} {k : Nat} :
    fragments d cs k = [] ↔ cs = [] := by
  cases cs <;> simp [fragments]

/-- What added clauses bring into the text. -/
def addedText (q : Select) (cs : List Clause) : String :=
  if cs = [] then ""
  else joiner q.clauses ++ " AND ".intercalate (((fragments q.dialect cs 1).map Fragment.sql).map
    (renumbered q.dialect q.dialect (· + q.build.params.length)))

theorem params_add (q : Select) (cs : List Clause) :
    (q.add cs).build.params = q.build.params ++ (q.holding cs).build.params := by
  simp [build_eq, conditions, add, holding]

theorem sql_add (q : Select) (cs : List Clause) :
    (q.add cs).build.sql = q.build.sql ++ q.addedText cs := by
  unfold addedText
  by_cases none : cs = []
  · rw [if_pos none, none, add_nil, String.append_empty]
  · have parts : (fragments q.dialect (q.clauses ++ cs) 1).map Fragment.sql =
        (fragments q.dialect q.clauses 1).map Fragment.sql ++
          ((fragments q.dialect cs 1).map Fragment.sql).map
            (renumbered q.dialect q.dialect (· + q.build.params.length)) := by
      rw [fragments_append, List.map_append, ← fragments_moved]
      rfl
    have more : ((fragments q.dialect cs 1).map Fragment.sql).map
        (renumbered q.dialect q.dialect (· + q.build.params.length)) ≠ [] := by
      simpa [fragments_eq_nil] using none
    change q.headText ++ whereText ((fragments q.dialect (q.clauses ++ cs) 1).map Fragment.sql) =
      q.headText ++ whereText ((fragments q.dialect q.clauses 1).map Fragment.sql) ++ _
    rw [parts, whereText_append _ more, if_neg none, String.append_assoc]
    simp only [List.map_eq_nil_iff, fragments_eq_nil, joiner]

/-! ## Filter calls in turn -/

/-- The queries that calls of the filter make from one, each from the one before it. -/
inductive Filtered (q : Select) : Select → Prop where
  | unfiltered : Filtered q q
  | call {q' q'' : Select} {ctx : Context} {allowed : Option (List String)} {given : Option Spec}
      (before : Filtered q q') (accepted : ctx.filter allowed q' given = .ok q'') :
      Filtered q q''

theorem Filtered.added {q q' : Select} (filtered : q.Filtered q') : ∃ cs, q' = q.add cs := by
  induction filtered with
  | unfiltered => exact ⟨[], q.add_nil.symm⟩
  | call before accepted ih =>
      obtain ⟨cs, rfl⟩ := ih
      cases Context.filter_run.1 accepted with
      | @accepted _ _ ds list source run => exact ⟨cs ++ ds, q.add_add cs ds⟩

/-- Added clauses come behind the statement as it was. Their parameters are those that they have
alone, and so is their text, with each number higher by the number of parameters before them. -/
theorem extension_law (q : Select) :
    (∀ cs : List Clause,
      let texts := (fragments q.dialect cs 1).map Fragment.sql
      let n := q.build.params.length
      (q.holding cs).build.sql = q.headText ++ whereText texts ∧
      (q.add cs).build.params = q.build.params ++ (q.holding cs).build.params ∧
      (q.add cs).build.sql = q.build.sql ++ (if cs = [] then "" else
        (if q.clauses = [] then " WHERE " else " AND ") ++
          " AND ".intercalate (texts.map (renumbered q.dialect q.dialect (· + n))))) ∧
    ∀ r, q.Filtered r →
      q.build.sql.toList <+: r.build.sql.toList ∧ q.build.params <+: r.build.params := by
  constructor
  · exact fun cs => ⟨rfl, q.params_add cs, q.sql_add cs⟩
  · intro r filtered
    obtain ⟨cs, rfl⟩ := filtered.added
    rw [sql_add, params_add, String.toList_append]
    exact ⟨List.prefix_append _ _, List.prefix_append _ _⟩

theorem extension_law_chain :
    let q : Select := { dialect := .postgres, table := ⟨"users", by decide⟩ }
    let ctx : Context := { registry := .builtin }
    let call (q : Select) (fields : Fields Json) := ctx.filter none q (some (.ofFields fields))
    ∃ r s, call q [("age", .object [("$between", .array [.integer 18, .integer 65])])] = .ok r ∧
      call r [("id", .object [("$in", .array [.integer 4, .integer 7])]), ("no name", .null),
        ("state", .string "open")] = .ok s ∧
      r.build.sql.toList <+: s.build.sql.toList ∧ r.build.params <+: s.build.params ∧
      s.build.sql = "SELECT * FROM users WHERE age BETWEEN $1 AND $2 AND id = ANY($3) AND 1=0" ++
        " AND state = $4" := by
  intro q ctx call
  obtain ⟨r, first⟩ : ∃ r, call q [("age", .object [("$between", .array [.integer 18,
    .integer 65])])] = .ok r := ⟨_, rfl⟩
  obtain ⟨s, second⟩ : ∃ s, call r [("id", .object [("$in", .array [.integer 4, .integer 7])]),
    ("no name", .null), ("state", .string "open")] = .ok s := ⟨_, rfl⟩
  obtain ⟨text, params⟩ := (extension_law r).2 s (.call .unfiltered second)
  refine ⟨r, s, first, second, text, params, ?_⟩
  cases first
  cases second
  decide

end Select
end QueryFilter
