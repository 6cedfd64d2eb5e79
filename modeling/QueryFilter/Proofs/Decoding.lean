import QueryFilter.Proofs.Reading

/-!
# Decoding statements

A statement and its parameters say what the clauses of the query mean, and no more. The meaning of a
clause (`Clause.meaning`) is the clause itself but for the few that a statement cannot tell apart.
It stands between clauses and conditions: a condition has the meaning of its clause
(`condition_meaning`), and the meaning of a clause has its condition (`meaning_condition`).
`decode?` reads the conditions of a statement and puts the parameters back in.
-/

namespace QueryFilter
open Scanning Reading

/-! ## Operands put back -/

section Filling

variable {α β : Type} (f : α → β)

def Test.map : Test α → Test β
  | .compare op operand => .compare op (f operand)
  | .null negated => .null negated

def Predicate.map : Predicate α → Predicate β
  | .test t => .test (t.map f)
  | .anyOf t u rest => .anyOf (t.map f) (u.map f) (rest.map (Test.map f))
  | .between low high => .between (f low) (f high)
  | .inArray set negated => .inArray (f set) negated
  | .inList members negated => .inList (members.map f) negated

def Condition.map : Condition α → Condition β
  | .noRows => .noRows
  | .allRows => .allRows
  | .on column predicate => .on column (predicate.map f)

end Filling

section Numbered

variable {α : Type} {f : Nat → α}

theorem Test.number_map (t : Test α) (k : Nat)
    (values : (List.range' k t.operands.length).map f = t.operands) :
    (t.number k).1.map f = t := by
  cases t with
  | compare op operand => exact congrArg (Test.compare op) (List.cons.inj values).1
  | null negated => rfl

theorem numberEach_map {γ δ : Type} {number : γ → Nat → δ × Nat} {operands : γ → List α}
    {fill : δ → γ} (counts : ∀ x k, (number x k).2 = k + (operands x).length)
    (each : ∀ x k, (List.range' k (operands x).length).map f = operands x →
      fill (number x k).1 = x)
    (xs : List γ) (k : Nat)
    (values : (List.range' k (xs.flatMap operands).length).map f = xs.flatMap operands) :
    (numberEach number xs k).1.map fill = xs := by
  induction xs generalizing k with
  | nil => rfl
  | cons x rest ih =>
      rw [List.flatMap_cons, List.length_append, ← List.range'_append_1, List.map_append] at values
      have lengths : ((List.range' k (operands x).length).map f).length = (operands x).length := by
        rw [List.length_map, List.length_range']
      obtain ⟨first, others⟩ := List.append_inj values lengths
      rw [numberEach, List.map_cons, each x k first, counts, ih _ others]

theorem Predicate.number_map (p : Predicate α) (k : Nat)
    (values : (List.range' k p.operands.length).map f = p.operands) :
    (p.number k).1.map f = p := by
  cases p with
  | test t => exact congrArg Predicate.test (t.number_map k values)
  | anyOf t u rest =>
      have tests := numberEach_map (fun (v : Test α) j => (v.number_operands j).2)
        (fun v j => v.number_map j) (t :: u :: rest) k values
      injection tests with first tests
      injection tests with second others
      change Predicate.anyOf _ _ _ = _
      rw [first, second, others]
  | between low high =>
      injection values with first values
      injection values with second
      exact congrArg₂ Predicate.between first second
  | inArray set negated => exact congrArg (Predicate.inArray · negated) (List.cons.inj values).1
  | inList members negated =>
      change Predicate.inList ((numberEach numberOne members k).1.map f) negated = _
      rw [numberEach_numberOne]
      exact congrArg (Predicate.inList · negated) values

theorem Condition.number_map (c : Condition α) (k : Nat)
    (values : (List.range' k c.operands.length).map f = c.operands) :
    (c.number k).1.map f = c := by
  cases c with
  | noRows => rfl
  | allRows => rfl
  | on column predicate => exact congrArg (Condition.on column) (predicate.number_map k values)

end Numbered

def valueAt (params : List Value) (k : Nat) : Value := params.getD (k - 1) .null

theorem map_valueAt (params : List Value) :
    (List.range' 1 params.length).map (valueAt params) = params := by
  apply List.ext_getElem
  · rw [List.length_map, List.length_range']
  · intro i _ bound
    rw [List.getElem_map, List.getElem_range', valueAt, Nat.one_mul, Nat.add_sub_cancel_left,
      List.getD_eq_getElem?_getD, List.getElem?_eq_getElem bound, Option.getD_some]

theorem Select.numbered_map (cs : List (Condition Value)) :
    (Select.numbered cs 1).map (Condition.map (valueAt (cs.flatMap Condition.operands))) = cs :=
  numberEach_map (fun c k => (Condition.number_operands c k).2) Condition.number_map cs 1
    (map_valueAt _)

/-! ## Meanings

No row meets a clause whose column is no identifier, and no value is one of none. One value is
compared with as it is, and a comparison with null is the test for null. -/

/-- What a statement says in the place of a clause. -/
inductive Meaning where
  | noRows
  | allRows
  | clause (c : Clause)
  deriving DecidableEq

namespace Meaning

/-- The comparison that a statement cannot tell from this one. -/
def sameAs : Dialect → Comparison → Comparison
  | .sqlite, .ilike => .like
  | _, op => op

def compare (d : Dialect) (column : String) : Comparison → Value → Meaning
  | .eq, .null => .clause (.null column false)
  | .ne, .null => .clause (.null column true)
  | op, value => .clause (.compare column (sameAs d op) value)

def any (d : Dialect) (column : String) (op : Comparison) : List Value → Meaning
  | [] => .noRows
  | [value] => compare d column op value
  | values => .clause (.any column (sameAs d op) values)

def member (column : String) : List Value → Bool → Meaning
  | [], false => .noRows
  | [], true => .allRows
  | values, negated => .clause (.member column values negated)

end Meaning

def Clause.meaning (d : Dialect) (c : Clause) : Meaning :=
  if isIdentifier c.column = true then
    match c with
    | .compare column op value => .compare d column op value
    | .any column op values => .any d column op values
    | .member column values negated => .member column values negated
    | .null column negated => .clause (.null column negated)
    | .between column low high => .clause (.between column low high)
  else .noRows

def Test.parts : Test Value → Comparison × Value
  | .compare op value => (op, value)
  | .null false => (.eq, .null)
  | .null true => (.ne, .null)

def Value.items : Value → List Value
  | .array items => items
  | _ => []

def Predicate.meaning (column : String) : Predicate Value → Clause
  | .test (.compare op value) => .compare column op value
  | .test (.null negated) => .null column negated
  | .anyOf t u rest => .any column t.parts.1 ((t :: u :: rest).map fun v => v.parts.2)
  | .between low high => .between column low high
  | .inArray set negated => .member column set.items negated
  | .inList members negated => .member column members negated

def Condition.meaning : Condition Value → Meaning
  | .noRows => .noRows
  | .allRows => .allRows
  | .on column predicate => .clause (predicate.meaning column.text)

def Meaning.condition (d : Dialect) : Meaning → Condition Value
  | .noRows => .noRows
  | .allRows => .allRows
  | .clause c => c.condition d

theorem Dialect.test_sameAs (d : Dialect) (op : Comparison) (value : Value) :
    d.test (Meaning.sameAs d op) value = d.test op value := by
  cases value <;> cases d <;> cases op <;> rfl

theorem Dialect.test_parts (d : Dialect) (op : Comparison) (value : Value) :
    (d.test op value).parts = (Meaning.sameAs d op, value) := by
  cases value <;> cases d <;> cases op <;> rfl

theorem Dialect.test_meaning (d : Dialect) (column : String) (op : Comparison) (value : Value) :
    .clause ((Predicate.test (d.test op value)).meaning column) =
      Meaning.compare d column op value := by
  cases value <;> cases d <;> cases op <;> rfl

theorem Clause.conditionOn_meaning (d : Dialect) (c : Clause)
    (valid : isIdentifier c.column = true) :
    (c.conditionOn d ⟨c.column, valid⟩).meaning = c.meaning d := by
  unfold Clause.meaning
  rw [if_pos valid]
  cases c with
  | compare column op value => exact d.test_meaning column op value
  | any column op values =>
      match values with
      | [] => rfl
      | [value] => exact d.test_meaning column op value
      | v :: w :: rest =>
          have values : ((v :: w :: rest).map (d.test op)).map (fun t => t.parts.2) =
              v :: w :: rest := by
            rw [List.map_map]
            exact List.map_id'' (fun x => congrArg Prod.snd (d.test_parts op x)) _
          have comparison := congrArg Prod.fst (d.test_parts op v)
          change Meaning.clause (.any column (d.test op v).parts.1
            (((v :: w :: rest).map (d.test op)).map fun t => t.parts.2)) = _
          rw [values, comparison]
          rfl
  | member column values negated =>
      cases values with
      | nil => cases negated <;> rfl
      | cons v rest => cases d <;> rfl
  | null column negated => rfl
  | between column low high => rfl

theorem Clause.condition_meaning (d : Dialect) (c : Clause) :
    (c.condition d).meaning = c.meaning d := by
  unfold Clause.condition
  split
  · rename_i valid
    exact c.conditionOn_meaning d valid
  · rename_i invalid
    unfold Clause.meaning
    rw [if_neg invalid]
    rfl

theorem Clause.condition_of_valid (d : Dialect) (c : Clause)
    (valid : isIdentifier c.column = true) :
    c.condition d = c.conditionOn d ⟨c.column, valid⟩ := dif_pos valid

theorem Meaning.compare_condition (d : Dialect) {column : String} (op : Comparison) (value : Value)
    (valid : isIdentifier column = true) :
    (compare d column op value).condition d = .on ⟨column, valid⟩ (.test (d.test op value)) := by
  unfold compare
  split
  · exact Clause.condition_of_valid d (.null column false) valid
  · exact Clause.condition_of_valid d (.null column true) valid
  · rw [← d.test_sameAs op value]
    exact Clause.condition_of_valid d (.compare column (sameAs d op) value) valid

theorem Meaning.any_condition (d : Dialect) {column : String} (op : Comparison)
    (values : List Value) (valid : isIdentifier column = true) :
    (any d column op values).condition d = (Clause.any column op values).conditionOn d
      ⟨column, valid⟩ := by
  match values with
  | [] => rfl
  | [value] => exact compare_condition d op value valid
  | v :: w :: rest =>
      have tests : (v :: w :: rest).map (d.test (sameAs d op)) =
          (v :: w :: rest).map (d.test op) :=
        List.map_congr_left fun x _ => d.test_sameAs op x
      have group := Clause.condition_of_valid d (.any column (sameAs d op) (v :: w :: rest)) valid
      refine group.trans ?_
      unfold Clause.conditionOn
      simp only [tests]
      rfl

theorem Clause.meaning_condition (d : Dialect) (c : Clause) :
    (c.meaning d).condition d = c.condition d := by
  by_cases valid : isIdentifier c.column = true
  · rw [condition_of_valid d c valid]
    unfold Clause.meaning
    rw [if_pos valid]
    cases c with
    | compare column op value => exact Meaning.compare_condition d op value valid
    | any column op values => exact Meaning.any_condition d op values valid
    | member column values negated =>
        cases values with
        | nil => cases negated <;> rfl
        | cons v rest => exact condition_of_valid d (.member column (v :: rest) negated) valid
    | null column negated => exact condition_of_valid d (.null column negated) valid
    | between column low high => exact condition_of_valid d (.between column low high) valid
  · unfold Clause.meaning Clause.condition
    rw [if_neg valid, dif_neg valid]
    rfl

/-! ## Statements decoded -/

def Statement.decode? (d : Dialect) (s : Statement) : Option (Outline Meaning) :=
  (readStatement d (words s.sql)).map fun outline =>
    { table := outline.table
      fields := outline.fields
      conditions := outline.conditions.map fun c => (c.map (valueAt s.params)).meaning }

theorem Select.decode_build (q : Select) :
    q.build.decode? q.dialect =
      some ⟨q.table, q.fields, q.clauses.map (Clause.meaning q.dialect)⟩ := by
  have filled := Select.numbered_map q.conditions
  have meanings : q.conditions.map Condition.meaning =
      q.clauses.map (Clause.meaning q.dialect) := by
    rw [Select.conditions, List.map_map]
    exact List.map_congr_left fun c _ => c.condition_meaning q.dialect
  have params : q.build.params = q.conditions.flatMap Condition.operands := by
    rw [Select.build_eq]
  rw [Statement.decode?, readStatement_words, Option.map_some, params, ← meanings]
  conv_rhs => rw [← filled, List.map_map]
  rfl

theorem Select.build_of_meanings {q r : Select} (dialect : q.dialect = r.dialect)
    (table : q.table = r.table) (fields : q.fields = r.fields)
    (clauses : q.clauses.map (Clause.meaning q.dialect) =
      r.clauses.map (Clause.meaning q.dialect)) : q.build = r.build := by
  have of_meanings : ∀ cs : List Clause, cs.map (Clause.condition q.dialect) =
      (cs.map (Clause.meaning q.dialect)).map (Meaning.condition q.dialect) := by
    intro cs
    rw [List.map_map]
    exact List.map_congr_left fun c _ => (c.meaning_condition q.dialect).symm
  have conditions : q.conditions = r.conditions := by
    rw [Select.conditions, Select.conditions, ← dialect, of_meanings, clauses, ← of_meanings]
  have head : q.headText = r.headText := by
    rw [Select.headText, Select.headText, table, fields]
  rw [Select.build_eq, Select.build_eq, conditions, head, dialect]

/-- The table, the select list and what the clauses mean can be read off a statement, and two
queries have one statement only if they agree in these. -/
theorem Select.build_loses_no_filter (q r : Select) (dialect : q.dialect = r.dialect) :
    q.build.decode? q.dialect =
        some ⟨q.table, q.fields, q.clauses.map (Clause.meaning q.dialect)⟩ ∧
      (q.build = r.build ↔ q.table = r.table ∧ q.fields = r.fields ∧
        q.clauses.map (Clause.meaning q.dialect) = r.clauses.map (Clause.meaning q.dialect)) := by
  refine ⟨q.decode_build, ?_, ?_⟩
  · intro same
    have decoded := q.decode_build
    rw [same, dialect, r.decode_build] at decoded
    injection decoded with outline
    injection outline with table fields clauses
    exact ⟨table.symm, fields.symm, by rw [dialect, clauses]⟩
  · rintro ⟨table, fields, clauses⟩
    exact build_of_meanings dialect table fields clauses

def Select.ofWords (clauses : List Clause) : Select where
  dialect := .sqlite
  table := ⟨"WHERE", by decide⟩
  fields := [⟨"FROM", by decide⟩, ⟨"SELECT", by decide⟩]
  clauses := clauses

theorem Select.build_loses_no_filter_words :
    (ofWords [.any "AND" .eq [.int 1], .compare "LIKE" .ilike .null, .member "NULL" [] false,
        .compare "BETWEEN" .ne .null]).build =
      (ofWords [.compare "AND" .eq (.int 1), .compare "LIKE" .like .null, .any "no name" .gt [],
        .null "BETWEEN" true]).build :=
  (build_loses_no_filter _ _ rfl).2.2 ⟨rfl, rfl, by decide⟩

end QueryFilter
