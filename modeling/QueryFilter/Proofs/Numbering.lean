import QueryFilter.Statement.Select

/-!
# Statements by their conditions

The conditions of a query are numbered as one list. `build_eq` reads a statement off that list: its
text is the text of the numbered conditions, its parameters are their operands before numbering, and
`numbered_operands` says that the numbers are those from one on, in order. A condition `Fits` a
dialect if that has its comparisons and its form of sets; those of clauses do (`condition_fits`).
-/

namespace QueryFilter

/-! ## Forms that a dialect has -/

section Fitting

variable {α : Type}

def Test.Fits (d : Dialect) : Test α → Prop
  | .compare op _ => op = .ilike → d = .postgres
  | .null _ => True

def Predicate.Fits (d : Dialect) : Predicate α → Prop
  | .test t => t.Fits d
  | .anyOf t u rest => ∀ v ∈ t :: u :: rest, v.Fits d
  | .between _ _ => True
  | .inArray _ _ => d = .postgres
  | .inList members _ => d = .sqlite ∧ members ≠ []

def Condition.Fits (d : Dialect) : Condition α → Prop
  | .noRows => True
  | .allRows => True
  | .on _ predicate => predicate.Fits d

theorem Test.number_fits {d : Dialect} (t : Test α) (fits : t.Fits d) (k : Nat) :
    (t.number k).1.Fits d := by
  cases t with
  | compare op operand => exact fits
  | null negated => trivial

theorem Predicate.number_fits {d : Dialect} (p : Predicate α) (fits : p.Fits d) (k : Nat) :
    (p.number k).1.Fits d := by
  cases p with
  | test t => exact t.number_fits fits k
  | anyOf t u rest =>
      intro v member
      -- The tests of a group are numbered as one list.
      change v ∈ (numberEach Test.number (t :: u :: rest) k).1 at member
      obtain ⟨w, inGroup, j, rfl⟩ := mem_numberEach member
      exact w.number_fits (fits w inGroup) j
  | between low high => trivial
  | inArray set negated => exact fits
  | inList members negated =>
      refine ⟨fits.1, fun empty => fits.2 ?_⟩
      have length := length_numberEach (numberOne (α := α)) members k
      change (numberEach numberOne members k).1 = [] at empty
      rw [empty] at length
      exact List.eq_nil_of_length_eq_zero length.symm

theorem Condition.number_fits {d : Dialect} (c : Condition α) (fits : c.Fits d) (k : Nat) :
    (c.number k).1.Fits d := by
  cases c with
  | noRows => trivial
  | allRows => trivial
  | on column predicate => exact predicate.number_fits fits k

end Fitting

theorem Dialect.test_fits (d : Dialect) (op : Comparison) (value : Value) :
    (d.test op value).Fits d := by
  have compared : ∀ v : Value, (Test.compare (d.comparison op) v).Fits d := by
    intro v ilike
    cases d with
    | postgres => rfl
    | sqlite => cases op <;> cases ilike
  unfold Dialect.test
  split
  · trivial
  · trivial
  · exact compared value

theorem Clause.condition_fits (d : Dialect) (c : Clause) : (c.condition d).Fits d := by
  unfold Clause.condition
  split
  · cases c with
    | compare name op value => exact d.test_fits op value
    | any name op values =>
        cases values with
        | nil => trivial
        | cons v rest =>
            cases rest with
            | nil => exact d.test_fits op v
            | cons w rest =>
                intro t member
                change t ∈ (v :: w :: rest).map (d.test op) at member
                obtain ⟨x, -, rfl⟩ := List.mem_map.1 member
                exact d.test_fits op x
    | member name values negated =>
        cases values with
        | nil => cases negated <;> trivial
        | cons v rest =>
            cases d with
            | postgres => rfl
            | sqlite => exact ⟨rfl, List.cons_ne_nil v rest⟩
    | null name negated => trivial
    | between name low high => trivial
  · trivial

/-! ## Conditions of queries -/

theorem Clause.fragment_eq (d : Dialect) (c : Clause) (k : Nat) :
    c.fragment d k = ⟨((c.condition d).number k).1.text d, (c.condition d).operands,
      ((c.condition d).number k).2⟩ := rfl

namespace Select

def numbered (cs : List (Condition Value)) (k : Nat) : List (Condition Nat) :=
  (numberEach Condition.number cs k).1

def conditions (q : Select) : List (Condition Value) :=
  q.clauses.map (Clause.condition q.dialect)

theorem fragments_sql (d : Dialect) (cs : List Clause) (k : Nat) :
    (fragments d cs k).map Fragment.sql =
      (numbered (cs.map (Clause.condition d)) k).map (Condition.text d) := by
  induction cs generalizing k with
  | nil => rfl
  | cons c rest ih =>
      rw [fragments, List.map_cons, ih]
      rfl

theorem fragments_params (d : Dialect) (cs : List Clause) (k : Nat) :
    (fragments d cs k).flatMap Fragment.params =
      (cs.map (Clause.condition d)).flatMap Condition.operands := by
  induction cs generalizing k with
  | nil => rfl
  | cons c rest ih =>
      rw [fragments, List.flatMap_cons, ih]
      rfl

theorem numbered_operands (cs : List (Condition Value)) (k : Nat) :
    (numbered cs k).flatMap Condition.operands =
      List.range' k (cs.flatMap Condition.operands).length :=
  (numberEach_operands Condition.number_operands cs k).1

theorem numbered_fits (d : Dialect) (cs : List Clause) (k : Nat) :
    ∀ c ∈ numbered (cs.map (Clause.condition d)) k, c.Fits d := by
  intro c member
  obtain ⟨condition, inList, j, rfl⟩ := mem_numberEach member
  obtain ⟨clause, -, rfl⟩ := List.mem_map.1 inList
  exact Condition.number_fits _ (clause.condition_fits d) j

theorem build_eq (q : Select) :
    q.build = ⟨q.headText ++ whereText ((numbered q.conditions 1).map (Condition.text q.dialect)),
      q.conditions.flatMap Condition.operands⟩ := by
  rw [conditions, ← fragments_sql, ← fragments_params _ _ 1]
  rfl

end Select
end QueryFilter
