import QueryFilter.Operator.Clauses
import QueryFilter.Statement.Select

/-!
# What operators record

An operator `Accepts` values by their number and their kinds, and `Records` clauses of them, all on
the column that it is asked for. `clauses_settled` says that it records all that it accepts, and
that what it does not accept is a fault of the column. `operator_law` says so of a query, which gets
all the clauses of an operator or none.
-/

namespace QueryFilter
namespace Operator

def Accepts (op : Operator) (values : List Value) : Prop :=
  match op with
  | .eq | .ne | .isIn | .notIn => values ≠ []
  | .gt | .gte | .lt | .lte => values ≠ [] ∧ .null ∉ values
  | .like | .ilike | .startsWith | .endsWith | .contains =>
    values ≠ [] ∧ ∀ v ∈ values, ∃ text, v = .string text
  | .between => values.length = 2
  | .null | .notNull => ∃ flag, values = [.bool flag]

/-- The comparison of an operator that compares with each of its values on its own. -/
def comparison? : Operator → Option Comparison
  | .ne => some .ne
  | .gt => some .gt
  | .gte => some .gte
  | .lt => some .lt
  | .lte => some .lte
  | .like => some .like
  | .ilike => some .ilike
  | .startsWith => some .startsWith
  | .endsWith => some .endsWith
  | .contains => some .contains
  | .eq | .isIn | .notIn | .between | .null | .notNull => none

/-- What an operator records on a column, of values that it accepts. -/
inductive Records (column : String) : Operator → List Value → List Clause → Prop where
  | equal (v : Value) : Records column .eq [v] [.compare column .eq v]
  | equalAny {values : List Value} (several : values.length ≠ 1) :
      Records column .eq values [.any column .eq values]
  | each {op : Operator} {cmp : Comparison} (own : op.comparison? = some cmp)
      (values : List Value) : Records column op values (values.map (.compare column cmp))
  | isIn (values : List Value) : Records column .isIn values [.member column values false]
  | notIn (values : List Value) : Records column .notIn values [.member column values true]
  | between (low high : Value) :
      Records column .between [low, high] [.between column low high]
  | null (flag : Bool) : Records column .null [.bool flag] [.null column (!flag)]
  | notNull {flag : Bool} {cs : List Clause} (opposite : Records column .null [.bool (!flag)] cs) :
      Records column .notNull [.bool flag] cs

/-! ## The ways of recording -/

/-- What is accepted is recorded; what is not is refused for a fault of the column. -/
inductive Settled (column : String) (accepts : Prop) (records : List Clause → Prop)
    (result : Except FilterError (List Clause)) : Prop where
  | recorded {cs : List Clause} (accepted : accepts) (made : records cs) (ok : result = .ok cs)
  | refused {cause : ShapeFault} (rejected : ¬ accepts) (error : result = refuse column cause)

theorem Settled.imp {column : String} {accepts : Prop}
    {records records' : List Clause → Prop} {result : Except FilterError (List Clause)}
    (settled : Settled column accepts records result) (more : ∀ cs, records cs → records' cs) :
    Settled column accepts records' result := by
  cases settled with
  | recorded accepted made ok => exact .recorded accepted (more _ made) ok
  | refused rejected error => exact .refused rejected error

section Ways

variable (op : Operator) (cmp : Comparison) (column : String) (values : List Value)

theorem each_settled : Settled column (values ≠ []) (· = values.map (.compare column cmp))
    (op.each cmp column values) := by
  unfold each
  split
  · rename_i empty
    exact .refused (fun some => some empty) rfl
  · rename_i some
    exact .recorded some rfl rfl

theorem eachOrdered_settled : Settled column (values ≠ [] ∧ .null ∉ values)
    (· = values.map (.compare column cmp)) (op.eachOrdered cmp column values) := by
  have null : values.any Value.isNull = true ↔ .null ∈ values := by
    rw [List.any_eq_true]
    constructor
    · rintro ⟨v, member, isNull⟩
      cases v with
      | null => exact member
      | _ => cases isNull
    · exact fun member => ⟨.null, member, rfl⟩
  unfold eachOrdered
  split
  · rename_i found
    exact .refused (fun accepted => accepted.2 (null.1 found)) rfl
  · rename_i absent
    cases each_settled op cmp column values with
    | recorded some made ok => exact .recorded ⟨some, fun found => absent (null.2 found)⟩ made ok
    | refused empty error => exact .refused (fun accepted => empty accepted.1) error

theorem eachPattern_settled : Settled column
    (values ≠ [] ∧ ∀ v ∈ values, ∃ text, v = .string text) (· = values.map (.compare column cmp))
    (op.eachPattern cmp column values) := by
  have text (v : Value) : v.isString = true ↔ ∃ text, v = .string text := by
    cases v <;> simp [Value.isString]
  unfold eachPattern
  split
  · rename_i v found
    have other := List.find?_some found
    refine .refused (fun accepted => ?_) rfl
    rw [(text v).2 (accepted.2 v (List.mem_of_find?_eq_some found))] at other
    cases other
  · rename_i absent
    have texts : ∀ v ∈ values, ∃ text, v = .string text := fun v member =>
      (text v).1 (by simpa using List.find?_eq_none.1 absent v member)
    cases each_settled op cmp column values with
    | recorded some made ok => exact .recorded ⟨some, texts⟩ made ok
    | refused empty error => exact .refused (fun accepted => empty accepted.1) error

theorem set_settled (negated : Bool) : Settled column (values ≠ [])
    (· = [.member column values negated]) (op.set column values negated) := by
  unfold set
  split
  · rename_i empty
    exact .refused (fun some => some empty) rfl
  · rename_i some
    exact .recorded some rfl rfl

theorem nullTest_settled (opposite : Bool) : Settled column (∃ flag, values = [.bool flag])
    (fun cs => ∃ flag, values = [.bool flag] ∧ cs = [.null column (flag == opposite)])
    (op.nullTest column values opposite) := by
  unfold nullTest
  split
  · rename_i flag
    exact .recorded ⟨flag, rfl⟩ ⟨flag, rfl, rfl⟩ rfl
  · rename_i other
    exact .refused (fun ⟨flag, same⟩ => other flag same) rfl

theorem clauses_settled : Settled column (op.Accepts values) (Records column op values)
    (op.clauses column values) := by
  have each {op : Operator} {cmp : Comparison} (own : op.comparison? = some cmp) :
      ∀ cs, cs = values.map (.compare column cmp) → Records column op values cs := by
    rintro _ rfl
    exact .each own values
  cases op with
  | eq =>
      match values with
      | [] => exact .refused (fun some => some rfl) rfl
      | [v] => exact .recorded (List.cons_ne_nil v []) (.equal v) rfl
      | v :: w :: rest => exact .recorded (List.cons_ne_nil v _) (.equalAny (by simp)) rfl
  | ne => exact (each_settled _ _ column values).imp (each rfl)
  | gt => exact (eachOrdered_settled _ _ column values).imp (each rfl)
  | gte => exact (eachOrdered_settled _ _ column values).imp (each rfl)
  | lt => exact (eachOrdered_settled _ _ column values).imp (each rfl)
  | lte => exact (eachOrdered_settled _ _ column values).imp (each rfl)
  | isIn => exact (set_settled _ column values _).imp fun _ made => made ▸ .isIn values
  | notIn => exact (set_settled _ column values _).imp fun _ made => made ▸ .notIn values
  | like => exact (eachPattern_settled _ _ column values).imp (each rfl)
  | ilike => exact (eachPattern_settled _ _ column values).imp (each rfl)
  | startsWith => exact (eachPattern_settled _ _ column values).imp (each rfl)
  | endsWith => exact (eachPattern_settled _ _ column values).imp (each rfl)
  | contains => exact (eachPattern_settled _ _ column values).imp (each rfl)
  | between =>
      match values with
      | [low, high] => exact .recorded rfl (.between low high) rfl
      | [] => exact .refused nofun rfl
      | [_] => exact .refused nofun rfl
      | _ :: _ :: _ :: _ => exact .refused nofun rfl
  | null =>
      refine (nullTest_settled _ column values _).imp ?_
      rintro _ ⟨flag, rfl, rfl⟩
      cases flag
      · exact .null false
      · exact .null true
  | notNull =>
      refine (nullTest_settled _ column values _).imp ?_
      rintro _ ⟨flag, rfl, rfl⟩
      cases flag
      · exact .notNull (.null true)
      · exact .notNull (.null false)

end Ways

/-- An operator adds to a query what it records, if it accepts the values; if not, the query stays
as it is and the column is named. -/
theorem operator_law (op : Operator) (column : String) (values : List Value) (q : Select) :
    let o := op.strategy.run column values
    (op.Accepts values ↔ ∃ cs, Records column op values cs ∧
      (q.add o.clauses, o.rejection) = ({ q with clauses := q.clauses ++ cs }, none)) ∧
    (¬ op.Accepts values ↔ ∃ cause,
      (q.add o.clauses, o.rejection) = (q, some (.malformed column cause))) := by
  have outcome : op.strategy.run column values = .ofExcept (op.clauses column values) := rfl
  rw [outcome]
  cases clauses_settled op column values with
  | recorded accepted made ok =>
      rw [ok]
      refine ⟨iff_of_true accepted ⟨_, made, rfl⟩, iff_of_false (fun not => not accepted) ?_⟩
      rintro ⟨cause, same⟩
      cases congrArg Prod.snd same
  | @refused cause rejected error =>
      rw [error]
      refine ⟨iff_of_false rejected ?_, iff_of_true rejected ⟨cause, ?_⟩⟩
      · rintro ⟨cs, -, same⟩
        cases congrArg Prod.snd same
      · exact congrArg (·, _) q.add_nil

end Operator
end QueryFilter
