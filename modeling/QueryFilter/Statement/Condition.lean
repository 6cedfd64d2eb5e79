import QueryFilter.Identifier
import QueryFilter.Statement.Dialect

/-!
# Conditions

What a clause says in a statement, as data: `Condition α` has operands of type `α`. A clause becomes
a condition on values (`Clause.condition`), numbering replaces each value by the number of its
placeholder (`Condition.number`), and a condition on numbers has a text (`Condition.text`).
`Clause.fragment` is the three together.

A condition holds its column as an `Identifier`, so the text of a clause whose column is none can
only be the condition that no row meets. Distinct clauses may become one condition: an empty set or
list, a list of one, equality with null, and a comparison that the dialect replaces.
-/

namespace QueryFilter

inductive Test (α : Type) where
  | compare (op : Comparison) (operand : α)
  | null (negated : Bool)
  deriving DecidableEq

/-- What a condition says of its column. -/
inductive Predicate (α : Type) where
  | test (t : Test α)
  /-- At least one of two or more tests holds. -/
  | anyOf (first second : Test α) (rest : List (Test α))
  | between (low high : α)
  | inArray (set : α) (negated : Bool)
  | inList (members : List α) (negated : Bool)
  deriving DecidableEq

inductive Condition (α : Type) where
  | noRows
  | allRows
  | on (column : Identifier) (predicate : Predicate α)
  deriving DecidableEq

/-! ## Operands -/

section Operands

variable {α : Type}

def Test.operands : Test α → List α
  | .compare _ operand => [operand]
  | .null _ => []

def Predicate.operands : Predicate α → List α
  | .test t => t.operands
  | .anyOf t u rest => (t :: u :: rest).flatMap Test.operands
  | .between low high => [low, high]
  | .inArray set _ => [set]
  | .inList members _ => members

def Condition.operands : Condition α → List α
  | .noRows => []
  | .allRows => []
  | .on _ predicate => predicate.operands

end Operands

/-! ## Numbering -/

section Numbering

variable {α β : Type}

/-- Numbers the members of a list, each from where the one before it stopped. -/
def numberEach (number : α → Nat → β × Nat) : List α → Nat → List β × Nat
  | [], k => ([], k)
  | x :: rest, k =>
    let (y, k₁) := number x k
    let (ys, k₂) := numberEach number rest k₁
    (y :: ys, k₂)

def numberOne (_ : α) (k : Nat) : Nat × Nat := (k, k + 1)

def Test.number : Test α → Nat → Test Nat × Nat
  | .compare op _, k => (.compare op k, k + 1)
  | .null negated, k => (.null negated, k)

def Predicate.number : Predicate α → Nat → Predicate Nat × Nat
  | .test t, k =>
    let (t', k') := t.number k
    (.test t', k')
  | .anyOf t u rest, k =>
    let (t', k₁) := t.number k
    let (u', k₂) := u.number k₁
    let (rest', k₃) := numberEach Test.number rest k₂
    (.anyOf t' u' rest', k₃)
  | .between _ _, k => (.between k (k + 1), k + 2)
  | .inArray _ negated, k => (.inArray k negated, k + 1)
  | .inList members negated, k =>
    let (ks, k') := numberEach numberOne members k
    (.inList ks negated, k')

/-- Replaces operands by numbers from `k` on; also the first number left. -/
def Condition.number : Condition α → Nat → Condition Nat × Nat
  | .noRows, k => (.noRows, k)
  | .allRows, k => (.allRows, k)
  | .on column predicate, k =>
    let (predicate', k') := predicate.number k
    (.on column predicate', k')

/-! Numbers run on from the first, one for each operand. -/

theorem numberEach_numberOne (xs : List α) (k : Nat) :
    numberEach numberOne xs k = (List.range' k xs.length, k + xs.length) := by
  induction xs generalizing k with
  | nil => rfl
  | cons x rest ih =>
    simp only [numberEach, numberOne, ih, List.length_cons, List.range'_succ, Prod.mk.injEq,
      true_and]
    omega

theorem length_numberEach (number : α → Nat → β × Nat) (xs : List α) (k : Nat) :
    (numberEach number xs k).1.length = xs.length := by
  induction xs generalizing k with
  | nil => rfl
  | cons x rest ih => rw [numberEach, List.length_cons, ih, List.length_cons]

theorem mem_numberEach {number : α → Nat → β × Nat} {xs : List α} {k : Nat} {y : β}
    (member : y ∈ (numberEach number xs k).1) : ∃ x ∈ xs, ∃ j, y = (number x j).1 := by
  induction xs generalizing k with
  | nil => cases member
  | cons x rest ih =>
    rcases List.mem_cons.1 member with first | later
    · exact ⟨x, List.mem_cons_self, k, first⟩
    · obtain ⟨z, inRest, j, numbered⟩ := ih later
      exact ⟨z, List.mem_cons_of_mem x inRest, j, numbered⟩

theorem Test.number_operands (t : Test α) (k : Nat) :
    (t.number k).1.operands = List.range' k t.operands.length ∧
      (t.number k).2 = k + t.operands.length := by
  cases t <;> simp [Test.number, Test.operands]

/-- Numbers run on through a list if they run on through each of its members. -/
theorem numberEach_operands {γ δ ε : Type} {number : γ → Nat → δ × Nat} {before : γ → List ε}
    {after : δ → List Nat}
    (each : ∀ x k, after (number x k).1 = List.range' k (before x).length ∧
      (number x k).2 = k + (before x).length)
    (xs : List γ) (k : Nat) :
    (numberEach number xs k).1.flatMap after = List.range' k (xs.flatMap before).length ∧
      (numberEach number xs k).2 = k + (xs.flatMap before).length := by
  induction xs generalizing k with
  | nil => exact ⟨rfl, rfl⟩
  | cons x rest ih =>
    obtain ⟨first, next⟩ := each x k
    obtain ⟨others, last⟩ := ih (number x k).2
    simp only [numberEach, List.flatMap_cons, List.length_append]
    rw [first, others, last, next, List.range'_append_1]
    exact ⟨rfl, Nat.add_assoc ..⟩

theorem Predicate.number_operands (p : Predicate α) (k : Nat) :
    (p.number k).1.operands = List.range' k p.operands.length ∧
      (p.number k).2 = k + p.operands.length := by
  cases p with
  | test t => exact t.number_operands k
  | anyOf t u rest => exact numberEach_operands Test.number_operands (t :: u :: rest) k
  | between low high => exact ⟨rfl, rfl⟩
  | inArray set negated => exact ⟨rfl, rfl⟩
  | inList members negated =>
    simp only [Predicate.number, numberEach_numberOne, Predicate.operands, and_self]

theorem Condition.number_operands (c : Condition α) (k : Nat) :
    (c.number k).1.operands = List.range' k c.operands.length ∧
      (c.number k).2 = k + c.operands.length := by
  cases c with
  | noRows => exact ⟨rfl, rfl⟩
  | allRows => exact ⟨rfl, rfl⟩
  | on column predicate => exact predicate.number_operands k

end Numbering

/-! ## Text -/

def Test.text (d : Dialect) (column : String) : Test Nat → String
  | .compare .startsWith k => column ++ " LIKE " ++ d.placeholder k ++ " || '%'"
  | .compare .endsWith k => column ++ " LIKE '%' || " ++ d.placeholder k
  | .compare .contains k => column ++ " LIKE '%' || " ++ d.placeholder k ++ " || '%'"
  | .compare op k => column ++ " " ++ op.symbol ++ " " ++ d.placeholder k
  | .null false => column ++ " IS NULL"
  | .null true => column ++ " IS NOT NULL"

def Predicate.text (d : Dialect) (column : String) : Predicate Nat → String
  | .test t => t.text d column
  | .anyOf t u rest => "(" ++ " OR ".intercalate ((t :: u :: rest).map (Test.text d column)) ++ ")"
  | .between low high =>
    column ++ " BETWEEN " ++ d.placeholder low ++ " AND " ++ d.placeholder high
  | .inArray set false => column ++ " = ANY(" ++ d.placeholder set ++ ")"
  | .inArray set true => column ++ " != ALL(" ++ d.placeholder set ++ ")"
  | .inList members false =>
    column ++ " IN (" ++ ", ".intercalate (members.map d.placeholder) ++ ")"
  | .inList members true =>
    column ++ " NOT IN (" ++ ", ".intercalate (members.map d.placeholder) ++ ")"

def Condition.text (d : Dialect) : Condition Nat → String
  | .noRows => "1=0"
  | .allRows => "1=1"
  | .on column predicate => predicate.text d column.text

/-! ## Clauses as conditions -/

/-- A comparison with a value; to be, or not to be, equal to null is a test of its own. -/
def Dialect.test (d : Dialect) : Comparison → Value → Test Value
  | .eq, .null => .null false
  | .ne, .null => .null true
  | op, value => .compare (d.comparison op) value

def Dialect.membership (d : Dialect) (values : List Value) (negated : Bool) : Predicate Value :=
  match d with
  | .postgres => .inArray (.array values) negated
  | .sqlite => .inList values negated

/-- The condition of a clause whose column is an identifier. Nothing is in the empty set, and no
test of an empty list holds. -/
def Clause.conditionOn (d : Dialect) (column : Identifier) : Clause → Condition Value
  | .compare _ op value => .on column (.test (d.test op value))
  | .any _ op values =>
    match values.map (d.test op) with
    | [] => .noRows
    | [t] => .on column (.test t)
    | t :: u :: rest => .on column (.anyOf t u rest)
  | .member _ [] negated => if negated then .allRows else .noRows
  | .member _ (v :: rest) negated => .on column (d.membership (v :: rest) negated)
  | .null _ negated => .on column (.test (.null negated))
  | .between _ low high => .on column (.between low high)

def Clause.condition (d : Dialect) (c : Clause) : Condition Value :=
  if h : isIdentifier c.column = true then c.conditionOn d ⟨c.column, h⟩ else .noRows

/-- A condition in a statement: its text, what it binds, and the first placeholder left. -/
structure Fragment where
  sql : String
  params : List Value
  next : Nat
  deriving DecidableEq

def Predicate.fragment (d : Dialect) (column : String) (p : Predicate Value) (start : Nat) :
    Fragment :=
  let (numbered, next) := p.number start
  ⟨numbered.text d column, p.operands, next⟩

def Clause.fragment (d : Dialect) (c : Clause) (start : Nat) : Fragment :=
  let condition := c.condition d
  let (numbered, next) := condition.number start
  ⟨numbered.text d, condition.operands, next⟩

theorem Clause.fragment_next (d : Dialect) (c : Clause) (k : Nat) :
    (c.fragment d k).next = k + (c.fragment d k).params.length :=
  ((c.condition d).number_operands k).2

end QueryFilter
