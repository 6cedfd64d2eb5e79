import QueryFilter.Proofs.Renumbering

/-!
# Two dialects

One list of clauses, written for either database. `Agree` relates the fragments that the two make of
a clause (`fragment_agree`): they are the same but for placeholders, which stand where the dialect's
own numbering has come to, for the word of a comparison that only one of them has (`Clause.ilikes`),
and for the form of a set (`Clause.members`). A set takes one parameter in one dialect and one for
each member in the other, so the numberings drift apart behind it; `AllAgree` carries both numbers
through the list (`fragments_agree`).
-/

namespace QueryFilter

/-! ## Where the dialects differ -/

namespace Clause

/-- The values that a clause compares its column with by `ILIKE`. -/
def ilikes (c : Clause) : List Value :=
  if isIdentifier c.column then
    match c with
    | .compare _ .ilike value => [value]
    | .any _ .ilike values => values
    | _ => []
  else []

/-- The members of the set that a clause looks for its column in. -/
def members (c : Clause) : List Value :=
  if isIdentifier c.column then
    match c with
    | .member _ values _ => values
    | _ => []
  else []

/-- What a clause binds where a set is not bound as one value. -/
def expand (c : Clause) (params : List Value) : List Value :=
  if c.members = [] then params else params.flatMap Value.items

end Clause

def alternatives : List String → String
  | [text] => text
  | texts => "(" ++ " OR ".intercalate texts ++ ")"

/-- The tests of a column with the parameters of SQLite from `k` on. -/
def tests (column : String) (op : Comparison) (k count : Nat) : List String :=
  (List.range' k count).map fun j =>
    column ++ " " ++ op.symbol ++ " " ++ Dialect.sqlite.placeholder j

/-- `p`, for Postgres from placeholder `k` on, and `s`, for SQLite from `k'` on, say the same. -/
structure Agree (c : Clause) (k k' : Nat) (p s : Fragment) : Prop where
  same : c.ilikes = [] → c.members = [] →
    renumbered .postgres .sqlite (shifted k k') p.sql = s.sql ∧ p.params = s.params
  ilike : c.ilikes ≠ [] →
    renumbered .postgres .sqlite (shifted k k') p.sql =
        alternatives (tests c.column .ilike k' c.ilikes.length) ∧
      s.sql = alternatives (tests c.column .like k' c.ilikes.length) ∧
      p.params = c.ilikes ∧ s.params = c.ilikes
  set : c.members ≠ [] → ∃ negated, c = .member c.column c.members negated ∧
    p.sql = c.column ++ (if negated then " != ALL(" else " = ANY(") ++
      Dialect.postgres.placeholder k ++ ")" ∧
    p.params = [.array c.members] ∧
    s.sql = c.column ++ (if negated then " NOT IN (" else " IN (") ++
      ", ".intercalate ((List.range' k' c.members.length).map Dialect.sqlite.placeholder) ++ ")" ∧
    s.params = c.members

/-- Fragments agree one by one, each from where the one before it stopped. -/
inductive AllAgree : List Clause → Nat → Nat → List Fragment → List Fragment → Prop where
  | nil (k k' : Nat) : AllAgree [] k k' [] []
  | cons {c : Clause} {k k' : Nat} {p s : Fragment} {cs : List Clause} {ps ss : List Fragment}
      (first : Agree c k k' p s)
      (others : AllAgree cs (k + p.params.length) (k' + s.params.length) ps ss) :
      AllAgree (c :: cs) k k' (p :: ps) (s :: ss)

/-! ## Clauses -/

section Clauses

variable {c : Clause}

theorem Dialect.test_same {op : Comparison} (other : op ≠ .ilike) (value : Value) :
    Dialect.postgres.test op value = Dialect.sqlite.test op value := by
  cases op with
  | ilike => exact absurd rfl other
  | _ => cases value <;> rfl

theorem Clause.condition_same (plain : c.ilikes = []) (unset : c.members = []) :
    c.condition .postgres = c.condition .sqlite := by
  unfold Clause.condition
  split
  · rename_i valid
    unfold Clause.ilikes at plain
    unfold Clause.members at unset
    rw [if_pos valid] at plain unset
    cases c with
    | compare column op value =>
        have other : op ≠ .ilike := by
          rintro rfl
          cases plain
        rw [Clause.conditionOn, Dialect.test_same other]
        rfl
    | any column op values =>
        have each :
            values.map (Dialect.postgres.test op) = values.map (Dialect.sqlite.test op) := by
          refine List.map_congr_left fun v member => Dialect.test_same ?_ v
          rintro rfl
          cases plain
          cases member
        rw [Clause.conditionOn, each]
        rfl
    | member column values negated =>
        cases unset
        rfl
    | null column negated => rfl
    | between column low high => rfl
  · rfl

theorem Test.text_ilike (d : Dialect) (column : String) (k : Nat) :
    (Test.compare (d.comparison .ilike) k).text .sqlite column =
      column ++ " " ++ (d.comparison .ilike).symbol ++ " " ++ Dialect.sqlite.placeholder k := by
  cases d <;> rfl

theorem tests_numbered (d : Dialect) (column : String) (values : List Value) (k : Nat) :
    (numberEach Test.number (values.map (d.test .ilike)) k).1.map (Test.text .sqlite column) =
      tests column (d.comparison .ilike) k values.length := by
  induction values generalizing k with
  | nil => rfl
  | cons v rest ih => exact congrArg₂ List.cons (Test.text_ilike d column k) (ih (k + 1))

/-- A clause with `ILIKE` makes one test for each value, with the comparison of the dialect. -/
theorem Clause.ilikes_condition (nonempty : c.ilikes ≠ []) (d : Dialect) (k : Nat) :
    (c.condition d).operands = c.ilikes ∧ ((c.condition d).number k).1.text .sqlite =
      alternatives (tests c.column (d.comparison .ilike) k c.ilikes.length) := by
  unfold Clause.ilikes at nonempty ⊢
  split at nonempty
  · rename_i valid
    rw [if_pos valid, c.condition_of_valid d valid]
    split at nonempty
    · rename_i column value
      exact ⟨rfl, Test.text_ilike d column k⟩
    · rename_i column values
      cases values with
      | nil => exact absurd rfl nonempty
      | cons v rest =>
          cases rest with
          | nil => exact ⟨rfl, Test.text_ilike d column k⟩
          | cons w rest =>
              constructor
              · change ((v :: w :: rest).map (d.test .ilike)).flatMap Test.operands = v :: w :: rest
                rw [List.flatMap_map]
                exact List.flatMap_singleton' _
              · exact congrArg (fun ts => "(" ++ " OR ".intercalate ts ++ ")")
                  (tests_numbered d column (v :: w :: rest) k)
    · exact absurd rfl nonempty
  · exact absurd rfl nonempty

theorem Clause.members_eq (nonempty : c.members ≠ []) : ∃ (column : Identifier) (negated : Bool),
    c = .member column.text c.members negated ∧ ∀ d,
      c.condition d = .on column (d.membership c.members negated) := by
  unfold Clause.members at nonempty ⊢
  split at nonempty
  · rename_i valid
    rw [if_pos valid]
    split at nonempty
    · rename_i column values negated
      obtain ⟨v, rest, rfl⟩ := List.exists_cons_of_ne_nil nonempty
      exact ⟨⟨column, valid⟩, negated, rfl, fun d => Clause.condition_of_valid d _ valid⟩
    · exact absurd rfl nonempty
  · exact absurd rfl nonempty

theorem fragment_agree (c : Clause) (k k' : Nat) :
    Agree c k k' (c.fragment .postgres k) (c.fragment .sqlite k') := by
  have renamed := number_renumbered (c.condition .postgres) .postgres .sqlite k k'
  simp only [Clause.fragment_eq]
  constructor
  · intro plain unset
    rw [renamed, Clause.condition_same plain unset]
    exact ⟨rfl, rfl⟩
  · intro nonempty
    obtain ⟨values, text⟩ := Clause.ilikes_condition nonempty .postgres k'
    obtain ⟨values', text'⟩ := Clause.ilikes_condition nonempty .sqlite k'
    exact ⟨renamed.trans text, text', values, values'⟩
  · intro nonempty
    obtain ⟨column, negated, member, condition⟩ := Clause.members_eq nonempty
    have name : c.column = column.text := congrArg Clause.column member
    rw [condition, condition, name]
    refine ⟨negated, member, ?_, rfl, ?_, rfl⟩
    · cases negated <;> rfl
    · change ((Condition.on column (.inList c.members negated)).number k').1.text _ = _
      simp only [Condition.number, Predicate.number, numberEach_numberOne]
      cases negated <;> rfl

theorem fragments_agree (cs : List Clause) (k k' : Nat) :
    AllAgree cs k k' (Select.fragments .postgres cs k) (Select.fragments .sqlite cs k') := by
  -- For all starts: behind a set the two numberings go on from different numbers.
  induction cs generalizing k k' with
  | nil => exact .nil k k'
  | cons c rest ih =>
      refine .cons (fragment_agree c k k') ?_
      rw [← Clause.fragment_next, ← Clause.fragment_next]
      exact ih _ _

/-! ## Parameters -/

theorem Agree.expand {k k' : Nat} {p s : Fragment} (agree : Agree c k k' p s) :
    s.params = c.expand p.params := by
  unfold Clause.expand
  split
  · rename_i unset
    by_cases plain : c.ilikes = []
    · exact (agree.same plain unset).2.symm
    · obtain ⟨-, -, values, values'⟩ := agree.ilike plain
      rw [values, values']
  · rename_i set
    obtain ⟨negated, -, -, array, -, items⟩ := agree.set set
    rw [array, items, List.flatMap_singleton]
    rfl

theorem AllAgree.expand {cs : List Clause} {k k' : Nat} {ps ss : List Fragment}
    (agree : AllAgree cs k k' ps ss) :
    ss.map Fragment.params = List.zipWith Clause.expand cs (ps.map Fragment.params) := by
  induction agree with
  | nil => rfl
  | cons first others ih =>
      rw [List.map_cons, List.map_cons, List.zipWith_cons_cons, ih, first.expand]

end Clauses

/-! ## Statements -/

def Select.to (q : Select) (d : Dialect) : Select := { q with dialect := d }

theorem Select.marks_only (q : Select) (plain : ∀ c ∈ q.clauses, c.ilikes = [] ∧ c.members = []) :
    (q.to .sqlite).build.sql.toList =
        (q.to .postgres).build.sql.toList.map (fun c => if c = '$' then '?' else c) ∧
      (q.to .sqlite).build.params = (q.to .postgres).build.params := by
  have conditions : (q.to .sqlite).conditions = (q.to .postgres).conditions :=
    List.map_congr_left fun c member =>
      (Clause.condition_same (plain c member).1 (plain c member).2).symm
  have pieces : (q.to .sqlite).pieces = (q.to .postgres).pieces := by
    unfold Select.pieces
    rw [conditions]
    rfl
  constructor
  · rw [Select.build_chars, Select.build_chars, pieces]
    exact layoutChars_marks (q.to .postgres).pieces_readable .sqlite
  · rw [Select.build_eq, Select.build_eq, conditions]

/-- The statements for the two databases have one head and conditions that agree one by one, and the
parameters of one are those of the other with the members of each set in its place. Without a set
and without `ILIKE`, nothing but the marks of placeholders differs. -/
theorem Select.dialects_law (q : Select) :
    let p := (q.to .postgres).build
    let s := (q.to .sqlite).build
    let ps := fragments .postgres q.clauses 1
    let ss := fragments .sqlite q.clauses 1
    AllAgree q.clauses 1 1 ps ss ∧
      p = ⟨q.headText ++ whereText (ps.map Fragment.sql), ps.flatMap Fragment.params⟩ ∧
      s = ⟨q.headText ++ whereText (ss.map Fragment.sql), ss.flatMap Fragment.params⟩ ∧
      s.params = (List.zipWith Clause.expand q.clauses (ps.map Fragment.params)).flatten ∧
      ((∀ c ∈ q.clauses, c.ilikes = [] ∧ c.members = []) →
        s.sql.toList = p.sql.toList.map (fun c => if c = '$' then '?' else c) ∧
          s.params = p.params) := by
  have agree := fragments_agree q.clauses 1 1
  refine ⟨agree, rfl, rfl, ?_, q.marks_only⟩
  rw [← agree.expand]
  exact List.flatMap_def ..

def Select.ofMembers (clauses : List Clause) : Select where
  dialect := .postgres
  table := ⟨"members", by decide⟩
  clauses := clauses

theorem Select.dialects_law_plain :
    let q := ofMembers [.any "role" .eq [.null, .string "admin"], .member "id" [] true,
      .compare "no name" .ilike (.string "a%")]
    (q.to .sqlite).build.sql.toList =
      (q.to .postgres).build.sql.toList.map (fun c => if c = '$' then '?' else c) :=
  ((dialects_law _).2.2.2.2 (by decide)).1

example :
    let q := Select.ofMembers [.member "id" [.int 4, .int 7] true,
      .any "name" .ilike [.string "a%", .string "b%"]]
    (q.to .postgres).build.sql =
        "SELECT * FROM members WHERE id != ALL($1) AND (name ILIKE $2 OR name ILIKE $3)" ∧
      (q.to .sqlite).build.sql =
        "SELECT * FROM members WHERE id NOT IN (?1, ?2) AND (name LIKE ?3 OR name LIKE ?4)" := by
  decide

end QueryFilter
