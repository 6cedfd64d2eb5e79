import QueryFilter.Proofs.Arrays
import QueryFilter.Proofs.Operands
import QueryFilter.Proofs.Placeholders

/-!
# Nulls among parameters

Equality with null is a test that binds nothing, and comparisons of order and patterns refuse null.
Sets and ranges bind the values that they are given (`Operator.verbatim`), so a null among those is
bound (`Records.bindsNull`). `nulls_law` finds the nulls of the parameters in the specification:
they are items of sets and ranges on a column that is an identifier, and of nothing else.
-/

namespace QueryFilter
open Placeholders Resolution

/-- Null, or a set with null among its members. -/
def Value.HasNull : Value → Prop
  | .null => True
  | .array items => .null ∈ items
  | _ => False

theorem Value.exists_hasNull {values : List Value} (scalars : ∀ v ∈ values, v.Scalar) :
    (∃ v ∈ values, v.HasNull) ↔ .null ∈ values := by
  constructor
  · rintro ⟨v, member, null⟩
    cases v with
    | null => exact member
    | array items => exact absurd rfl (scalars _ member)
    | _ => cases null
  · exact fun member => ⟨.null, member, trivial⟩

/-! ## Clauses -/

namespace Clause

def BindsNull (d : Dialect) (c : Clause) : Prop := ∃ v ∈ bound d c, v.HasNull

variable {d : Dialect} {column : String}

theorem compared_hasNull {cmp : Comparison} {v : Value} (scalar : v.Scalar)
    (tested : v = .null → cmp = .eq ∨ cmp = .ne) : ∀ w ∈ compared cmp v, ¬ w.HasNull := by
  cases v with
  | null => rcases tested rfl with rfl | rfl <;> exact List.forall_mem_nil _
  | array items => exact absurd rfl scalar
  | _ => cases cmp <;> exact List.forall_mem_singleton.2 id

theorem not_bindsNull_compare {cmp : Comparison} {v : Value} (scalar : v.Scalar)
    (tested : v = .null → cmp = .eq ∨ cmp = .ne) : ¬ (compare column cmp v).BindsNull d := by
  rintro ⟨w, binds, null⟩
  unfold bound at binds
  split at binds
  · exact compared_hasNull scalar tested w binds null
  · cases binds

theorem not_bindsNull_any {values : List Value} (scalars : ∀ v ∈ values, v.Scalar) :
    ¬ (any column .eq values).BindsNull d := by
  rintro ⟨w, binds, null⟩
  unfold bound at binds
  split at binds
  · obtain ⟨v, inValues, inCompared⟩ := List.mem_flatMap.1 binds
    exact compared_hasNull (scalars v inValues) (fun _ => .inl rfl) w inCompared null
  · cases binds

theorem not_bindsNull_null {negated : Bool} : ¬ (null column negated).BindsNull d := by
  rintro ⟨w, binds, -⟩
  unfold bound at binds
  split at binds <;> cases binds

theorem not_bindsNull_of_invalid {c : Clause} (invalid : ¬ isIdentifier c.column = true) :
    ¬ c.BindsNull d := by
  have unbound : bound d c = [] := if_neg invalid
  rintro ⟨w, binds, -⟩
  rw [unbound] at binds
  cases binds

theorem bindsNull_between {low high : Value} (scalars : ∀ v ∈ [low, high], v.Scalar) :
    (between column low high).BindsNull d ↔
      isIdentifier column = true ∧ .null ∈ [low, high] := by
  by_cases valid : isIdentifier column = true
  · have binds : bound d (between column low high) = [low, high] := if_pos valid
    rw [BindsNull, binds, Value.exists_hasNull scalars, and_iff_right valid]
  · exact iff_of_false (not_bindsNull_of_invalid valid) fun found => valid found.1

theorem bindsNull_member {values : List Value} {negated : Bool}
    (scalars : ∀ v ∈ values, v.Scalar) : (member column values negated).BindsNull d ↔
      isIdentifier column = true ∧ .null ∈ values := by
  by_cases valid : isIdentifier column = true
  · rw [and_iff_right valid]
    cases d with
    | sqlite =>
        have binds : bound .sqlite (member column values negated) = values := if_pos valid
        rw [BindsNull, binds, Value.exists_hasNull scalars]
    | postgres =>
        -- The set is one parameter, which has a null if and only if one of its members is null.
        have binds : bound .postgres (member column values negated) =
            if values = [] then [] else [.array values] := if_pos valid
        rw [BindsNull, binds]
        by_cases empty : values = [] <;> simp [empty, Value.HasNull]
  · exact iff_of_false (not_bindsNull_of_invalid valid) fun found => valid found.1

end Clause

/-! ## Operators -/

namespace Operator

/-- The operators that bind the values they are given, whatever these are. -/
def verbatim : List Operator := [.isIn, .notIn, .between]

variable {op : Operator} {column : String} {values : List Value}

/-- Of the other operators, only the equalities accept null. -/
theorem Accepts.null (accepted : op.Accepts values) (null : .null ∈ values)
    (other : op ∉ verbatim) : op = .eq ∨ op = .ne := by
  cases op with
  | eq => exact .inl rfl
  | ne => exact .inr rfl
  | isIn | notIn | between => exact absurd (by decide) other
  | gt | gte | lt | lte => exact absurd null accepted.2
  | like | ilike | startsWith | endsWith | contains =>
      obtain ⟨text, same⟩ := accepted.2 _ null
      cases same
  | null | notNull =>
      obtain ⟨flag, rfl⟩ := accepted
      cases List.mem_singleton.1 null

theorem Records.bindsNull {cs : List Clause} (records : Records column op values cs)
    (accepted : op.Accepts values) (scalars : ∀ v ∈ values, v.Scalar) (d : Dialect) :
    (∃ c ∈ cs, c.BindsNull d) ↔
      isIdentifier column = true ∧ op ∈ verbatim ∧ .null ∈ values := by
  have one (c : Clause) : (∃ x ∈ [c], x.BindsNull d) ↔ c.BindsNull d := by simp
  have taken {op : Operator} (own : op ∈ verbatim) :
      isIdentifier column = true ∧ .null ∈ values ↔
        isIdentifier column = true ∧ op ∈ verbatim ∧ .null ∈ values := by
    rw [and_iff_right own]
  have other {op : Operator} (different : op ∉ verbatim) :
      ¬ (isIdentifier column = true ∧ op ∈ verbatim ∧ .null ∈ values) :=
    fun found => different found.2.1
  have test (negated : Bool) : ¬ ∃ x ∈ [Clause.null column negated], x.BindsNull d :=
    fun binds => Clause.not_bindsNull_null ((one _).1 binds)
  cases records with
  | equal v =>
      rw [one]
      exact iff_of_false (Clause.not_bindsNull_compare (scalars v List.mem_cons_self)
        fun _ => .inl rfl) (other (by decide))
  | equalAny several =>
      rw [one]
      exact iff_of_false (Clause.not_bindsNull_any scalars) (other (by decide))
  | @each _ cmp own =>
      have different : op ∉ verbatim := by
        intro found
        simp only [verbatim, List.mem_cons, List.not_mem_nil, or_false] at found
        rcases found with rfl | rfl | rfl <;> cases own
      refine iff_of_false ?_ (other different)
      rintro ⟨c, member, null⟩
      obtain ⟨v, inValues, rfl⟩ := List.mem_map.1 member
      refine Clause.not_bindsNull_compare (scalars v inValues) ?_ null
      -- Among the operators that compare with each value, only inequality is given a null.
      rintro rfl
      rcases accepted.null inValues different with rfl | rfl <;> cases own
      exact .inr rfl
  | isIn =>
      rw [one, Clause.bindsNull_member scalars]
      exact taken (by decide)
  | notIn =>
      rw [one, Clause.bindsNull_member scalars]
      exact taken (by decide)
  | between low high =>
      rw [one, Clause.bindsNull_between scalars]
      exact taken (by decide)
  | null flag => exact iff_of_false (test _) (other (by decide))
  | notNull opposite =>
      cases opposite with
      | null flag => exact iff_of_false (test _) (other (by decide))
      | each own => cases own

end Operator

/-! ## Specifications -/

theorem Operand.null_mem {a : Json} {values : List Value} (operand : Operand a values) :
    .null ∈ values ↔ .null ∈ a.items := by
  have present : (∀ x ∈ a.items, x ≠ .null) ↔ ∀ v ∈ values, v ≠ .null := by
    refine forall₂_forall_iff ?_ operand.items
    intro x v denotes
    cases denotes <;> simp
  rw [← not_iff_not]
  simpa [List.forall_mem_ne'] using present.symm

theorem Select.params_hasNull (q : Select) :
    (∃ v ∈ q.build.params, v.HasNull) ↔ ∃ c ∈ q.clauses, c.BindsNull q.dialect := by
  rw [params_bound]
  simp only [List.mem_flatMap, Clause.BindsNull]
  constructor
  · rintro ⟨v, ⟨c, member, binds⟩, null⟩
    exact ⟨c, member, v, binds, null⟩
  · rintro ⟨c, member, v, binds, null⟩
    exact ⟨v, ⟨c, member, binds⟩, null⟩

namespace Enabled

variable {e : Enabled} {spec : Spec}

theorem EntryRun.records (builtin : e.Builtin) {field : String} {entry : String × Json}
    {cs : List Clause} (run : EntryRun e field entry cs) : ∃ op : Operator, ∃ values,
      op.token = entry.1 ∧ Operand entry.2 values ∧ op.Accepts values ∧
        op.Records field values cs := by
  obtain ⟨call, read, s, found, runs⟩ := run
  cases OperatorCall.ofEntry_iff.1 read with
  | @operator key a values marked operand =>
      obtain ⟨member, rfl⟩ := findStrategy_some found
      obtain ⟨op, rfl⟩ := builtin s member
      refine ⟨op, values, rfl, operand, ?_⟩
      change Outcome.ofExcept (op.clauses field values) = _ at runs
      cases op.clauses_settled field values with
      | recorded accepted made ok =>
          rw [ok] at runs
          cases runs
          exact ⟨accepted, made⟩
      | refused rejected error =>
          rw [error] at runs
          cases runs

theorem EntryRun.bindsNull (builtin : e.Builtin) {field : String} {entry : String × Json}
    {cs : List Clause} (run : EntryRun e field entry cs) (d : Dialect) :
    (∃ c ∈ cs, c.BindsNull d) ↔ isIdentifier field = true ∧
      entry.1 ∈ Operator.verbatim.map Operator.token ∧ .null ∈ entry.2.items := by
  obtain ⟨op, values, own, operand, accepted, made⟩ := run.records builtin
  rw [made.bindsNull accepted operand.scalar d, operand.null_mem, ← own,
    List.mem_map_of_injective fun _ _ same => Operator.token_injective same]

theorem EntryRun.null (builtin : e.Builtin) {field : String} {entry : String × Json}
    {cs : List Clause} (run : EntryRun e field entry cs) (null : .null ∈ entry.2.items) :
    entry.1 ∈ (.eq :: .ne :: Operator.verbatim).map Operator.token := by
  obtain ⟨op, values, own, operand, accepted, made⟩ := run.records builtin
  rw [← own]
  apply List.mem_map_of_mem
  by_cases verbatim : op ∈ Operator.verbatim
  · exact List.mem_cons_of_mem _ (List.mem_cons_of_mem _ verbatim)
  · rcases accepted.null (operand.null_mem.2 null) verbatim with rfl | rfl <;> simp

theorem accepted_entries (accepted : (e.applyAll spec).rejection = none) :
    ∀ entry ∈ spec.entries, EntryRun e entry.1 entry.2 (e.applyEntry entry).clauses := by
  intro entry member
  obtain ⟨f, inFields, inEntries⟩ := List.mem_flatMap.1 member
  obtain ⟨part, inExpression, rfl⟩ := List.mem_map.1 inEntries
  have alone := (apply_accepted_iff.1 (accepted_fields.1 accepted f inFields)).2 part inExpression
  exact (applyEntry_run.1 (congrArg (Outcome.mk _) alone)).2

theorem applyAll_hasNull (builtin : e.Builtin) {q : Select} (fresh : q.clauses = [])
    (accepted : (e.applyAll spec).rejection = none) :
    (∃ v ∈ (q.add (e.applyAll spec).clauses).build.params, v.HasNull) ↔
      ∃ entry ∈ spec.entries, isIdentifier entry.1 = true ∧
        entry.2.1 ∈ Operator.verbatim.map Operator.token ∧ .null ∈ entry.2.2.items := by
  have clauses : (q.add (e.applyAll spec).clauses).clauses =
      spec.entries.flatMap fun entry => (e.applyEntry entry).clauses := by
    change q.clauses ++ _ = _
    rw [fresh, List.nil_append, applyAll_clauses accepted]
  have each (entry) (member : entry ∈ spec.entries) :=
    (accepted_entries accepted entry member).bindsNull builtin q.dialect
  rw [Select.params_hasNull, clauses]
  constructor
  · rintro ⟨c, recorded, binds⟩
    obtain ⟨entry, member, own⟩ := List.mem_flatMap.1 recorded
    exact ⟨entry, member, (each entry member).1 ⟨c, own, binds⟩⟩
  · rintro ⟨entry, member, asked⟩
    obtain ⟨c, own, binds⟩ := (each entry member).2 asked
    exact ⟨c, List.mem_flatMap.2 ⟨entry, member, own⟩, binds⟩

/-- In an accepted specification, null is asked for by equalities, sets and ranges only. It is among
the parameters, alone or in a set, if and only if a set or a range on an identifier asks for it. All
other operators refuse null. -/
theorem nulls_law {e : Enabled} (builtin : e.Builtin) (spec : Spec) (q : Select)
    (fresh : q.clauses = []) :
    ((e.applyAll spec).rejection = none →
      (∀ entry ∈ spec.entries, .null ∈ entry.2.2.items →
        entry.2.1 ∈ (.eq :: .ne :: Operator.verbatim).map Operator.token) ∧
      ((∃ v ∈ (q.add (e.applyAll spec).clauses).build.params, v.HasNull) ↔
        ∃ entry ∈ spec.entries, isIdentifier entry.1 = true ∧
          entry.2.1 ∈ Operator.verbatim.map Operator.token ∧ .null ∈ entry.2.2.items)) ∧
    ∀ (op : Operator) (column : String) (values : List Value), .null ∈ values →
      op ∉ Operator.eq :: .ne :: Operator.verbatim →
        ∃ cause, op.strategy.run column values = .reject (.malformed column cause) := by
  refine ⟨fun accepted => ⟨?_, applyAll_hasNull builtin fresh accepted⟩, ?_⟩
  · intro entry member null
    exact (accepted_entries accepted entry member).null builtin null
  · intro op column values null other
    simp only [List.mem_cons, not_or] at other
    refine Operator.run_refused (fun accepted => ?_) column
    exact (accepted.null null other.2.2).elim other.1 other.2.1

/-- A range from null is accepted and binds it. -/
theorem null_bound : ¬ ∀ (e : Enabled) (spec : Spec) (q : Select), e.Builtin → q.clauses = [] →
    (e.applyAll spec).rejection = none →
      ∀ v ∈ (q.add (e.applyAll spec).clauses).build.params, ¬ v.HasNull := by
  intro claim
  refine claim ⟨Registry.builtin.strategies⟩
    (.ofFields [("age", .object [("$between", .array [.null, .integer 65])])])
    { dialect := .postgres, table := ⟨"t", by decide⟩ } builtin_strategies rfl (by decide) .null
    (by decide) trivial

/-- Two columns are tested for null, one set holds it, and one is on no identifier. -/
def nulls : Spec :=
  .ofFields [("state", .array [.null, .integer 1]), ("seen", .object [("$ne", .null)]),
    ("id", .object [("$nin", .array [.integer 2, .null])]),
    ("no name", .object [("$in", .array [.null])])]

theorem nulls_law_sets :
    let e : Enabled := ⟨Registry.builtin.strategies⟩
    let q : Select := { dialect := .postgres, table := ⟨"t", by decide⟩ }
    let params := (q.add (e.applyAll nulls).clauses).build.params
    params = [.int 1, .array [.int 2, .null]] ∧ (∃ v ∈ params, v.HasNull) ∧
      ∃ cause, Operator.lt.strategy.run "age" [.int 3, .null] =
        .reject (.malformed "age" cause) := by
  intro e q params
  obtain ⟨accepted, refuses⟩ := nulls_law builtin_strategies nulls q rfl
  have set : nulls.entries[2]? = some ("id", "$nin", .array [.integer 2, .null]) := rfl
  refine ⟨by decide, (accepted (by decide)).2.2 ⟨_, List.mem_of_getElem? set, ?_⟩,
    refuses .lt "age" _ (by decide) (by decide)⟩
  exact ⟨by decide, by decide, by simp [Json.items]⟩

end Enabled
end QueryFilter
