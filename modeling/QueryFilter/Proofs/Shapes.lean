import QueryFilter.Proofs.Expressions

/-!
# Shapes of expressions

`Denotes` says which documents are scalars, and of which values; `Operand` and `Expression` say
which are operands and expressions, and which calls these stand for. `OperandFault`, `EntryFault`
and `ExpressionFault` find the first place where a document is none. They are written without the
functions that read, and `expression_law` says that reading answers by them: with the calls
(`parse_iff`), or with the first fault (`parse_refused`), and that it accepts what `IsExpression`
describes.
-/

namespace QueryFilter

/-! ## Scalars -/

def Value.Scalar (v : Value) : Prop := v.kind ≠ .array

inductive Json.Denotes : Json → Value → Prop where
  | null : Denotes .null .null
  | bool (b : Bool) : Denotes (.bool b) (.bool b)
  | integer (n : Int64) : Denotes (.integer n.toInt) (.int n)
  | float (x : Binary64) : Denotes (.float x) (.float x)
  | string (s : String) : Denotes (.string s) (.string s)

theorem Json.Denotes.scalar {a : Json} {v : Value} (denotes : a.Denotes v) : v.Scalar := by
  cases denotes <;> nofun

theorem Value.ofInt?_iff {n : Int} {v : Value} :
    ofInt? n = some v ↔ ∃ m : Int64, n = m.toInt ∧ v = .int m := by
  unfold ofInt?
  split
  · rename_i inRange
    have exact_value : (Int64.ofInt n).toInt = n :=
      Int64.toInt_ofInt_of_le inRange.1 inRange.2
    constructor
    · intro same
      exact ⟨.ofInt n, exact_value.symm, (Option.some.inj same).symm⟩
    · rintro ⟨m, rfl, rfl⟩
      rw [Int64.ofInt_toInt]
  · rename_i outside
    refine iff_of_false nofun ?_
    rintro ⟨m, rfl, -⟩
    exact outside ⟨m.le_toInt, m.toInt_lt⟩

theorem Value.ofJson?_iff {a : Json} {v : Value} : ofJson? a = some v ↔ a.Denotes v := by
  constructor
  · intro value
    cases a with
    | integer n =>
        obtain ⟨m, rfl, rfl⟩ := ofInt?_iff.1 value
        exact .integer m
    | array items => cases value
    | object fields => cases value
    | null => cases value; exact .null
    | bool b => cases value; exact .bool b
    | float x => cases value; exact .float x
    | string s => cases value; exact .string s
  · intro denotes
    cases denotes with
    | integer n => exact ofInt?_iff.2 ⟨n, rfl, rfl⟩
    | _ => rfl

/-! ## The grammar -/

inductive Operand : Json → List Value → Prop where
  | single {a : Json} {v : Value} (scalar : a.Denotes v) : Operand a [v]
  | list {items : List Json} {values : List Value}
      (members : List.Forall₂ Json.Denotes items values) : Operand (.array items) values

/-- The key is written as an operator. -/
def Marked (key : String) : Prop := ∃ name, key.toList = operatorMark :: name

inductive Entry (field : String) : String × Json → OperatorCall → Prop where
  | operator {key : String} {a : Json} {values : List Value} (marked : Marked key)
      (operand : Operand a values) : Entry field (key, a) ⟨field, key, values⟩

inductive Expression (field : String) : Json → List OperatorCall → Prop where
  | bare {a : Json} {values : List Value} (operand : Operand a values) :
      Expression field a [⟨field, Operator.eq.token, values⟩]
  | operators {entries : List (String × Json)} {calls : List OperatorCall}
      (nonempty : entries ≠ []) (each : List.Forall₂ (Entry field) entries calls) :
      Expression field (.object entries) calls

/-! ## First faults -/

inductive OperandFault (token : String) : Json → ShapeFault → Prop where
  | single {a : Json} (unlisted : a.kind ≠ .array) (other : ∀ v, ¬ a.Denotes v) :
      OperandFault token a (.notScalar token a.kind)
  | member {before after : List Json} {a : Json} (scalars : ∀ b ∈ before, ∃ v, b.Denotes v)
      (other : ∀ v, ¬ a.Denotes v) :
      OperandFault token (.array (before ++ a :: after)) (.notScalar token a.kind)

/-- A key is looked at before its operand. -/
inductive EntryFault : String × Json → ShapeFault → Prop where
  | key {key : String} {a : Json} (unmarked : ¬ Marked key) : EntryFault (key, a) (.notOperator key)
  | operand {key : String} {a : Json} {cause : ShapeFault} (marked : Marked key)
      (fault : OperandFault key a cause) : EntryFault (key, a) cause

inductive ExpressionFault (field : String) : Json → ShapeFault → Prop where
  | unnamed {a : Json} (empty : field = "") : ExpressionFault field a .emptyField
  | noOperators (named : field ≠ "") : ExpressionFault field (.object []) .noOperators
  | entry {before after : List (String × Json)} {entry : String × Json} {cause : ShapeFault}
      (named : field ≠ "") (entries : ∀ b ∈ before, ∃ call, Entry field b call)
      (fault : EntryFault entry cause) :
      ExpressionFault field (.object (before ++ entry :: after)) cause
  | bare {a : Json} {cause : ShapeFault} (named : field ≠ "") (unkeyed : a.kind ≠ .object)
      (fault : OperandFault Operator.eq.token a cause) : ExpressionFault field a cause

theorem Operand.unkeyed {a : Json} {values : List Value} (operand : Operand a values) :
    a.kind ≠ .object := by
  cases operand with
  | single scalar => cases scalar <;> nofun
  | list members => nofun

theorem Operand.scalar {a : Json} {values : List Value} (operand : Operand a values) :
    ∀ v ∈ values, v.Scalar := by
  cases operand with
  | single denotes => exact List.forall_mem_singleton.2 denotes.scalar
  | list members => exact forall₂_forall (fun _ _ _ denotes => denotes.scalar) members

theorem Entry.scalar {field : String} {entry : String × Json} {call : OperatorCall}
    (read : Entry field entry call) : ∀ v ∈ call.values, v.Scalar := by
  cases read with
  | operator marked operand => exact operand.scalar

theorem Expression.scalar {field : String} {a : Json} {calls : List OperatorCall}
    (read : Expression field a calls) : ∀ call ∈ calls, ∀ v ∈ call.values, v.Scalar := by
  cases read with
  | bare operand => exact List.forall_mem_singleton.2 operand.scalar
  | operators nonempty each => exact forall₂_forall (fun _ _ _ entry => entry.scalar) each

/-! ## Reading -/

namespace OperatorCall

variable {field token : String} {a : Json} {fault : FilterError}

theorem scalar_iff {v : Value} : scalar field token a = .ok v ↔ a.Denotes v := by
  unfold scalar
  rw [← Value.ofJson?_iff]
  cases Value.ofJson? a <;> simp

theorem scalar_refused : scalar field token a = .error fault ↔
    fault = .malformed field (.notScalar token a.kind) ∧ ∀ v, ¬ a.Denotes v := by
  unfold scalar
  simp only [← Value.ofJson?_iff]
  cases Value.ofJson? a <;> simp [eq_comm]

theorem operands_iff {values : List Value} :
    operands field token a = .ok values ↔ Operand a values := by
  by_cases listed : a.kind = .array
  · cases a with
    | array items =>
        change items.mapM (scalar field token) = .ok values ↔ _
        simp only [mapM_eq_ok, scalar_iff]
        constructor
        · exact .list
        · rintro (⟨⟨⟩⟩ | members)
          exact members
    | _ => cases listed
  · rw [operands_single listed, bind_eq_ok]
    simp only [scalar_iff]
    constructor
    · rintro ⟨v, denotes, ⟨⟩⟩
      exact .single denotes
    · rintro (denotes | members)
      · exact ⟨_, denotes, rfl⟩
      · exact absurd rfl listed

theorem operands_refused : operands field token a = .error fault ↔
    ∃ cause, fault = .malformed field cause ∧ OperandFault token a cause := by
  by_cases listed : a.kind = .array
  · cases a with
    | array items =>
        change items.mapM (scalar field token) = .error fault ↔ _
        simp only [mapM_eq_error, scalar_iff, scalar_refused]
        constructor
        · rintro ⟨before, x, after, rfl, scalars, rfl, other⟩
          exact ⟨_, rfl, .member scalars other⟩
        · rintro ⟨_, rfl, ⟨unlisted, -⟩ | ⟨scalars, other⟩⟩
          · exact absurd rfl unlisted
          · exact ⟨_, _, _, rfl, scalars, rfl, other⟩
    | _ => cases listed
  · rw [operands_single listed, bind_eq_error]
    simp only [scalar_refused]
    constructor
    · rintro (⟨rfl, other⟩ | ⟨v, -, ⟨⟩⟩)
      exact ⟨_, rfl, .single listed other⟩
    · rintro ⟨_, rfl, ⟨-, other⟩ | ⟨-, -⟩⟩
      · exact .inl ⟨rfl, other⟩
      · exact absurd rfl listed

theorem isToken_iff {key : String} : isToken key = true ↔ Marked key := by
  unfold isToken Marked
  rw [beq_iff_eq, List.head?_eq_some_iff]

theorem ofEntry_iff {entry : String × Json} {call : OperatorCall} :
    ofEntry field entry = .ok call ↔ Entry field entry call := by
  obtain ⟨key, a⟩ := entry
  unfold ofEntry
  split
  · rename_i marked
    rw [bind_eq_ok]
    simp only [operands_iff]
    constructor
    · rintro ⟨values, operand, ⟨⟩⟩
      exact .operator (isToken_iff.1 marked) operand
    · rintro ⟨-, operand⟩
      exact ⟨_, operand, rfl⟩
  · rename_i unmarked
    refine iff_of_false nofun ?_
    rintro ⟨marked, -⟩
    exact unmarked (isToken_iff.2 marked)

theorem ofEntry_refused {entry : String × Json} : ofEntry field entry = .error fault ↔
    ∃ cause, fault = .malformed field cause ∧ EntryFault entry cause := by
  obtain ⟨key, a⟩ := entry
  unfold ofEntry
  split
  · rename_i marked
    rw [bind_eq_error]
    simp only [operands_refused]
    constructor
    · rintro (⟨cause, rfl, fault⟩ | ⟨values, -, ⟨⟩⟩)
      exact ⟨cause, rfl, .operand (isToken_iff.1 marked) fault⟩
    · rintro ⟨cause, rfl, unmarked | ⟨-, fault⟩⟩
      · exact absurd (isToken_iff.1 marked) unmarked
      · exact .inl ⟨cause, rfl, fault⟩
  · rename_i unmarked
    constructor
    · rintro ⟨⟩
      exact ⟨_, rfl, .key fun marked => unmarked (isToken_iff.2 marked)⟩
    · rintro ⟨cause, rfl, - | ⟨marked, -⟩⟩
      · rfl
      · exact absurd (isToken_iff.2 marked) unmarked

theorem parse_iff {calls : List OperatorCall} :
    parse field a = .ok calls ↔ field ≠ "" ∧ Expression field a calls := by
  rw [parse_ok]
  refine and_congr_right fun _ => ?_
  simp only [mapM_eq_ok, ofEntry_iff, operands_iff]
  constructor
  · rintro (⟨entries, rfl, nonempty, each⟩ | ⟨-, values, operand, rfl⟩)
    · exact .operators nonempty each
    · exact .bare operand
  · rintro (operand | ⟨nonempty, each⟩)
    · exact .inr ⟨operand.unkeyed, _, operand, rfl⟩
    · exact .inl ⟨_, rfl, nonempty, each⟩

theorem parse_scalar {calls : List OperatorCall} (read : parse field a = .ok calls) :
    ∀ call ∈ calls, ∀ v ∈ call.values, v.Scalar := (parse_iff.1 read).2.scalar

theorem parse_entries_refused (named : field ≠ "") (entries : List (String × Json)) :
    parse field (.object entries) = .error fault ↔
      ∃ cause, fault = .malformed field cause ∧ ExpressionFault field (.object entries) cause := by
  rw [parse_entries, if_neg named]
  by_cases empty : entries = []
  · rw [if_pos empty]
    subst empty
    constructor
    · rintro ⟨⟩
      exact ⟨_, rfl, .noOperators named⟩
    · rintro ⟨cause, rfl, fault⟩
      generalize whole : Json.object [] = a at fault
      cases fault with
      | unnamed empty => exact absurd empty named
      | noOperators => rfl
      | entry => simp at whole
      | bare named unkeyed => exact absurd (whole ▸ rfl) unkeyed
  · rw [if_neg empty, mapM_eq_error]
    simp only [ofEntry_iff, ofEntry_refused]
    constructor
    · rintro ⟨before, entry, after, rfl, read, cause, rfl, fault⟩
      exact ⟨cause, rfl, .entry named read fault⟩
    · rintro ⟨cause, rfl, fault⟩
      cases fault with
      | unnamed empty => exact absurd empty named
      | noOperators => exact absurd rfl empty
      | entry named read fault => exact ⟨_, _, _, rfl, read, cause, rfl, fault⟩
      | bare named unkeyed => exact absurd rfl unkeyed

theorem parse_bare_refused (named : field ≠ "") (unkeyed : a.kind ≠ .object) :
    parse field a = .error fault ↔
      ∃ cause, fault = .malformed field cause ∧ ExpressionFault field a cause := by
  rw [parse_bare unkeyed, if_neg named, bind_eq_error]
  simp only [operands_refused]
  constructor
  · rintro (⟨cause, rfl, fault⟩ | ⟨values, -, ⟨⟩⟩)
    exact ⟨cause, rfl, .bare named unkeyed fault⟩
  · rintro ⟨cause, rfl, fault⟩
    cases fault with
    | unnamed empty => exact absurd empty named
    | noOperators => exact absurd rfl unkeyed
    | entry => exact absurd rfl unkeyed
    | bare named unkeyed fault => exact .inl ⟨cause, rfl, fault⟩

theorem parse_refused : parse field a = .error fault ↔
    ∃ cause, fault = .malformed field cause ∧ ExpressionFault field a cause := by
  by_cases named : field = ""
  · have refused : parse field a = .error (.malformed field .emptyField) := if_pos named
    rw [refused]
    constructor
    · rintro ⟨⟩
      exact ⟨_, rfl, .unnamed named⟩
    · rintro ⟨cause, rfl, fault⟩
      cases fault with
      | unnamed empty => rfl
      | _ => contradiction
  · cases a with
    | object entries => exact parse_entries_refused named entries
    | _ => exact parse_bare_refused named nofun

end OperatorCall

/-! ## Acceptance -/

def Json.IsOperand (a : Json) : Prop :=
  (Value.ofJson? a).isSome ∨ ∃ items, a = .array items ∧ ∀ x ∈ items, (Value.ofJson? x).isSome

def Json.IsExpression (a : Json) : Prop :=
  a.IsOperand ∨
    ∃ entries, a = .object entries ∧ entries ≠ [] ∧ ∀ e ∈ entries, Marked e.1 ∧ e.2.IsOperand

theorem Value.ofJson?_isSome {a : Json} : (ofJson? a).isSome ↔ ∃ v, a.Denotes v := by
  simp only [Option.isSome_iff_exists, ofJson?_iff]

theorem exists_operand {a : Json} : (∃ values, Operand a values) ↔ a.IsOperand := by
  unfold Json.IsOperand
  simp only [Value.ofJson?_isSome]
  constructor
  · rintro ⟨_, denotes | members⟩
    · exact .inl ⟨_, denotes⟩
    · exact .inr ⟨_, rfl, exists_forall₂.1 ⟨_, members⟩⟩
  · rintro (⟨v, denotes⟩ | ⟨items, rfl, each⟩)
    · exact ⟨[v], .single denotes⟩
    · obtain ⟨values, members⟩ := exists_forall₂.2 each
      exact ⟨values, .list members⟩

theorem exists_entry {field : String} {entry : String × Json} :
    (∃ call, Entry field entry call) ↔ Marked entry.1 ∧ entry.2.IsOperand := by
  rw [← exists_operand]
  constructor
  · rintro ⟨_, marked, operand⟩
    exact ⟨marked, _, operand⟩
  · rintro ⟨marked, values, operand⟩
    exact ⟨_, .operator marked operand⟩

theorem exists_expression {field : String} {a : Json} :
    (∃ calls, Expression field a calls) ↔ a.IsExpression := by
  unfold Json.IsExpression
  rw [← exists_operand]
  simp only [← @exists_entry field]
  constructor
  · rintro ⟨_, operand | ⟨nonempty, each⟩⟩
    · exact .inl ⟨_, operand⟩
    · exact .inr ⟨_, rfl, nonempty, exists_forall₂.1 ⟨_, each⟩⟩
  · rintro (⟨values, operand⟩ | ⟨entries, rfl, nonempty, each⟩)
    · exact ⟨_, .bare operand⟩
    · obtain ⟨calls, each⟩ := exists_forall₂.2 each
      exact ⟨calls, .operators nonempty each⟩

namespace OperatorCall

/-- Reading accepts the expressions of a field that has a name, and gives the calls that they stand
for; else it gives the first fault, for that field. No value that it gives is an array. -/
theorem expression_law (field : String) (a : Json) :
    ((∃ calls, parse field a = .ok calls) ↔ field ≠ "" ∧ a.IsExpression) ∧
    (∀ calls, parse field a = .ok calls ↔ field ≠ "" ∧ Expression field a calls) ∧
    (∀ fault, parse field a = .error fault ↔
      ∃ cause, fault = .malformed field cause ∧ ExpressionFault field a cause) ∧
    (∀ b v, Value.ofJson? b = some v ↔ b.Denotes v) ∧
    ∀ calls, parse field a = .ok calls → ∀ call ∈ calls, ∀ v ∈ call.values, v.Scalar := by
  refine ⟨?_, fun _ => parse_iff, fun _ => parse_refused, fun _ _ => Value.ofJson?_iff,
    fun _ => parse_scalar⟩
  simp only [parse_iff, exists_and_left, exists_expression]

/-- The second entry is the first to be refused, for its second member. -/
theorem expression_law_mixed :
    let front : Json := .object [("$in", .array [.integer (-1), .null])]
    let mixed : Json := .object [("$in", .array [.integer (-1), .null]),
      ("$gt", .array [.integer 2, .integer 9223372036854775808, .object []]),
      ("lt", .array [.array []])]
    parse "age" front = .ok [⟨"age", "$in", [.int (-1), .null]⟩] ∧ (Value.int (-1)).Scalar ∧
      ∃ fault, parse "age" mixed = .error fault ∧ fault.message =
        "malformed filter for field `age`: `$gt` expects scalar values, " ++
          "got an out-of-range integer" := by
  intro front mixed
  obtain ⟨-, accepts, -, -, scalars⟩ := expression_law "age" front
  obtain ⟨-, -, refuses, -⟩ := expression_law "age" mixed
  have entry : Entry "age" ("$in", .array [.integer (-1), .null])
      ⟨"age", "$in", [.int (-1), .null]⟩ :=
    .operator ⟨_, rfl⟩ (.list (.cons (.integer (-1)) (.cons .null .nil)))
  have read := (accepts _).2 ⟨by decide, .operators (by decide) (.cons entry .nil)⟩
  have wide : ∀ v, ¬ (Json.integer 9223372036854775808).Denotes v := by
    intro v denotes
    cases Value.ofJson?_iff.2 denotes
  have scalar : ∀ b ∈ [Json.integer 2], ∃ v, b.Denotes v :=
    List.forall_mem_singleton.2 ⟨_, .integer 2⟩
  have operand : OperandFault "$gt" (.array [.integer 2, .integer 9223372036854775808, .object []])
      (.notScalar "$gt" .number) := .member scalar wide
  have before : ∀ b ∈ [("$in", Json.array [.integer (-1), .null])], ∃ call, Entry "age" b call :=
    List.forall_mem_singleton.2 ⟨_, entry⟩
  have fault : ExpressionFault "age" mixed (.notScalar "$gt" .number) :=
    .entry (by decide) before (.operand ⟨_, rfl⟩ operand)
  refine ⟨read, scalars _ read _ List.mem_cons_self _ List.mem_cons_self, _,
    (refuses _).2 ⟨_, rfl, fault⟩, ?_⟩
  decide

end OperatorCall
end QueryFilter
