import QueryFilter.Proofs.Recording
import QueryFilter.Proofs.Reordering
import QueryFilter.Proofs.Shapes

/-!
# Operands and their values

Reading makes one call of each entry of an expression (`Expression.each`), with one value for each
item of its operand (`Operand.items`). So the calls that have no values are those whose operand is
the empty list. `operands_law` says this, and what becomes of such a call: the built-in operators
refuse it, and any other strategy runs on no values.
-/

namespace QueryFilter
open Resolution

/-! ## Items -/

/-- The members of a list, and what is no list as the one item that it is. -/
def Json.items : Json → List Json
  | .array items => items
  | a => [a]

section Items

variable {field : String} {a : Json} {values : List Value} {calls : List OperatorCall}

theorem Json.items_single (unlisted : a.kind ≠ .array) : a.items = [a] := by
  cases a with
  | array items => exact absurd rfl unlisted
  | _ => rfl

theorem Json.entries_bare (bare : a.kind ≠ .object) :
    a.entries = [(Operator.eq.token, a)] := by
  cases a with
  | object entries => exact absurd rfl bare
  | _ => rfl

theorem Operand.items (operand : Operand a values) :
    List.Forall₂ Json.Denotes a.items values := by
  cases operand with
  | single scalar =>
      have unlisted : a.kind ≠ .array := by cases scalar <;> nofun
      rw [Json.items_single unlisted]
      exact .cons scalar .nil
  | list members => exact members

theorem Json.items_eq_nil : a.items = [] ↔ a = .array [] := by
  cases a <;> simp [items]

theorem Operand.values_eq_nil (operand : Operand a values) : values = [] ↔ a = .array [] := by
  rw [← Json.items_eq_nil, ← List.length_eq_zero_iff, ← List.length_eq_zero_iff,
    operand.items.length_eq]

theorem exists_operand_items : (∃ values, Operand a values) ↔
    ∀ x ∈ a.items, ∃ v, x.Denotes v := by
  rw [← exists_forall₂]
  constructor
  · rintro ⟨values, operand⟩
    exact ⟨values, operand.items⟩
  · rintro ⟨values, each⟩
    by_cases listed : a.kind = .array
    · cases a with
      | array items => exact ⟨values, .list each⟩
      | _ => cases listed
    · rw [Json.items_single listed, List.forall₂_cons_left_iff] at each
      obtain ⟨v, _, denotes, -, -⟩ := each
      exact ⟨[v], .single denotes⟩

theorem Expression.each (read : Expression field a calls) :
    List.Forall₂ (Entry field) a.entries calls := by
  cases read with
  | bare operand =>
      rw [Json.entries_bare operand.unkeyed]
      exact .cons (.operator ⟨_, rfl⟩ operand) .nil
  | operators nonempty each => exact each

theorem exists_expression_entries : (∃ calls, Expression field a calls) ↔
    a.entries ≠ [] ∧ ∀ entry ∈ a.entries, ∃ call, Entry field entry call := by
  constructor
  · rintro ⟨calls, read⟩
    refine ⟨?_, exists_forall₂.1 ⟨calls, read.each⟩⟩
    cases read with
    | bare operand =>
        rw [Json.entries_bare operand.unkeyed]
        exact List.cons_ne_nil _ _
    | operators nonempty each => exact nonempty
  · rintro ⟨nonempty, each⟩
    obtain ⟨calls, each⟩ := exists_forall₂.2 each
    by_cases keyed : a.kind = .object
    · cases a with
      | object entries => exact ⟨calls, .operators nonempty each⟩
      | _ => cases keyed
    · rw [Json.entries_bare keyed, List.forall₂_cons_left_iff] at each
      obtain ⟨_, _, ⟨marked, operand⟩, -, -⟩ := each
      exact ⟨_, .bare operand⟩

end Items

/-! ## Calls without values -/

namespace Operator

theorem run_refused {op : Operator} {values : List Value} (rejected : ¬ op.Accepts values)
    (column : String) :
    ∃ cause, op.strategy.run column values = .reject (.malformed column cause) := by
  change ∃ cause, Outcome.ofExcept (op.clauses column values) = _
  cases op.clauses_settled column values with
  | recorded accepted made ok => exact absurd accepted rejected
  | @refused cause rejected error =>
      rw [error]
      exact ⟨cause, rfl⟩

theorem not_accepts_nil (op : Operator) : ¬ op.Accepts [] := by cases op <;> simp [Accepts]

end Operator

namespace Enabled

variable {e : Enabled} {field token : String} {s : Strategy}

theorem resolve_operator {a : Json} {values : List Value} (found : e.get? token = some s)
    (named : field ≠ "") (marked : Marked token) (operand : Operand a values) :
    e.resolve field (.object [(token, a)]) = .ok [(s, ⟨field, token, values⟩)] := by
  have shape : OperatorCall.parse field (.object [(token, a)]) = .ok [⟨field, token, values⟩] :=
    OperatorCall.parse_iff.2
      ⟨named, .operators (List.cons_ne_nil _ _) (.cons (.operator marked operand) .nil)⟩
  rw [resolve, shape]
  change [_].mapM (e.strategyFor field) = _
  rw [List.mapM_cons, strategyFor, found]
  rfl

/-- An operator on its own runs once, on the values of its operand. -/
theorem apply_operator {a : Json} {values : List Value} (found : e.get? token = some s)
    (named : field ≠ "") (marked : Marked token) (operand : Operand a values) :
    e.apply field (.object [(token, a)]) = s.run field values := by
  rw [apply, resolve_operator found named marked operand]
  exact Outcome.andThen_nothing _

end Enabled

namespace OperatorCall

/-- A call has no values if and only if its operand is the empty list. Built-in operators refuse to
run on none; any other strategy enabled does run on none. -/
theorem operands_law (field : String) :
    (∀ a calls, parse field a = .ok calls →
      List.Forall₂ (fun entry call => call.column = field ∧ call.token = entry.1 ∧
        (call.values = [] ↔ entry.2 = .array [])) a.entries calls ∧
      ((∀ call ∈ calls, call.values ≠ []) ↔ ∀ entry ∈ a.entries, entry.2 ≠ .array [])) ∧
    (∀ op : Operator,
      ∃ cause, op.strategy.run field [] = .reject (.malformed field cause)) ∧
    ∀ (e : Enabled) (token : String) (s : Strategy), e.get? token = some s → field ≠ "" →
      Marked token → e.apply field (.object [(token, .array [])]) = s.run field [] := by
  refine ⟨fun a calls read => ?_, fun op => Operator.run_refused op.not_accepts_nil field,
    fun e token s found named marked => Enabled.apply_operator found named marked (.list .nil)⟩
  have each : List.Forall₂ (fun entry call => call.column = field ∧ call.token = entry.1 ∧
      (call.values = [] ↔ entry.2 = .array [])) a.entries calls := by
    refine (parse_iff.1 read).2.each.imp ?_
    rintro _ _ ⟨marked, operand⟩
    exact ⟨rfl, rfl, operand.values_eq_nil⟩
  refine ⟨each, (forall₂_forall_iff ?_ each).symm⟩
  rintro entry call ⟨-, -, empty⟩
  exact not_congr empty.symm

theorem parse_no_operand : ¬ ∀ (field : String) (a : Json) (calls : List OperatorCall),
    parse field a = .ok calls → ∀ call ∈ calls, call.values ≠ [] := fun claim =>
  claim "id" (.array []) [⟨"id", "$eq", []⟩] rfl _ List.mem_cons_self rfl

theorem operands_law_custom :
    let near : Strategy := ⟨"$near", fun column values => ⟨[.any column .ne values], none⟩⟩
    let a : Json := .object [("$in", .array [.null]), ("$near", .array [])]
    parse "id" a = .ok [⟨"id", "$in", [.null]⟩, ⟨"id", "$near", []⟩] ∧
      (¬ ∀ call ∈ [(⟨"id", "$in", [.null]⟩ : OperatorCall), ⟨"id", "$near", []⟩],
        call.values ≠ []) ∧
      (⟨[near]⟩ : Enabled).apply "id" (.object [("$near", .array [])]) =
        ⟨[.any "id" .ne []], none⟩ := by
  intro near a
  obtain ⟨reads, -, runs⟩ := operands_law "id"
  have read : parse "id" a = .ok [⟨"id", "$in", [.null]⟩, ⟨"id", "$near", []⟩] := rfl
  refine ⟨read, fun some => ?_, runs ⟨[near]⟩ "$near" near rfl (by decide) ⟨_, rfl⟩⟩
  exact (reads a _ read).2.1 some ("$near", .array []) (by simp [a, Json.entries]) rfl

end OperatorCall
end QueryFilter
