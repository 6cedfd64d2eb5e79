import Mathlib.Data.List.Forall2
import QueryFilter.OperatorCall

/-!
# Reading expressions

What `OperatorCall.parse` does to each shape of an expression, and the tokens of the calls that it
reads (`parse_tokens`). A list is read without a fault if each of its members is (`mapM_eq_ok`), and
else with the fault of the first member that has one (`mapM_eq_error`).
-/

namespace QueryFilter

section Results

variable {ε α β : Type}

theorem bind_eq_ok {x : Except ε α} {f : α → Except ε β} {b : β} :
    x >>= f = .ok b ↔ ∃ a, x = .ok a ∧ f a = .ok b := by
  cases x with
  | error fault => exact ⟨nofun, fun ⟨_, ok, _⟩ => nomatch ok⟩
  | ok a =>
      constructor
      · exact fun next => ⟨a, rfl, next⟩
      · rintro ⟨_, same, next⟩
        cases same
        exact next

theorem bind_eq_error {x : Except ε α} {f : α → Except ε β} {fault : ε} :
    x >>= f = .error fault ↔ x = .error fault ∨ ∃ a, x = .ok a ∧ f a = .error fault := by
  cases x with
  | error other =>
      constructor
      · exact fun same => .inl (congrArg Except.error (Except.error.inj same))
      · rintro (same | ⟨a, ⟨⟩, -⟩)
        exact congrArg Except.error (Except.error.inj same)
  | ok a =>
      constructor
      · exact fun later => .inr ⟨a, rfl, later⟩
      · rintro (⟨⟨⟩⟩ | ⟨_, ⟨⟩, later⟩)
        exact later

theorem mapM_eq_ok {f : α → Except ε β} {xs : List α} {ys : List β} :
    xs.mapM f = .ok ys ↔ List.Forall₂ (fun x y => f x = .ok y) xs ys := by
  induction xs generalizing ys with
  | nil =>
      rw [List.forall₂_nil_left_iff]
      exact ⟨fun ok => (Except.ok.inj ok).symm, fun empty => congrArg Except.ok empty.symm⟩
  | cons x rest ih =>
      rw [List.mapM_cons, bind_eq_ok, List.forall₂_cons_left_iff]
      constructor
      · rintro ⟨y, first, next⟩
        obtain ⟨others, all, ok⟩ := bind_eq_ok.1 next
        exact ⟨y, others, first, ih.1 all, (Except.ok.inj ok).symm⟩
      · rintro ⟨y, others, first, all, rfl⟩
        exact ⟨y, first, bind_eq_ok.2 ⟨others, ih.2 all, rfl⟩⟩

/-- The first fault is the one that is reported. -/
theorem mapM_eq_error {f : α → Except ε β} {xs : List α} {fault : ε} :
    xs.mapM f = .error fault ↔ ∃ before x after, xs = before ++ x :: after ∧
      (∀ b ∈ before, ∃ y, f b = .ok y) ∧ f x = .error fault := by
  induction xs with
  | nil =>
      refine iff_of_false nofun ?_
      rintro ⟨before, x, after, empty, -⟩
      cases before <;> cases empty
  | cons x rest ih =>
      rw [List.mapM_cons, bind_eq_error]
      constructor
      · rintro (here | ⟨y, first, later⟩)
        · exact ⟨[], x, rest, rfl, List.forall_mem_nil _, here⟩
        · rcases bind_eq_error.1 later with later | ⟨ys, -, ⟨⟩⟩
          obtain ⟨before, z, after, rfl, fine, faulty⟩ := ih.1 later
          exact ⟨x :: before, z, after, rfl, List.forall_mem_cons.2 ⟨⟨y, first⟩, fine⟩, faulty⟩
      · rintro ⟨before, z, after, whole, fine, faulty⟩
        cases before with
        | nil =>
            cases whole
            exact .inl faulty
        | cons b before =>
            cases whole
            obtain ⟨⟨y, first⟩, others⟩ := List.forall_mem_cons.1 fine
            have later := ih.2 ⟨before, z, after, rfl, others, faulty⟩
            exact .inr ⟨y, first, bind_eq_error.2 (.inl later)⟩

theorem exists_forall₂ {R : α → β → Prop} {xs : List α} :
    (∃ ys, List.Forall₂ R xs ys) ↔ ∀ x ∈ xs, ∃ y, R x y := by
  induction xs with
  | nil => simp
  | cons x rest ih =>
      rw [List.forall_mem_cons, ← ih]
      constructor
      · rintro ⟨_, _ | ⟨first, others⟩⟩
        exact ⟨⟨_, first⟩, _, others⟩
      · rintro ⟨⟨y, first⟩, ys, others⟩
        exact ⟨y :: ys, .cons first others⟩

theorem forall₂_forall {R : α → β → Prop} {holds : β → Prop} {xs : List α} {ys : List β}
    (each : ∀ x ∈ xs, ∀ y, R x y → holds y) (rows : List.Forall₂ R xs ys) : ∀ y ∈ ys, holds y := by
  induction rows with
  | nil => exact List.forall_mem_nil _
  | cons first others ih =>
      obtain ⟨head, tail⟩ := List.forall_mem_cons.1 each
      exact List.forall_mem_cons.2 ⟨head _ first, ih tail⟩

end Results

namespace OperatorCall

variable {field token : String} {a : Json}

theorem operands_single (unlisted : a.kind ≠ .array) :
    operands field token a = do return [← scalar field token a] := by
  cases a with
  | array items => exact absurd rfl unlisted
  | _ => rfl

theorem parse_bare (bare : a.kind ≠ .object) :
    parse field a = if field = "" then .error (.malformed field .emptyField) else
      do return [⟨field, Operator.eq.token, ← operands field Operator.eq.token a⟩] := by
  cases a with
  | object fields => exact absurd rfl bare
  | _ => rfl

theorem parse_entries (entries : List (String × Json)) :
    parse field (.object entries) = if field = "" then .error (.malformed field .emptyField) else
      if entries = [] then .error (.malformed field .noOperators)
      else entries.mapM (ofEntry field) := by
  cases entries <;> rfl

/-- The two ways in which an expression is read. -/
theorem parse_ok {calls : List OperatorCall} : parse field a = .ok calls ↔ field ≠ "" ∧
    ((∃ entries, a = .object entries ∧ entries ≠ [] ∧ entries.mapM (ofEntry field) = .ok calls) ∨
      a.kind ≠ .object ∧ ∃ values, operands field Operator.eq.token a = .ok values ∧
        calls = [⟨field, Operator.eq.token, values⟩]) := by
  by_cases named : field = ""
  · have refused : parse field a = .error (.malformed field .emptyField) := if_pos named
    rw [refused]
    exact ⟨nofun, fun read => absurd named read.1⟩
  by_cases listed : a.kind = .object
  · obtain ⟨entries, rfl⟩ : ∃ entries, a = .object entries := by
      cases a with
      | object entries => exact ⟨entries, rfl⟩
      | _ => cases listed
    rw [parse_entries, if_neg named]
    by_cases empty : entries = []
    · rw [if_pos empty]
      refine ⟨nofun, ?_⟩
      rintro ⟨-, ⟨_, ⟨⟩, some, -⟩ | ⟨bare, -⟩⟩
      · exact absurd empty some
      · exact absurd listed bare
    · rw [if_neg empty]
      refine ⟨fun read => ⟨named, .inl ⟨entries, rfl, empty, read⟩⟩, ?_⟩
      rintro ⟨-, ⟨_, ⟨⟩, -, read⟩ | ⟨bare, -⟩⟩
      · exact read
      · exact absurd listed bare
  · rw [parse_bare listed, if_neg named, bind_eq_ok]
    constructor
    · rintro ⟨values, read, same⟩
      exact ⟨named, .inr ⟨listed, values, read, (Except.ok.inj same).symm⟩⟩
    · rintro ⟨-, ⟨entries, rfl, -⟩ | ⟨-, values, read, rfl⟩⟩
      · exact absurd rfl listed
      · exact ⟨values, read, rfl⟩

/-! ## Tokens -/

/-- The operators that an expression uses; the bare forms ask for equality. -/
def tokensOf : Json → List String
  | .object entries => entries.map Prod.fst
  | _ => [Operator.eq.token]

theorem ofEntry_token {entry : String × Json} {call : OperatorCall}
    (read : ofEntry field entry = .ok call) : call.token = entry.1 := by
  unfold ofEntry at read
  split at read
  · obtain ⟨values, -, same⟩ := bind_eq_ok.1 read
    cases same
    rfl
  · cases read

theorem parse_tokens {calls : List OperatorCall} (read : parse field a = .ok calls) :
    calls.map OperatorCall.token = tokensOf a := by
  obtain ⟨-, ⟨entries, rfl, -, read⟩ | ⟨bare, values, -, rfl⟩⟩ := parse_ok.1 read
  · have each := (mapM_eq_ok.1 read).imp fun _ _ entry => (ofEntry_token entry).symm
    change _ = entries.map Prod.fst
    rw [eq_comm, ← List.forall₂_eq_eq_eq, List.forall₂_map_left_iff, List.forall₂_map_right_iff]
    exact each
  · cases a with
    | object entries => exact absurd rfl bare
    | _ => rfl

end OperatorCall
end QueryFilter
