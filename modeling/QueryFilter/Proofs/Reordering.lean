import QueryFilter.Proofs.Decoding
import QueryFilter.Proofs.Expressions
import QueryFilter.Proofs.Resolution

/-!
# Reordered filters

A specification is a row of entries, each of a field, an operator and an operand (`Spec.entries`).
What an entry records does not depend on the others: a field is accepted if each of its entries is
accepted alone, and then records what these record, in their order (`apply_object_iff`). So a
specification `Reordered` is accepted as before, and the same blocks of clauses come in another
order (`reordering_law`).
-/

namespace QueryFilter
open Resolution

/-! ## Entries -/

/-- The operators of an expression with their operands; the bare forms ask for equality. -/
def Json.entries : Json → List (String × Json)
  | .object entries => entries
  | json => [(Operator.eq.token, json)]

def Spec.entries (s : Spec) : List (String × String × Json) :=
  s.fields.flatMap fun f => f.2.entries.map (Prod.mk f.1)

/-- The same operators with the same operands, in any order. -/
inductive Json.Reordered : Json → Json → Prop where
  | same (a : Json) : Reordered a a
  | entries {es fs : List (String × Json)} (perm : es.Perm fs) : Reordered (.object es) (.object fs)

/-- The same fields in any order, and for each the same expression or one reordered. -/
def Spec.Reordered (s t : Spec) : Prop :=
  ∃ fields, s.fields.Perm fields ∧
    List.Forall₂ (fun f g => f.1 = g.1 ∧ f.2.Reordered g.2) fields t.fields

section Rows

variable {α β γ : Type}

theorem forall₂_comp {R : α → β → Prop} {S : β → γ → Prop} {xs : List α} {zs : List γ} :
    (∃ ys, List.Forall₂ R xs ys ∧ List.Forall₂ S ys zs) ↔
      List.Forall₂ (fun x z => ∃ y, R x y ∧ S y z) xs zs := by
  constructor
  · rintro ⟨ys, first, second⟩
    induction first generalizing zs with
    | nil =>
        cases second
        exact .nil
    | cons head tail ih =>
        cases second with
        | cons head' tail' => exact .cons ⟨_, head, head'⟩ (ih tail')
  · intro each
    induction each with
    | nil => exact ⟨[], .nil, .nil⟩
    | cons head tail ih =>
        obtain ⟨y, first, second⟩ := head
        obtain ⟨ys, others, others'⟩ := ih
        exact ⟨y :: ys, .cons first others, .cons second others'⟩

theorem forall₂_flatMap_perm {R : α → β → Prop} {f : α → List γ} {g : β → List γ} {xs : List α}
    {ys : List β} (perm : ∀ x y, R x y → (f x).Perm (g y)) (each : List.Forall₂ R xs ys) :
    (xs.flatMap f).Perm (ys.flatMap g) := by
  induction each with
  | nil => exact .nil
  | cons first others ih => exact (perm _ _ first).append ih

theorem forall₂_forall_iff {R : α → β → Prop} {p : α → Prop} {q : β → Prop} {xs : List α}
    {ys : List β} (same : ∀ x y, R x y → (p x ↔ q y)) (each : List.Forall₂ R xs ys) :
    (∀ x ∈ xs, p x) ↔ ∀ y ∈ ys, q y := by
  induction each with
  | nil => simp
  | cons first others ih => rw [List.forall_mem_cons, List.forall_mem_cons, same _ _ first, ih]

end Rows

theorem Json.Reordered.perm {a b : Json} (reordered : a.Reordered b) :
    a.entries.Perm b.entries := by
  cases reordered with
  | same => exact .refl _
  | entries perm => exact perm

theorem Spec.Reordered.perm {s t : Spec} (reordered : s.Reordered t) :
    s.entries.Perm t.entries := by
  obtain ⟨fields, perm, each⟩ := reordered
  refine (perm.flatMap_right _).trans (forall₂_flatMap_perm ?_ each)
  rintro ⟨field, a⟩ ⟨_, b⟩ ⟨rfl, expression⟩
  exact expression.perm.map _

/-! ## Entries on their own -/

theorem Outcome.inTurn_clauses {os : List Outcome} (accepted : ∀ o ∈ os, o.rejection = none) :
    (inTurn os).clauses = os.flatMap Outcome.clauses := by
  induction os with
  | nil => rfl
  | cons o rest ih =>
      obtain ⟨first, others⟩ := List.forall_mem_cons.1 accepted
      obtain ⟨cs, r⟩ := o
      cases first
      rw [List.flatMap_cons, ← ih others]
      rfl

namespace Enabled

/-- An entry on its own, as the filter of its field. -/
def applyEntry (e : Enabled) (entry : String × String × Json) : Outcome :=
  e.apply entry.1 (.object [entry.2])

/-- The call that an entry asks for is read, made and accepted. -/
def EntryRun (e : Enabled) (field : String) (entry : String × Json) (cs : List Clause) : Prop :=
  ∃ call, OperatorCall.ofEntry field entry = .ok call ∧ CallRun e call cs none

variable {e : Enabled} {field : String} {cs : List Clause} {es : List (String × Json)}

theorem apply_entries (e : Enabled) (field : String) (a : Json) :
    e.apply field a = e.apply field (.object a.entries) := by
  by_cases keyed : a.kind = .object
  · cases a with
    | object entries => rfl
    | _ => cases keyed
  · have entries : a.entries = [(Operator.eq.token, a)] := by
      cases a with
      | object entries => exact absurd rfl keyed
      | _ => rfl
    have parsed : OperatorCall.parse field a = OperatorCall.parse field (.object a.entries) := by
      have marked : OperatorCall.isToken Operator.eq.token = true := by decide
      rw [OperatorCall.parse_bare keyed, entries, OperatorCall.parse_entries]
      simp only [List.cons_ne_self, if_false, List.mapM_cons, List.mapM_nil, OperatorCall.ofEntry,
        marked, if_true, bind_assoc, pure_bind]
    rw [apply, apply, resolve, resolve, parsed]

theorem apply_object_run : e.apply field (.object es) = ⟨cs, none⟩ ↔ field ≠ "" ∧ es ≠ [] ∧
    ∃ made, List.Forall₂ (EntryRun e field) es made ∧ cs = made.flatten := by
  rw [apply_run]
  constructor
  · intro run
    cases run with
    | resolved shape enabled turns =>
        obtain ⟨named, ⟨_, ⟨⟩, nonempty, read⟩ | ⟨bare, -⟩⟩ := OperatorCall.parse_ok.1 shape
        · cases turns with
          | accepted each =>
              exact ⟨named, nonempty, _, forall₂_comp.1 ⟨_, mapM_eq_ok.1 read, each⟩, rfl⟩
        · exact absurd rfl bare
  · rintro ⟨named, nonempty, made, each, rfl⟩
    obtain ⟨calls, read, runs⟩ := forall₂_comp.2 each
    have shape := OperatorCall.parse_ok.2 ⟨named, .inl ⟨es, rfl, nonempty, mapM_eq_ok.2 read⟩⟩
    have enabled : ∀ c ∈ calls, c.token ∈ e.tokens := by
      intro c member
      obtain ⟨_, s, found, -⟩ := exists_forall₂.1 ⟨made, runs⟩ c member
      exact get?_isSome.1 (Option.isSome_of_eq_some found)
    exact .resolved shape enabled (.accepted runs)

theorem applyEntry_run {entry : String × Json} :
    e.applyEntry (field, entry) = ⟨cs, none⟩ ↔ field ≠ "" ∧ EntryRun e field entry cs := by
  refine apply_object_run.trans (and_congr_right fun _ => ?_)
  constructor
  · rintro ⟨-, _, _ | ⟨first, ⟨⟩⟩, rfl⟩
    rw [List.flatten_singleton]
    exact first
  · intro run
    exact ⟨List.cons_ne_nil _ _, [cs], .cons run .nil, List.flatten_singleton.symm⟩

/-- A field is accepted if each of its entries is accepted alone. -/
theorem apply_object_iff : e.apply field (.object es) = ⟨cs, none⟩ ↔ es ≠ [] ∧
    (∀ entry ∈ es, (e.applyEntry (field, entry)).rejection = none) ∧
      cs = es.flatMap fun entry => (e.applyEntry (field, entry)).clauses := by
  rw [apply_object_run]
  constructor
  · rintro ⟨named, nonempty, made, each, rfl⟩
    refine ⟨nonempty, ?_⟩
    clear nonempty
    induction each with
    | nil => exact ⟨List.forall_mem_nil _, rfl⟩
    | cons first others ih =>
        obtain ⟨accepted, clauses⟩ := ih
        have run := applyEntry_run.2 ⟨named, first⟩
        rw [List.forall_mem_cons, List.flatMap_cons, List.flatten_cons, ← clauses, run]
        exact ⟨⟨rfl, accepted⟩, rfl⟩
  · rintro ⟨nonempty, accepted, rfl⟩
    have run (entry : String × Json) (member : entry ∈ es) :=
      applyEntry_run.1 (congrArg (Outcome.mk (e.applyEntry (field, entry)).clauses)
        (accepted entry member))
    obtain ⟨first, member⟩ := List.exists_mem_of_ne_nil es nonempty
    refine ⟨(run first member).1, nonempty,
      es.map fun entry => (e.applyEntry (field, entry)).clauses, ?_, List.flatMap_def ..⟩
    rw [List.forall₂_map_right_iff, List.forall₂_same]
    exact fun entry member => (run entry member).2

theorem apply_iff {a : Json} : e.apply field a = ⟨cs, none⟩ ↔ a.entries ≠ [] ∧
    (∀ entry ∈ a.entries, (e.applyEntry (field, entry)).rejection = none) ∧
      cs = a.entries.flatMap fun entry => (e.applyEntry (field, entry)).clauses := by
  rw [apply_entries, apply_object_iff]

theorem apply_accepted_iff {a : Json} : (e.apply field a).rejection = none ↔
    a.entries ≠ [] ∧ ∀ entry ∈ a.entries, (e.applyEntry (field, entry)).rejection = none := by
  constructor
  · intro accepted
    have run := apply_iff.1 (congrArg (Outcome.mk (e.apply field a).clauses) accepted)
    exact ⟨run.1, run.2.1⟩
  · rintro ⟨nonempty, accepted⟩
    rw [apply_iff.2 ⟨nonempty, accepted, rfl⟩]

theorem apply_clauses {a : Json} (accepted : (e.apply field a).rejection = none) :
    (e.apply field a).clauses =
      a.entries.flatMap fun entry => (e.applyEntry (field, entry)).clauses :=
  (apply_iff.1 (congrArg (Outcome.mk (e.apply field a).clauses) accepted)).2.2

/-! ## Specifications -/

variable {s t : Spec}

theorem applyAll_clauses (accepted : (e.applyAll s).rejection = none) :
    (e.applyAll s).clauses = s.entries.flatMap fun entry => (e.applyEntry entry).clauses := by
  rw [applyAll, Outcome.inTurn_clauses ((inTurn_accepted _).1 accepted), List.flatMap_map,
    Spec.entries, List.flatMap_assoc]
  refine List.flatMap_congr fun f member => ?_
  rw [apply_clauses (accepted_fields.1 accepted f member), List.flatMap_map]

theorem apply_reordered {a b : Json} (reordered : a.Reordered b) :
    (e.apply field a).rejection = none ↔ (e.apply field b).rejection = none := by
  have perm := reordered.perm
  rw [apply_accepted_iff, apply_accepted_iff]
  have empty : a.entries = [] ↔ b.entries = [] :=
    ⟨fun none => List.nil_perm.1 (none ▸ perm), fun none => List.perm_nil.1 (none ▸ perm)⟩
  simp only [ne_eq, empty, perm.mem_iff]

theorem applyAll_reordered (reordered : s.Reordered t) :
    (e.applyAll s).rejection = none ↔ (e.applyAll t).rejection = none := by
  obtain ⟨fields, perm, each⟩ := reordered
  rw [accepted_fields, accepted_fields]
  simp only [perm.mem_iff]
  refine forall₂_forall_iff ?_ each
  rintro ⟨field, a⟩ ⟨_, b⟩ ⟨rfl, expression⟩
  exact apply_reordered expression

end Enabled

/-! ## Statements -/

/-- The number of conditions that are read in a text. -/
def conditionCount (d : Dialect) (sql : String) : Option Nat :=
  (Reading.readStatement d (Scanning.words sql)).map fun outline => outline.conditions.length

theorem Select.conditionCount_build (q : Select) :
    conditionCount q.dialect q.build.sql = some q.clauses.length := by
  rw [conditionCount, Reading.readStatement_words, Option.map_some, numbered, length_numberEach,
    conditions, List.length_map]

theorem Select.params_perm (q : Select) {cs ds : List Clause} (perm : cs.Perm ds) :
    (q.add cs).build.params.Perm (q.add ds).build.params := by
  rw [build_eq, build_eq]
  exact ((perm.append_left q.clauses).map _).flatMap_right _

namespace Enabled

/-- The order of fields, and of operators within a field, decides neither whether a specification is
accepted nor what it records; only the blocks of clauses of its entries change places. -/
theorem reordering_law (e : Enabled) {s t : Spec} (reordered : s.Reordered t) :
    ((e.applyAll s).rejection = none ↔ (e.applyAll t).rejection = none) ∧
    ((e.applyAll s).rejection = none →
      s.entries.Perm t.entries ∧
      (e.applyAll s).clauses = s.entries.flatMap (fun entry => (e.applyEntry entry).clauses) ∧
      (e.applyAll t).clauses = t.entries.flatMap (fun entry => (e.applyEntry entry).clauses) ∧
      (e.applyAll s).clauses.Perm (e.applyAll t).clauses ∧
      ∀ q : Select,
        let qs := (q.add (e.applyAll s).clauses).build
        let qt := (q.add (e.applyAll t).clauses).build
        (∃ n, conditionCount q.dialect qs.sql = some n ∧ conditionCount q.dialect qt.sql = some n) ∧
          qs.params.Perm qt.params) := by
  refine ⟨applyAll_reordered reordered, fun accepted => ?_⟩
  have entries := reordered.perm
  have clauses := applyAll_clauses accepted
  have clauses' := applyAll_clauses ((applyAll_reordered reordered).1 accepted)
  have perm : (e.applyAll s).clauses.Perm (e.applyAll t).clauses := by
    rw [clauses, clauses']
    exact entries.flatMap_right _
  refine ⟨entries, clauses, clauses', perm, fun q => ⟨⟨_, (q.add _).conditionCount_build, ?_⟩,
    q.params_perm perm⟩⟩
  refine (q.add (e.applyAll t).clauses).conditionCount_build.trans (congrArg some ?_)
  exact ((perm.append_left q.clauses).length_eq).symm

theorem reordering_law_swapped :
    let e : Enabled := ⟨Registry.builtin.strategies⟩
    let s := Spec.ofFields [("age", .object [("$gt", .array [.integer 1, .integer 2]),
      ("$lt", .integer 9)]), ("id", .array [.integer 4, .integer 7])]
    let t := Spec.ofFields [("id", .array [.integer 4, .integer 7]),
      ("age", .object [("$lt", .integer 9), ("$gt", .array [.integer 1, .integer 2])])]
    let q : Select := { dialect := .sqlite, table := ⟨"users", by decide⟩ }
    let qt := (q.add (e.applyAll t).clauses).build
    (e.applyAll t).rejection = none ∧ (e.applyAll s).clauses.Perm (e.applyAll t).clauses ∧
      (q.add (e.applyAll s).clauses).build.params.Perm qt.params ∧
      qt.params = [.int 4, .int 7, .int 9, .int 1, .int 2] := by
  intro e s t q qt
  have reordered : s.Reordered t :=
    ⟨_, .swap _ _ _, .cons ⟨rfl, .same _⟩ (.cons ⟨rfl, .entries (.swap _ _ _)⟩ .nil)⟩
  obtain ⟨accepts, records⟩ := reordering_law e reordered
  have accepted : (e.applyAll s).rejection = none := by decide
  obtain ⟨-, -, -, clauses, statements⟩ := records accepted
  exact ⟨accepts.1 accepted, clauses, (statements q).2, by decide⟩

end Enabled
end QueryFilter
