import QueryFilter.Proofs.Decoding

/-!
# Forms of values

Of a value, a statement shows its form and no more: its kind, and for an array the kinds of its
members. Clauses are `Alike` if they differ only in values of one form. A condition of forms has the
numbers of the condition it was made from (`map_number`), so alike clauses have one text, and
parameters of one form place by place (`build_alike`).
-/

namespace QueryFilter

/-! ## Conditions under a change of operands -/

section Mapping

variable {α β : Type} (f : α → β)

theorem Test.map_number (t : Test α) (k : Nat) : (t.map f).number k = t.number k := by
  cases t <;> rfl

theorem numberEach_map_number {γ δ ε : Type} {g : γ → δ} {before : γ → Nat → ε × Nat}
    {after : δ → Nat → ε × Nat} (each : ∀ x k, after (g x) k = before x k) (xs : List γ)
    (k : Nat) : numberEach after (xs.map g) k = numberEach before xs k := by
  induction xs generalizing k with
  | nil => rfl
  | cons x rest ih => simp only [List.map_cons, numberEach, each, ih]

theorem Predicate.map_number (p : Predicate α) (k : Nat) : (p.map f).number k = p.number k := by
  cases p with
  | test t => exact congrArg (fun x => (Predicate.test x.1, x.2)) (t.map_number f k)
  | anyOf t u rest =>
      simp only [Predicate.map, Predicate.number, Test.map_number,
        numberEach_map_number (Test.map_number f)]
  | between low high => rfl
  | inArray set negated => rfl
  | inList members negated =>
      simp only [Predicate.map, Predicate.number, numberEach_numberOne, List.length_map]

theorem Condition.map_number (c : Condition α) (k : Nat) : (c.map f).number k = c.number k := by
  cases c with
  | noRows => rfl
  | allRows => rfl
  | on column predicate =>
      exact congrArg (fun x => (Condition.on column x.1, x.2)) (predicate.map_number f k)

theorem Test.map_operands (t : Test α) : (t.map f).operands = t.operands.map f := by
  cases t <;> rfl

theorem Predicate.map_operands (p : Predicate α) : (p.map f).operands = p.operands.map f := by
  cases p with
  | test t => exact t.map_operands f
  | anyOf t u rest =>
      change ((t :: u :: rest).map (Test.map f)).flatMap Test.operands =
        ((t :: u :: rest).flatMap Test.operands).map f
      rw [List.flatMap_map, List.map_flatMap]
      exact List.flatMap_congr fun v _ => v.map_operands f
  | between low high => rfl
  | inArray set negated => rfl
  | inList members negated => rfl

theorem Condition.map_operands (c : Condition α) : (c.map f).operands = c.operands.map f := by
  cases c with
  | noRows => rfl
  | allRows => rfl
  | on column predicate => exact predicate.map_operands f

end Mapping

/-! ## Alike clauses -/

def Value.form (v : Value) : Value.Kind × List Value.Kind := (v.kind, v.items.map Value.kind)

/-- Clauses that differ only in values of one form. -/
inductive Clause.Alike : Clause → Clause → Prop where
  | compare (column : String) (op : Comparison) {v w : Value} (form : v.form = w.form) :
      Alike (.compare column op v) (.compare column op w)
  | any (column : String) (op : Comparison) {vs ws : List Value}
      (forms : vs.map Value.form = ws.map Value.form) :
      Alike (.any column op vs) (.any column op ws)
  | member (column : String) {vs ws : List Value} (negated : Bool)
      (forms : vs.map Value.form = ws.map Value.form) :
      Alike (.member column vs negated) (.member column ws negated)
  | null (column : String) (negated : Bool) : Alike (.null column negated) (.null column negated)
  | between (column : String) {v v' w w' : Value} (low : v.form = w.form)
      (high : v'.form = w'.form) : Alike (.between column v v') (.between column w w')

theorem Value.kind_of_form {v w : Value} (form : v.form = w.form) : v.kind = w.kind :=
  congrArg Prod.fst form

theorem Value.kinds_of_forms {vs ws : List Value} (forms : vs.map Value.form = ws.map Value.form) :
    vs.map Value.kind = ws.map Value.kind := by
  have kinds := congrArg (List.map Prod.fst) forms
  rwa [List.map_map, List.map_map] at kinds

theorem Value.forms_iff {vs ws : List Value} : vs.map Value.form = ws.map Value.form ↔
    List.Forall₂ (fun v w => v.form = w.form) vs ws := by
  rw [← List.forall₂_eq_eq_eq, List.forall₂_map_left_iff, List.forall₂_map_right_iff]

theorem Value.nil_of_forms {vs ws : List Value} (forms : vs.map Value.form = ws.map Value.form) :
    vs = [] ↔ ws = [] := by
  rw [← List.map_eq_nil_iff (f := Value.form), forms, List.map_eq_nil_iff]

theorem Value.eq_null {v : Value} (kind : v.kind = .null) : v = .null := by
  cases v <;> first | rfl | cases kind

theorem Dialect.test_of_ne_null (d : Dialect) (op : Comparison) {v : Value} (value : v ≠ .null) :
    d.test op v = .compare (d.comparison op) v := by
  unfold Dialect.test
  split
  · exact absurd rfl value
  · exact absurd rfl value
  · rfl

theorem Dialect.test_form (d : Dialect) (op : Comparison) {v w : Value} (form : v.form = w.form) :
    (d.test op v).map Value.form = (d.test op w).map Value.form := by
  have kind := Value.kind_of_form form
  by_cases null : v = .null
  · subst null
    rw [Value.eq_null kind.symm]
  · have other : w ≠ .null := fun w_null => null (Value.eq_null (kind.trans (w_null ▸ rfl)))
    rw [d.test_of_ne_null op null, d.test_of_ne_null op other]
    exact congrArg (Test.compare (d.comparison op)) form

theorem Dialect.tests_form (d : Dialect) (op : Comparison) {vs ws : List Value}
    (forms : vs.map Value.form = ws.map Value.form) :
    (vs.map (d.test op)).map (Test.map Value.form) =
      (ws.map (d.test op)).map (Test.map Value.form) := by
  induction vs generalizing ws with
  | nil => rw [List.map_eq_nil_iff.1 forms.symm]
  | cons v rest ih =>
      cases ws with
      | nil => cases forms
      | cons w others =>
          injection forms with first forms
          exact congrArg₂ List.cons (d.test_form op first) (ih forms)

theorem Clause.Alike.conditionOn {c c' : Clause} (alike : c.Alike c') (d : Dialect)
    (column : Identifier) :
    (c.conditionOn d column).map Value.form = (c'.conditionOn d column).map Value.form := by
  cases alike with
  | compare name op form =>
      exact congrArg (fun t => Condition.on column (.test t)) (d.test_form op form)
  | @any name op vs ws forms =>
      match vs, ws, forms with
      | [], [], _ => rfl
      | [v], [w], forms =>
          injection forms with form
          exact congrArg (fun t => Condition.on column (.test t)) (d.test_form op form)
      | [_], _ :: _ :: _, forms => nomatch (List.cons.inj forms).2
      | _ :: _ :: _, [_], forms => nomatch (List.cons.inj forms).2
      | v :: v' :: vs, w :: w' :: ws, forms =>
          injection forms with first forms
          injection forms with second forms
          have others := d.tests_form op forms
          change Condition.on column (.anyOf _ _ _) = Condition.on column (.anyOf _ _ _)
          rw [d.test_form op first, d.test_form op second, others]
  | @member name vs ws negated forms =>
      match vs, ws, forms with
      | [], [], _ => cases negated <;> rfl
      | v :: vs, w :: ws, forms =>
          cases d with
          | postgres =>
              have kinds := Value.kinds_of_forms forms
              exact congrArg
                (fun ks => Condition.on column (.inArray (Value.Kind.array, ks) negated)) kinds
          | sqlite => exact congrArg (fun fs => Condition.on column (.inList fs negated)) forms
  | null name negated => rfl
  | between name low high =>
      exact congrArg₂ (fun l h => Condition.on column (.between l h)) low high

theorem Clause.Alike.condition {c c' : Clause} (alike : c.Alike c') (d : Dialect) :
    (c.condition d).map Value.form = (c'.condition d).map Value.form := by
  have column : c.column = c'.column := by cases alike <;> rfl
  by_cases valid : isIdentifier c.column = true
  · rw [condition_of_valid d c valid, condition_of_valid d c' (column ▸ valid)]
    simp only [column]
    exact alike.conditionOn d _
  · have invalid : ¬ isIdentifier c'.column = true := column ▸ valid
    unfold Clause.condition
    rw [dif_neg valid, dif_neg invalid]

/-! ## Statements -/

/-- The dialect and the forms of values decide the text of a statement. -/
theorem Select.build_alike (q : Select) {cs ds : List Clause}
    (alike : List.Forall₂ Clause.Alike cs ds) :
    (q.add cs).build.sql = (q.add ds).build.sql ∧
      (q.add cs).build.params.map Value.form = (q.add ds).build.params.map Value.form := by
  have forms : (q.add cs).conditions.map (Condition.map Value.form) =
      (q.add ds).conditions.map (Condition.map Value.form) := by
    simp only [conditions, add, List.map_append, List.append_cancel_left_eq]
    induction alike with
    | nil => rfl
    | cons first others ih =>
        exact congrArg₂ List.cons (first.condition q.dialect) ih
  have numbered_form : ∀ xs : List (Condition Value),
      numbered xs 1 = (numberEach Condition.number (xs.map (Condition.map Value.form)) 1).1 :=
    fun xs => congrArg Prod.fst (numberEach_map_number (Condition.map_number Value.form) xs 1).symm
  have operands_form : ∀ xs : List (Condition Value),
      (xs.flatMap Condition.operands).map Value.form =
        (xs.map (Condition.map Value.form)).flatMap Condition.operands := by
    intro xs
    rw [List.map_flatMap, List.flatMap_map]
    exact List.flatMap_congr fun c _ => (c.map_operands Value.form).symm
  rw [build_eq, build_eq]
  constructor
  · simp only [numbered_form, forms]
    rfl
  · simp only [operands_form, forms]

end QueryFilter
