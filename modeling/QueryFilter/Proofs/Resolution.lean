import Mathlib.Data.List.Forall2
import QueryFilter.Proofs.Enabling
import QueryFilter.Resolve
import QueryFilter.Statement.Select

/-!
# Runs of resolution

What a specification records is told here without the functions that resolve it. `FieldRun` has the
two ways in which a field fails before a strategy runs, and the one in which strategies do; `InTurn`
says what several runs, of the calls of a field or of the fields of a specification, record
together. `applyAll_run` and `apply_run` say that resolution makes these runs and no others.
-/

namespace QueryFilter.Resolution

/-! ## Runs in turn -/

section Turns

variable {α : Type} (run : α → List Clause → Option FilterError → Prop)

/-- All are accepted, or all before one that is rejected; what is after that one does not run. -/
inductive InTurn : List α → List Clause → Option FilterError → Prop where
  | accepted {xs : List α} {made : List (List Clause)}
      (each : List.Forall₂ (fun x cs => run x cs none) xs made) :
      InTurn xs made.flatten none
  | rejected {before after : List α} {x : α} {made : List (List Clause)} {last : List Clause}
      {fault : FilterError} (each : List.Forall₂ (fun x cs => run x cs none) before made)
      (stops : run x last (some fault)) :
      InTurn (before ++ x :: after) (made.flatten ++ last) (some fault)

variable {run} {x : α} {xs : List α} {cs : List Clause} {r : Option FilterError}

theorem inTurn_nil : InTurn run [] cs r ↔ cs = [] ∧ r = none := by
  constructor
  · generalize none : ([] : List α) = ys
    intro turns
    cases turns with
    | accepted each =>
        subst none
        cases each
        exact ⟨rfl, rfl⟩
    | rejected each stops => simp at none
  · rintro ⟨rfl, rfl⟩
    have turns : InTurn run [] ([] : List (List Clause)).flatten none := .accepted .nil
    exact turns

theorem InTurn.after {ds : List Clause} (first : run x ds none) (turns : InTurn run xs cs r) :
    InTurn run (x :: xs) (ds ++ cs) r := by
  cases turns with
  | accepted each => exact .accepted (.cons first each)
  | @rejected before rest y made last fault each stops =>
      have turns : InTurn run (x :: before ++ y :: rest) ((ds :: made).flatten ++ last)
        (some fault) := .rejected (.cons first each) stops
      rw [List.flatten_cons, List.append_assoc] at turns
      exact turns

theorem inTurn_cons : InTurn run (x :: xs) cs r ↔
    (∃ fault, r = some fault ∧ run x cs (some fault)) ∨
      ∃ ds es, run x ds none ∧ InTurn run xs es r ∧ cs = ds ++ es := by
  constructor
  · generalize whole : x :: xs = ys
    intro turns
    cases turns with
    | accepted each =>
        subst whole
        cases each with
        | cons first others => exact .inr ⟨_, _, first, .accepted others, List.flatten_cons⟩
    | rejected each stops =>
        cases each with
        | nil =>
            obtain ⟨rfl, rfl⟩ := List.cons.inj whole
            exact .inl ⟨_, rfl, stops⟩
        | cons first others =>
            obtain ⟨rfl, rfl⟩ := List.cons.inj whole
            refine .inr ⟨_, _, first, .rejected others stops, ?_⟩
            rw [List.flatten_cons, List.append_assoc]
  · rintro (⟨fault, rfl, stops⟩ | ⟨ds, es, first, turns, rfl⟩)
    · have turns : InTurn run ([] ++ x :: xs) (([] : List (List Clause)).flatten ++ cs)
        (some fault) := .rejected .nil stops
      exact turns
    · exact turns.after first

theorem inTurn_iff {os : List Outcome}
    (each : List.Forall₂ (fun x o => ∀ cs r, o = ⟨cs, r⟩ ↔ run x cs r) xs os) :
    Outcome.inTurn os = ⟨cs, r⟩ ↔ InTurn run xs cs r := by
  induction each generalizing cs r with
  | nil =>
      rw [inTurn_nil, Outcome.inTurn, Outcome.nothing, Outcome.mk.injEq, eq_comm, @eq_comm _ none]
  | @cons x o xs os first others ih =>
      rw [inTurn_cons, Outcome.inTurn]
      obtain ⟨ds, result⟩ := o
      cases result with
      | some fault =>
          constructor
          · intro same
            have stops := (first cs r).1 same
            injection same with clauses result
            subst result
            exact .inl ⟨fault, rfl, stops⟩
          · rintro (⟨other, rfl, stops⟩ | ⟨made, es, goes, -, -⟩)
            · exact (first cs (some other)).2 stops
            · cases (first made none).2 goes
      | none =>
          generalize Outcome.inTurn os = later at ih ⊢
          obtain ⟨es, result⟩ := later
          constructor
          · intro same
            injection same with clauses result
            subst result
            exact .inr ⟨ds, es, (first ds none).1 rfl, ih.1 rfl, clauses.symm⟩
          · rintro (⟨fault, rfl, stops⟩ | ⟨made, later, goes, turns, rfl⟩)
            · cases (first cs (some fault)).2 stops
            · cases (first made none).2 goes
              cases ih.2 turns
              rfl

end Turns

/-! ## Fields -/

/-- The strategy enabled for the token of a call runs on its column and values. -/
def CallRun (e : Enabled) (call : OperatorCall) (cs : List Clause) (r : Option FilterError) :
    Prop :=
  ∃ s, e.get? call.token = some s ∧ s.run call.column call.values = ⟨cs, r⟩

/-- Shape comes before lookup, and lookup of all tokens before the first strategy. -/
inductive FieldRun (e : Enabled) (field : String) (expression : Json) :
    List Clause → Option FilterError → Prop where
  | malformed {fault : FilterError} (shape : OperatorCall.parse field expression = .error fault) :
      FieldRun e field expression [] (some fault)
  | unknown {before after : List OperatorCall} {call : OperatorCall}
      (shape : OperatorCall.parse field expression = .ok (before ++ call :: after))
      (enabled : ∀ c ∈ before, c.token ∈ e.tokens) (missing : call.token ∉ e.tokens) :
      FieldRun e field expression [] (some (.unknownOperator field call.token))
  | resolved {calls : List OperatorCall} {cs : List Clause} {r : Option FilterError}
      (shape : OperatorCall.parse field expression = .ok calls)
      (enabled : ∀ c ∈ calls, c.token ∈ e.tokens) (turns : InTurn (CallRun e) calls cs r) :
      FieldRun e field expression cs r

section Lookup

variable {e : Enabled}

theorem strategyFor_missing {field : String} {call : OperatorCall}
    (missing : call.token ∉ e.tokens) :
    e.strategyFor field call = .error (.unknownOperator field call.token) := by
  have none_found : e.get? call.token = none := by
    rw [← Option.not_isSome_iff_eq_none, Enabled.get?_isSome]
    exact missing
  rw [Enabled.strategyFor, none_found]

theorem strategyFor_enabled {call : OperatorCall} (enabled : call.token ∈ e.tokens) :
    ∃ s, e.get? call.token = some s ∧ ∀ field, e.strategyFor field call = .ok (s, call) := by
  obtain ⟨s, found⟩ := Option.isSome_iff_exists.1 (Enabled.get?_isSome.2 enabled)
  refine ⟨s, found, fun field => ?_⟩
  rw [Enabled.strategyFor, found]

theorem mapM_enabled (field : String) (calls : List OperatorCall)
    (enabled : ∀ c ∈ calls, c.token ∈ e.tokens) :
    ∃ found, calls.mapM (e.strategyFor field) = .ok found ∧
      List.Forall₂ (fun c f => e.get? c.token = some f.1 ∧ f.2 = c) calls found := by
  induction calls with
  | nil => exact ⟨[], rfl, .nil⟩
  | cons call rest ih =>
      obtain ⟨s, get, strategy⟩ := strategyFor_enabled (enabled call List.mem_cons_self)
      obtain ⟨others, all, each⟩ := ih fun c member => enabled c (List.mem_cons_of_mem call member)
      refine ⟨(s, call) :: others, ?_, .cons ⟨get, rfl⟩ each⟩
      rw [List.mapM_cons, strategy, all]
      rfl

theorem mapM_unknown (field : String) (before after : List OperatorCall) {call : OperatorCall}
    (enabled : ∀ c ∈ before, c.token ∈ e.tokens) (missing : call.token ∉ e.tokens) :
    (before ++ call :: after).mapM (e.strategyFor field) =
      .error (.unknownOperator field call.token) := by
  obtain ⟨found, all, -⟩ := mapM_enabled field before enabled
  rw [List.mapM_append, all, List.mapM_cons, strategyFor_missing missing]
  rfl

theorem enabled_or_unknown (e : Enabled) (calls : List OperatorCall) :
    (∀ c ∈ calls, c.token ∈ e.tokens) ∨ ∃ before call after, calls = before ++ call :: after ∧
      (∀ c ∈ before, c.token ∈ e.tokens) ∧ call.token ∉ e.tokens := by
  induction calls with
  | nil => exact .inl nofun
  | cons c rest ih =>
      by_cases here : c.token ∈ e.tokens
      · rcases ih with all | ⟨before, call, after, rfl, enabled, missing⟩
        · exact .inl (List.forall_mem_cons.2 ⟨here, all⟩)
        · have front : ∀ x ∈ c :: before, x.token ∈ e.tokens :=
            List.forall_mem_cons.2 ⟨here, enabled⟩
          exact .inr ⟨c :: before, call, after, rfl, front, missing⟩
      · exact .inr ⟨[], c, rest, rfl, nofun, here⟩

end Lookup

section Apply

variable {e : Enabled} {field : String} {expression : Json} {cs : List Clause}
  {r : Option FilterError}

theorem apply_malformed {fault : FilterError}
    (shape : OperatorCall.parse field expression = .error fault) :
    e.apply field expression = ⟨[], some fault⟩ := by
  have refused : e.resolve field expression = .error fault := by
    rw [Enabled.resolve, shape]
    rfl
  rw [Enabled.apply, refused]
  rfl

theorem apply_unknown {before after : List OperatorCall} {call : OperatorCall}
    (shape : OperatorCall.parse field expression = .ok (before ++ call :: after))
    (enabled : ∀ c ∈ before, c.token ∈ e.tokens) (missing : call.token ∉ e.tokens) :
    e.apply field expression = ⟨[], some (.unknownOperator field call.token)⟩ := by
  have refused : e.resolve field expression = .error (.unknownOperator field call.token) := by
    rw [Enabled.resolve, shape]
    exact mapM_unknown field before after enabled missing
  rw [Enabled.apply, refused]
  rfl

theorem apply_resolved {calls : List OperatorCall}
    (shape : OperatorCall.parse field expression = .ok calls)
    (enabled : ∀ c ∈ calls, c.token ∈ e.tokens) :
    e.apply field expression = ⟨cs, r⟩ ↔ InTurn (CallRun e) calls cs r := by
  obtain ⟨found, all, each⟩ := mapM_enabled field calls enabled
  have accepted : e.resolve field expression = .ok found := by
    rw [Enabled.resolve, shape]
    exact all
  rw [Enabled.apply, accepted]
  apply inTurn_iff
  rw [List.forall₂_map_right_iff]
  apply each.imp
  rintro call ⟨s, called⟩ ⟨get, rfl⟩ cs r
  constructor
  · exact fun runs => ⟨s, get, runs⟩
  · rintro ⟨other, same, runs⟩
    rw [get] at same
    cases same
    exact runs

theorem apply_run : e.apply field expression = ⟨cs, r⟩ ↔ FieldRun e field expression cs r := by
  constructor
  · intro applied
    cases shape : OperatorCall.parse field expression with
    | error fault =>
        rw [apply_malformed shape] at applied
        cases applied
        exact .malformed shape
    | ok calls =>
        rcases enabled_or_unknown e calls with all | ⟨before, call, after, rfl, enabled, missing⟩
        · exact .resolved shape all ((apply_resolved shape all).1 applied)
        · rw [apply_unknown shape enabled missing] at applied
          cases applied
          exact .unknown shape enabled missing
  · intro run
    cases run with
    | malformed shape => exact apply_malformed shape
    | unknown shape enabled missing => exact apply_unknown shape enabled missing
    | resolved shape enabled turns => exact (apply_resolved shape enabled).2 turns

end Apply

/-! ## Specifications -/

def SpecRun (e : Enabled) (spec : Spec) : List Clause → Option FilterError → Prop :=
  InTurn (fun f => FieldRun e f.1 f.2) spec.fields

theorem applyAll_run (e : Enabled) (spec : Spec) (cs : List Clause) (r : Option FilterError) :
    e.applyAll spec = ⟨cs, r⟩ ↔ SpecRun e spec cs r := by
  apply inTurn_iff
  rw [List.forall₂_map_right_iff, List.forall₂_same]
  exact fun f _ cs r => apply_run

theorem inTurn_accepted (os : List Outcome) :
    (Outcome.inTurn os).rejection = none ↔ ∀ o ∈ os, o.rejection = none := by
  induction os with
  | nil => simp [Outcome.inTurn, Outcome.nothing]
  | cons o rest ih =>
      obtain ⟨cs, result⟩ := o
      rw [List.forall_mem_cons, ← ih]
      cases result <;> simp [Outcome.inTurn, Outcome.andThen]

theorem apply_accepted (e : Enabled) (field : String) (expression : Json) :
    (e.apply field expression).rejection = none ↔
      ∀ cs fault, ¬ FieldRun e field expression cs (some fault) := by
  constructor
  · intro accepted cs fault run
    rw [apply_run.2 run] at accepted
    cases accepted
  · intro never
    cases result : (e.apply field expression).rejection with
    | none => rfl
    | some fault => exact absurd (apply_run.1 (by rw [← result])) (never _ fault)

theorem accepted_fields {e : Enabled} {spec : Spec} : (e.applyAll spec).rejection = none ↔
    ∀ f ∈ spec.fields, (e.apply f.1 f.2).rejection = none := by
  rw [Enabled.applyAll, inTurn_accepted, List.forall_mem_map]

theorem applyAll_accepted (e : Enabled) (spec : Spec) :
    (e.applyAll spec).rejection = none ↔
      ∀ f ∈ spec.fields, ∀ cs fault, ¬ FieldRun e f.1 f.2 cs (some fault) := by
  rw [accepted_fields]
  exact forall₂_congr fun f _ => apply_accepted e f.1 f.2

theorem builtin_whole (op : Operator) (column : String) (values : List Value) :
    (op.strategy.run column values).rejection = none ∨
      (op.strategy.run column values).clauses = [] := by
  change (Outcome.ofExcept (op.clauses column values)).rejection = none ∨
    (Outcome.ofExcept (op.clauses column values)).clauses = []
  cases op.clauses column values with
  | ok clauses => exact .inl rfl
  | error fault => exact .inr rfl

/-- Resolution adds to a query what the run of the specification records and ends as the run ends;
it is accepted if no field can fail. Each field is resolved as its run says, and of the strategies
only those that are not built in can reject after they have recorded. -/
theorem applyAll_law (e : Enabled) (q : Select) (spec : Spec) :
    (∀ (q' : Select) (r : Option FilterError),
      (q.add (e.applyAll spec).clauses, (e.applyAll spec).rejection) = (q', r) ↔
        ∃ cs, SpecRun e spec cs r ∧ q'.dialect = q.dialect ∧ q'.table = q.table ∧
          q'.fields = q.fields ∧ q'.clauses = q.clauses ++ cs) ∧
    ((e.applyAll spec).rejection = none ↔
      ∀ f ∈ spec.fields, ∀ cs fault, ¬ FieldRun e f.1 f.2 cs (some fault)) ∧
    (∀ field expression cs r,
      e.apply field expression = ⟨cs, r⟩ ↔ FieldRun e field expression cs r) ∧
    ∀ (op : Operator) (column : String) (values : List Value),
      (op.strategy.run column values).rejection = none ∨
        (op.strategy.run column values).clauses = [] := by
  refine ⟨fun q' r => ?_, applyAll_accepted e spec, fun _ _ _ _ => apply_run, builtin_whole⟩
  constructor
  · intro same
    cases same
    exact ⟨_, (applyAll_run e spec _ _).1 rfl, rfl, rfl, rfl, rfl⟩
  · rintro ⟨cs, run, dialect, table, fields, clauses⟩
    rw [(applyAll_run e spec cs r).2 run]
    obtain ⟨d', table', fields', clauses'⟩ := q'
    cases dialect
    cases table
    cases fields
    cases clauses
    rfl

example :
    let late : Strategy := ⟨"$late", fun column _ =>
      ⟨[.null column true], some (.malformed column (.other "too late"))⟩⟩
    let spec := Spec.ofFields [("a", .integer 1),
      ("b", .object [("$null", .bool true), ("$late", .null), ("$null", .bool false)]),
      ("c", .integer 2)]
    (⟨[Operator.eq.strategy, Operator.null.strategy, late]⟩ : Enabled).applyAll spec =
      ⟨[.compare "a" .eq (.int 1), .null "b" false, .null "b" true],
        some (.malformed "b" (.other "too late"))⟩ := by decide

end QueryFilter.Resolution
