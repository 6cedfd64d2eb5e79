import Mathlib.Data.List.Find
import QueryFilter.Proofs.Operands
import QueryFilter.Proofs.Registries

/-!
# Operators without the mark

Reading takes a key for an operator only if it is `Marked`. Registration asks for a token that is
neither empty nor taken, so over a run of calls the tokens registered are those of the start and the
nonempty ones asked for (`mem_tokens_attempting`). A token without the mark gets in that way and can
be enabled, but no filter reaches its strategy: resolution is the same without it
(`applyAll_marked`). `marks_law` says which operators run when they are asked for.
-/

namespace QueryFilter
open Resolution

namespace Operator

theorem marked (op : Operator) : Marked op.token := by cases op <;> exact ⟨_, rfl⟩

end Operator

/-! ## Tokens over a run of calls -/

namespace Registry

/-- What calls start from. -/
inductive Base : Registry → Prop where
  | empty : Base .empty
  | builtin : Base .builtin
  | ofSettings {s : Settings} {r : Registry} (made : ofSettings s = .ok r) : Base r

/-- The registry after the calls, in order; one that fails changes nothing. -/
def attempting (r : Registry) (calls : List Call) : Registry :=
  calls.foldl (fun r c => (r.attempt c).1) r

variable {r base : Registry} {token : String}

theorem Reached.attempting (reached : r.Reached) (calls : List Call) :
    (r.attempting calls).Reached := by
  induction calls generalizing r with
  | nil => exact reached
  | cons c rest ih => exact ih (reached.call c)

theorem Base.reached (start : base.Base) : base.Reached := by
  cases start with
  | empty => exact .empty
  | builtin => exact .builtin
  | ofSettings made => exact .ofSettings made

theorem Base.tokens_marked (start : base.Base) : ∀ t ∈ base.tokens, Marked t := by
  have operators : ∀ t ∈ Registry.builtin.tokens, Marked t := by
    rw [builtin_tokens]
    exact List.forall_mem_map.2 fun op _ => op.marked
  cases start with
  | empty => exact List.forall_mem_nil _
  | builtin => exact operators
  | ofSettings made =>
      unfold Registry.ofSettings at made
      split at made
      · rw [withDefaults_tokens made]
        exact operators
      · cases made
        exact operators

theorem mem_tokens_attempt {c : Call} : token ∈ (r.attempt c).1.tokens ↔
    token ∈ r.tokens ∨ token ≠ "" ∧ ∃ s, .register s = c ∧ s.token = token := by
  unfold attempt
  cases result : r.perform c with
  | ok r' =>
      cases c with
      | register s =>
          have nonempty := (register_ok.1 result).1
          rw [register_tokens result, List.mem_append, List.mem_singleton]
          simp only [Call.register.injEq, exists_eq_left]
          refine or_congr_right ⟨?_, fun asked => asked.2.symm⟩
          rintro rfl
          exact ⟨nonempty, rfl⟩
      | withDefaults tokens =>
          rw [withDefaults_tokens result]
          refine (or_iff_left ?_).symm
          rintro ⟨-, s, ⟨⟩, -⟩
  | error fault =>
      -- A token that could have been registered, and was not, was there before.
      refine (or_iff_left_of_imp ?_).symm
      rintro ⟨nonempty, s, rfl, rfl⟩
      by_contra free
      have accepted : r.perform (.register s) = .ok _ := register_ok.2 ⟨nonempty, free, rfl⟩
      rw [result] at accepted
      cases accepted

theorem mem_tokens_attempting {calls : List Call} : token ∈ (r.attempting calls).tokens ↔
    token ∈ r.tokens ∨ token ≠ "" ∧ ∃ s, .register s ∈ calls ∧ s.token = token := by
  induction calls generalizing r with
  | nil => simp [attempting]
  | cons c rest ih =>
      refine ih.trans ?_
      rw [mem_tokens_attempt, or_assoc, ← and_or_left, ← exists_or]
      simp only [← or_and_right, List.mem_cons]

/-- An unmarked token is registered if a strategy with it is offered, and only then. -/
theorem Base.unmarked_mem_tokens (start : base.Base) (calls : List Call)
    (unmarked : ¬ Marked token) : token ∈ (base.attempting calls).tokens ↔
      token ≠ "" ∧ ∃ s, .register s ∈ calls ∧ s.token = token := by
  rw [mem_tokens_attempting]
  exact or_iff_right fun first => unmarked (start.tokens_marked token first)

end Registry

/-! ## Resolution -/

theorem Expression.marked {field : String} {a : Json} {calls : List OperatorCall}
    (read : Expression field a calls) : ∀ call ∈ calls, Marked call.token := by
  cases read with
  | bare operand => exact List.forall_mem_singleton.2 Operator.eq.marked
  | operators nonempty each =>
      refine forall₂_forall ?_ each
      rintro _ _ _ ⟨marked, -⟩
      exact marked

namespace Enabled

variable {e e' : Enabled} {field token : String} {a : Json} {s : Strategy}

/-- The operators that a filter can ask for. -/
def marked (e : Enabled) : Enabled := ⟨e.strategies.filter fun s => OperatorCall.isToken s.token⟩

theorem marked_get? (marked : Marked token) : e.marked.get? token = e.get? token := by
  unfold Enabled.get? Enabled.marked findStrategy
  rw [List.find?_filter]
  refine List.find?_congr fun s _ => ?_
  by_cases named : s.token = token
  · subst named
    simp [OperatorCall.isToken_iff.2 marked]
  · simp [named]

theorem mapM_marked_congr (lookup : ∀ t, Marked t → e'.get? t = e.get? t) (field : String)
    {calls : List OperatorCall} (marked : ∀ call ∈ calls, Marked call.token) :
    calls.mapM (e'.strategyFor field) = calls.mapM (e.strategyFor field) := by
  induction calls with
  | nil => rfl
  | cons call rest ih =>
      obtain ⟨first, others⟩ := List.forall_mem_cons.1 marked
      rw [List.mapM_cons, List.mapM_cons, ih others, strategyFor, strategyFor, lookup _ first]

/-- Lookup of marked tokens is all that resolution sees. -/
theorem apply_marked_congr (lookup : ∀ t, Marked t → e'.get? t = e.get? t) (field : String)
    (a : Json) : e'.apply field a = e.apply field a := by
  have resolved : e'.resolve field a = e.resolve field a := by
    unfold resolve
    cases read : OperatorCall.parse field a with
    | error fault => rfl
    | ok calls => exact mapM_marked_congr lookup field (OperatorCall.parse_iff.1 read).2.marked
  rw [apply, apply, resolved]

theorem applyAll_marked (e : Enabled) (spec : Spec) : e.applyAll spec = e.marked.applyAll spec :=
  congrArg Outcome.inTurn (List.map_congr_left fun f _ =>
    (apply_marked_congr (fun _ => marked_get?) f.1 f.2).symm)

theorem parse_unmarked (named : field ≠ "") (unmarked : ¬ Marked token) (a : Json) :
    OperatorCall.parse field (.object [(token, a)]) =
      .error (.malformed field (.notOperator token)) :=
  OperatorCall.parse_refused.2 ⟨_, rfl, .entry named (List.forall_mem_nil _) (.key unmarked)⟩

theorem resolve_iff_marked {values : List Value} (found : e.get? token = some s)
    (named : field ≠ "") (operand : Operand a values) :
    e.resolve field (.object [(token, a)]) = .ok [(s, ⟨field, token, values⟩)] ↔ Marked token := by
  by_cases marked : Marked token
  · exact iff_of_true (resolve_operator found named marked operand) marked
  · refine iff_of_false (fun resolved => ?_) marked
    rw [resolve, parse_unmarked named marked] at resolved
    cases resolved

/-- Over any run of calls, the tokens registered that are not marked are those of the strategies
offered. Each operator enabled has its registered strategy, which runs alone on a field and a scalar
if its token is marked; if not, the filter is refused for its shape, and no filter at all sees that
the operator is enabled. -/
theorem marks_law {base : Registry} (start : base.Base) (calls : List Registry.Call) :
    (∀ t, ¬ Marked t → (t ∈ (base.attempting calls).tokens ↔
      t ≠ "" ∧ ∃ s, .register s ∈ calls ∧ s.token = t)) ∧
    ∀ allowed e, only (base.attempting calls) allowed = .ok e →
      (∀ spec, e.applyAll spec = e.marked.applyAll spec) ∧
      ∀ token ∈ e.tokens, ∃ s, (base.attempting calls).get? token = some s ∧ s.token = token ∧
        ∀ field, field ≠ "" → ∀ a v, Value.ofJson? a = some v →
          (e.resolve field (.object [(token, a)]) = .ok [(s, ⟨field, token, [v]⟩)] ↔
            Marked token) ∧
          (Marked token → e.apply field (.object [(token, a)]) = s.run field [v]) ∧
          (¬ Marked token → e.apply field (.object [(token, a)]) =
            .reject (.malformed field (.notOperator token))) := by
  refine ⟨fun t => start.unmarked_mem_tokens calls, fun allowed e ok => ⟨applyAll_marked e, ?_⟩⟩
  intro token enabled
  have sound := (start.reached.attempting calls).sound
  obtain ⟨s, found⟩ := Option.isSome_iff_exists.1 (get?_isSome.2 enabled)
  have registered : (base.attempting calls).get? token = some s := by
    rw [← found, only_lookup sound ok, if_pos enabled]
  refine ⟨s, registered, (findStrategy_some found).2, fun field named a v value => ?_⟩
  have operand : Operand a [v] := .single (Value.ofJson?_iff.1 value)
  exact ⟨resolve_iff_marked found named operand,
    fun marked => apply_operator found named marked operand,
    fun unmarked => apply_malformed (parse_unmarked named unmarked a)⟩

/-- An operator with a token that is not marked is registered and enabled, and cannot be used. -/
theorem enabled_unusable :
    (¬ ∀ (base : Registry) (calls : List Registry.Call), base.Base →
      ∀ t ∈ (base.attempting calls).tokens, Marked t) ∧
    ¬ ∀ (base : Registry) (calls : List Registry.Call), base.Base →
      ∀ allowed e, only (base.attempting calls) allowed = .ok e →
        ∀ token ∈ e.tokens, ∀ s, (base.attempting calls).get? token = some s →
          ∀ field, field ≠ "" → ∀ a v, Value.ofJson? a = some v →
            e.apply field (.object [(token, a)]) = s.run field [v] := by
  let near : Strategy := ⟨"near", fun column values => ⟨values.map (.compare column .lt), none⟩⟩
  have registered : "near" ∈ (Registry.empty.attempting [.register near]).tokens := by decide
  constructor
  · intro claim
    obtain ⟨name, ⟨⟩⟩ := claim .empty [.register near] .empty "near" registered
  · intro claim
    have ran := claim .empty [.register near] .empty none ⟨[near]⟩ rfl "near" registered near rfl
      "age" (by decide) (.integer 1) (.int 1) (by decide)
    have refused : (⟨[near]⟩ : Enabled).apply "age" (.object [("near", .integer 1)]) =
        .reject (.malformed "age" (.notOperator "near")) := by decide
    rw [refused] at ran
    cases ran

theorem marks_law_mixed :
    let near : Strategy := ⟨"near", fun column values => ⟨values.map (.compare column .lt), none⟩⟩
    let far : Strategy := ⟨"$far", fun column values => ⟨values.map (.compare column .gt), none⟩⟩
    let calls : List Registry.Call :=
      [.register near, .register near, .register far, .withDefaults ["$far", "near"]]
    let e : Enabled := ⟨[far, near]⟩
    "near" ∈ (Registry.empty.attempting calls).tokens ∧
      only (Registry.empty.attempting calls) none = .ok e ∧
      e.apply "age" (.object [("near", .integer 1)]) =
        .reject (.malformed "age" (.notOperator "near")) ∧
      e.apply "age" (.object [("$far", .string "old")]) =
        ⟨[.compare "age" .gt (.string "old")], none⟩ := by
  intro near far calls e
  obtain ⟨offered, enabled⟩ := marks_law .empty calls
  have unmarked : ¬ Marked "near" := by
    rintro ⟨name, ⟨⟩⟩
  have registered : "near" ∈ (Registry.empty.attempting calls).tokens :=
    (offered "near" unmarked).2 ⟨by decide, near, List.mem_cons_self, rfl⟩
  have chosen : only (Registry.empty.attempting calls) none = .ok e := rfl
  obtain ⟨-, runs⟩ := enabled none e chosen
  refine ⟨registered, chosen, ?_, ?_⟩
  · obtain ⟨s, -, -, settled⟩ := runs "near" (by decide)
    exact (settled "age" (by decide) (.integer 1) (.int 1) (by decide)).2.2 unmarked
  · obtain ⟨s, found, -, settled⟩ := runs "$far" (by decide)
    cases found
    exact (settled "age" (by decide) (.string "old") (.string "old") rfl).2.1 ⟨_, rfl⟩

end Enabled
end QueryFilter
