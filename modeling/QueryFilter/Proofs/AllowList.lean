import QueryFilter.Proofs.Enabling
import QueryFilter.Proofs.Resolution

/-!
# Lists of allowed operators

Resolution sees the enabled operators through lookup only. Operators that answer every token alike
resolve alike (`applyAll_congr`), more operators change nothing for a specification that is accepted
(`applyAll_extends`), and a field that uses a token beyond those enabled is refused
(`apply_outside`), so resolution ends there at the latest (`applyAll_refused`). `allow_list_law`
says the three of lists given for a call.
-/

namespace QueryFilter
open OperatorCall Resolution

namespace Enabled

variable {a b e : Enabled} {field : String} {expression : Json}

/-! ## Resolution by lookup -/

theorem apply_congr (lookup : ∀ token, a.get? token = b.get? token) (field : String)
    (expression : Json) : a.apply field expression = b.apply field expression := by
  have strategies : a.strategyFor field = b.strategyFor field := by
    funext call
    rw [strategyFor, strategyFor, lookup]
  rw [apply, apply, resolve, resolve, strategies]

theorem applyAll_congr (lookup : ∀ token, a.get? token = b.get? token) (spec : Spec) :
    a.applyAll spec = b.applyAll spec :=
  congrArg Outcome.inTurn (List.map_congr_left fun f _ => apply_congr lookup f.1 f.2)

/-- What one set of operators knows, the other knows alike. -/
def Extends (a b : Enabled) : Prop := ∀ token s, a.get? token = some s → b.get? token = some s

theorem resolve_extends (more : a.Extends b) {calls : List (Strategy × OperatorCall)}
    (resolved : a.resolve field expression = .ok calls) :
    b.resolve field expression = .ok calls := by
  obtain ⟨read, shape, found⟩ := bind_eq_ok.1 resolved
  refine bind_eq_ok.2 ⟨read, shape, mapM_eq_ok.2 ((mapM_eq_ok.1 found).imp ?_)⟩
  intro call answer ok
  unfold strategyFor at ok ⊢
  cases lookup : a.get? call.token with
  | none =>
      rw [lookup] at ok
      cases ok
  | some s =>
      rw [lookup] at ok
      rw [more call.token s lookup]
      exact ok

theorem apply_extends (more : a.Extends b)
    (accepted : (a.apply field expression).rejection = none) :
    b.apply field expression = a.apply field expression := by
  unfold apply at accepted ⊢
  cases resolved : a.resolve field expression with
  | error fault =>
      rw [resolved] at accepted
      cases accepted
  | ok calls => rw [resolve_extends more resolved]

theorem applyAll_extends (more : a.Extends b) (spec : Spec)
    (accepted : (a.applyAll spec).rejection = none) : b.applyAll spec = a.applyAll spec := by
  refine congrArg Outcome.inTurn (List.map_congr_left fun f member => ?_)
  exact apply_extends more (accepted_fields.1 accepted f member)

/-! ## Tokens beyond those enabled -/

section Outside

variable {listed : List String} (enabled : ∀ {token}, token ∈ e.tokens ↔ token ∈ listed)
include enabled

theorem apply_outside (field : String) (outside : ∃ t ∈ tokensOf expression, t ∉ listed) :
    ∃ fault, e.apply field expression = .reject fault := by
  -- The field may be malformed as well, so which fault it is cannot be said here.
  cases shape : OperatorCall.parse field expression with
  | error fault => exact ⟨fault, apply_malformed shape⟩
  | ok calls =>
      rcases enabled_or_unknown e calls with all | ⟨before, call, after, rfl, known, missing⟩
      · obtain ⟨t, used, unknown⟩ := outside
        rw [← parse_tokens shape] at used
        obtain ⟨call, member, rfl⟩ := List.mem_map.1 used
        exact absurd (enabled.1 (all call member)) unknown
      · exact ⟨_, apply_unknown shape known missing⟩

theorem apply_first_outside {calls : List OperatorCall} {token : String}
    (shape : OperatorCall.parse field expression = .ok calls)
    (first : (tokensOf expression).find? (· ∉ listed) = some token) :
    e.apply field expression = .reject (.unknownOperator field token) := by
  rw [← parse_tokens shape, List.find?_map, Option.map_eq_some_iff] at first
  obtain ⟨call, found, rfl⟩ := first
  obtain ⟨missing, before, after, rfl, known⟩ := List.find?_eq_some_iff_append.1 found
  simp only [Function.comp_apply, ← enabled, decide_not, Bool.not_not, Bool.not_eq_true',
    decide_eq_true_eq, decide_eq_false_iff_not] at missing known
  exact apply_unknown shape known missing

end Outside

theorem applyAll_refused {spec front : Spec} {rest : List (String × Json)} {fault : FilterError}
    (fields : spec.fields = front.fields ++ (field, expression) :: rest)
    (refused : e.apply field expression = .reject fault) :
    e.applyAll spec =
      ⟨(e.applyAll front).clauses, some ((e.applyAll front).rejection.getD fault)⟩ := by
  have stops : e.applyAll spec = (e.applyAll front).andThen (.reject fault) := by
    rw [applyAll, fields, List.map_append, Outcome.inTurn_append, List.map_cons, refused]
    rfl
  rw [stops]
  generalize e.applyAll front = before
  obtain ⟨cs, r⟩ := before
  cases r with
  | none => rw [Outcome.andThen, Outcome.reject, List.append_nil, Option.getD_none]
  | some earlier => rfl

end Enabled

/-- Of a list given for a call, only the set of its tokens counts. A list with more tokens changes
nothing for a specification that is accepted without them. A field that uses a token beyond the list
is refused and ends the resolution, if it has not ended before. -/
theorem allow_list_law {r : Registry} {allow other : List String} {e e' : Enabled}
    (accepted : Enabled.only r (some allow) = .ok e)
    (accepted' : Enabled.only r (some other) = .ok e') (spec : Spec) :
    ((∀ t, t ∈ allow ↔ t ∈ other) → e.applyAll spec = e'.applyAll spec) ∧
    (allow ⊆ other → (e.applyAll spec).rejection = none → e'.applyAll spec = e.applyAll spec) ∧
    ∀ (front : Spec) (field : String) (expression : Json) (rest : List (String × Json)),
      spec.fields = front.fields ++ (field, expression) :: rest →
      (∃ t ∈ tokensOf expression, t ∉ allow) →
        (e.applyAll spec).rejection ≠ none ∧
        (e.applyAll spec).clauses = (e.applyAll front).clauses ∧
        ∀ calls token, OperatorCall.parse field expression = .ok calls →
          (tokensOf expression).find? (· ∉ allow) = some token →
          (e.applyAll front).rejection = none →
          (e.applyAll spec).rejection = some (.unknownOperator field token) := by
  have lookup := Enabled.only_get? accepted
  have lookup' := Enabled.only_get? accepted'
  refine ⟨fun same => ?_, fun subset passes => ?_, ?_⟩
  · refine Enabled.applyAll_congr (fun token => ?_) spec
    rw [lookup, lookup']
    simp only [same]
  · refine Enabled.applyAll_extends (fun token s found => ?_) spec passes
    rw [lookup] at found
    rw [lookup']
    split at found
    · rename_i listed
      rw [if_pos (subset listed), found]
    · cases found
  · intro front field expression rest fields outside
    have enabled := @Enabled.only_tokens r allow e accepted
    obtain ⟨fault, refused⟩ := Enabled.apply_outside enabled field outside
    have ends := Enabled.applyAll_refused fields refused
    refine ⟨by rw [ends]; exact Option.some_ne_none _, by rw [ends], ?_⟩
    intro calls token shape first passes
    rw [Enabled.applyAll_refused fields (Enabled.apply_first_outside enabled shape first), passes]
    rfl

theorem allow_list_law_custom :
    let late : Strategy := ⟨"$late", fun column _ => ⟨[.null column true], none⟩⟩
    let r : Registry := ⟨Registry.builtin.strategies ++ [late], none⟩
    let e : Enabled := ⟨[late, Operator.eq.strategy]⟩
    let e' : Enabled := ⟨[Operator.eq.strategy, late]⟩
    let front := Spec.ofFields [("a", .object [("$late", .null)])]
    let spec := Spec.ofFields [("a", .object [("$late", .null)]),
      ("b", .object [("$eq", .integer 1), ("$gt", .integer 2)]), ("c", .integer 3)]
    Enabled.only r (some ["$late", "$eq", "$late"]) = .ok e ∧
      Enabled.only r (some ["$eq", "$late"]) = .ok e' ∧
      e'.applyAll front = e.applyAll front ∧ e.applyAll spec = e'.applyAll spec ∧
      (e.applyAll spec).clauses = [.null "a" true] ∧
      (e.applyAll spec).rejection = some (.unknownOperator "b" "$gt") := by
  intro late r e e' front spec
  have accepted : Enabled.only r (some ["$late", "$eq", "$late"]) = .ok e := rfl
  have accepted' : Enabled.only r (some ["$eq", "$late"]) = .ok e' := rfl
  obtain ⟨same, -, outside⟩ := allow_list_law accepted accepted' spec
  obtain ⟨-, clauses, unknown⟩ := outside front "b" _ _ rfl ⟨"$gt", by decide, by decide⟩
  refine ⟨accepted, accepted', ?_, same (by simp [or_comm]), clauses, ?_⟩
  · exact (allow_list_law accepted accepted' front).2.1 (by decide) rfl
  · exact unknown _ "$gt" rfl (by decide) rfl

end QueryFilter
