import Mathlib.Data.List.Induction
import QueryFilter.Model
import QueryFilter.Proofs.Filtering

/-!
# Lists of models over a session

What a model allows is decided by the actions on that model alone: it is the list given last, unless
the model was cleared since (`allowed_run`). `step_allowed` says so of one action. A call of the
filter gives its list before anything in it can fail, so a list that is refused stays, and so does
the refusal.
-/

namespace QueryFilter

/-- The list that an action gives to its model. -/
def Action.given : Action → Option (List String)
  | .allow tokens => some tokens
  | .clear => none
  | .filter request => request.available

/-- Only a call of the filter that brings no list leaves to its model the list it has. -/
def Action.Keeps : Action → Prop
  | .allow _ => False
  | .clear => False
  | .filter request => request.available = none

/-- A list was given to the model by name, and after that nothing was given to it or cleared. -/
def LastGiven (name : String) (actions : List (String × Action)) (tokens : List String) : Prop :=
  ∃ before action after, actions = before ++ (name, action) :: after ∧
    action.given = some tokens ∧ ∀ a ∈ after, a.1 = name → a.2.Keeps

theorem Model.allowed_act (m : Model) (a : Action) (tokens : List String) :
    (m.act a).1.allowed = some tokens ↔
      a.given = some tokens ∨ a.Keeps ∧ m.allowed = some tokens := by
  cases a with
  | allow given => simp only [act, allow, Action.given, Action.Keeps, false_and, or_false]
  | clear => simp only [act, clear, Action.given, Action.Keeps, false_and, or_false]
  | filter request =>
      change (m.receive request.available).allowed = some tokens ↔
        request.available = some tokens ∨ request.available = none ∧ m.allowed = some tokens
      cases request.available with
      | none => simp only [receive, reduceCtorEq, true_and, false_or]
      | some given => simp only [receive, allow, reduceCtorEq, false_and, or_false]

theorem lastGiven_snoc {name other : String} {actions : List (String × Action)} {a : Action}
    {tokens : List String} : LastGiven name (actions ++ [(other, a)]) tokens ↔
      (other = name ∧ a.given = some tokens) ∨
        (other = name → a.Keeps) ∧ LastGiven name actions tokens := by
  constructor
  · rintro ⟨before, action, after, whole, gives, keep⟩
    rcases List.eq_nil_or_concat after with rfl | ⟨after, last, rfl⟩
    · obtain ⟨-, same⟩ := List.append_inj' whole rfl
      cases same
      exact .inl ⟨rfl, gives⟩
    · rw [List.concat_eq_append, ← List.cons_append, ← List.append_assoc] at whole
      obtain ⟨rfl, same⟩ := List.append_inj' whole rfl
      cases same
      refine .inr ⟨keep (other, a) (by simp), before, action, after, rfl, gives, ?_⟩
      exact fun x member => keep x (by simp [member])
  · rintro (⟨rfl, gives⟩ | ⟨keeps, before, action, after, rfl, gives, keep⟩)
    · exact ⟨actions, a, [], rfl, gives, nofun⟩
    · refine ⟨before, action, after ++ [(other, a)], by simp, gives, ?_⟩
      intro x member
      rcases List.mem_append.1 member with early | late
      · exact keep x early
      · cases List.mem_singleton.1 late
        exact keeps

namespace Session

theorem run_append (s : Session) (actions later : List (String × Action)) :
    s.run (actions ++ later) = (s.run actions).run later := List.foldl_append

theorem step_model (s : Session) (name other : String) (a : Action) :
    (s.step name a).1.model other =
      if other = name then ((s.model name).act a).1 else s.model other := rfl

theorem step_allowed {s : Session} {name other : String} {a : Action} {tokens : List String} :
    ((s.step other a).1.model name).allowed = some tokens ↔
      (other = name ∧ a.given = some tokens) ∨
        (other = name → a.Keeps) ∧ (s.model name).allowed = some tokens := by
  rw [step_model]
  by_cases same : other = name
  · subst same
    simp only [if_true, Model.allowed_act, true_and, true_implies]
  · simp only [Ne.symm same, same, if_false, false_and, false_or, false_implies, true_and]

theorem allowed_run (actions : List (String × Action)) (name : String) (tokens : List String) :
    ((run {} actions).model name).allowed = some tokens ↔ LastGiven name actions tokens := by
  induction actions using List.reverseRecOn with
  | nil =>
      refine iff_of_false nofun ?_
      rintro ⟨before, action, after, whole, -⟩
      simp at whole
  | append_singleton actions last ih =>
      obtain ⟨other, a⟩ := last
      rw [run_append, lastGiven_snoc, ← ih]
      exact step_allowed

theorem step_filter (s : Session) (name : String) (request : Request) :
    (s.step name (.filter request)).2 = some (request.context.filter
      ((s.step name (.filter request)).1.model name).allowed request.query request.spec) := by
  rw [step_model, if_pos rfl]
  rfl

theorem step_unlisted {s : Session} {name : String} {request : Request} {fault : FilterError}
    (refused : Enabled.only request.context.registry
      ((s.step name (.filter request)).1.model name).allowed = .error fault) :
    (s.step name (.filter request)).2 = some (.error fault) := by
  rw [step_filter, Context.filter_unlisted refused]

/-- After any session, each model allows the list given to it last; an action is felt by its own
model only; a call of the filter runs with the operators of the list that it leaves to its model;
and after a list that is refused, every call that finds it is refused for the same reason. -/
theorem session_law (actions : List (String × Action)) :
    (∀ name tokens, ((run {} actions).model name).allowed = some tokens ↔
      LastGiven name actions tokens) ∧
    (∀ name other a, other ≠ name →
      ((run {} actions).step name a).1.model other = (run {} actions).model other) ∧
    (∀ name request, ∃ result, ((run {} actions).step name (.filter request)).2 = some result ∧
      FilterRun request.context
        (((run {} actions).step name (.filter request)).1.model name).allowed request.query
        request.spec result) ∧
    ∀ (name : String) (request : Request) (tokens : List String) (fault : FilterError),
      request.available = some tokens →
      Enabled.only request.context.registry (some tokens) = .error fault →
        (∃ cause, fault = .configuration cause) ∧
        ((run {} actions).step name (.filter request)).2 = some (.error fault) ∧
        ∀ (later : List (String × Action)) (call : Request),
          (∀ a ∈ later, a.1 = name → a.2.Keeps) → call.available = none →
          call.context.registry = request.context.registry →
          ((run {} (actions ++ (name, .filter request) :: later)).step name (.filter call)).2 =
            some (.error fault) := by
  refine ⟨allowed_run actions, fun name other a differ => ?_, fun name request => ?_, ?_⟩
  · rw [step_model, if_neg differ]
  · exact ⟨_, step_filter _ name request, Context.filter_run.1 rfl⟩
  · intro name request tokens fault available refused
    have given : (Action.filter request).given = some tokens := available
    refine ⟨Enabled.only_error refused, step_unlisted ?_, ?_⟩
    · rw [step_allowed.2 (.inl ⟨rfl, given⟩)]
      exact refused
    -- The refused list was stored before it was refused, and no later action replaces it.
    · intro later call keep none_given shared
      have keeps : (Action.filter call).Keeps := none_given
      have stored := (allowed_run (actions ++ (name, .filter request) :: later) name tokens).2
        ⟨actions, .filter request, later, rfl, given, keep⟩
      apply step_unlisted
      rw [shared, step_allowed.2 (.inr ⟨fun _ => keeps, stored⟩)]
      exact refused

theorem session_law_two :
    let q : Select := { dialect := .sqlite, table := ⟨"users", by decide⟩ }
    let plain : Request := { context := { registry := .builtin }, query := q }
    let bringing : Request := { plain with available := some ["$eq", "$nope", "$eq"] }
    let before : List (String × Action) :=
      [("a", .allow ["$gt"]), ("b", .filter plain), ("a", .clear)]
    let later : List (String × Action) := [("b", .allow ["$lt"]), ("a", .filter plain)]
    let s := run {} (before ++ ("a", .filter bringing) :: later)
    (s.model "a").allowed = some ["$eq", "$nope", "$eq"] ∧ (s.model "b").allowed = some ["$lt"] ∧
      (s.step "a" (.filter plain)).2 =
        some (.error (.configuration (.notRegistered "$nope"))) := by
  intro q plain bringing before later s
  have keep : ∀ a ∈ later, a.1 = "a" → a.2.Keeps := by
    intro a member same
    rcases List.mem_pair.1 member with rfl | rfl
    · exact absurd same (by decide)
    · rfl
  obtain ⟨allowed, -, -, -⟩ := session_law (before ++ ("a", .filter bringing) :: later)
  obtain ⟨-, -, -, refused⟩ := session_law before
  obtain ⟨-, -, again⟩ := refused "a" bringing _ (.configuration (.notRegistered "$nope")) rfl rfl
  refine ⟨?_, ?_, again later plain keep rfl rfl⟩
  · exact (allowed "a" _).2 ⟨before, _, later, rfl, rfl, keep⟩
  · refine (allowed "b" _).2
      ⟨before ++ [("a", .filter bringing)], _, [("a", .filter plain)], rfl, rfl, ?_⟩
    intro a member same
    cases List.mem_singleton.1 member
    exact absurd same (by decide)

end Session
end QueryFilter
