import Mathlib.Data.List.Find
import QueryFilter.Model
import QueryFilter.Proofs.Filtering
import QueryFilter.Proofs.Registries

/-!
# Defaults and lists given for a call

A list of tokens is checked when it becomes the defaults of a registry, or when it comes with a
call. What is enabled depends on the tokens chosen and on their strategies only (`only_congr`), and
registration leaves the strategies of registered tokens alone (`registering_get?`), so both ways end
in the same operators, or in the same fault. `defaults_law` says so of registries, of settings, and
of models.
-/

namespace QueryFilter

namespace Registry

variable {r : Registry} {s : Strategy} {token : String}

/-! ## Registration afterwards -/

/-- The registry after an attempt to register each of the strategies, in order. -/
def registering (r : Registry) (later : List Strategy) : Registry :=
  later.foldl (fun r s => (r.attempt (.register s)).1) r

theorem attempt_register_get? (kept : token ∈ r.tokens ∨ s.token ≠ token) :
    (r.attempt (.register s)).1.get? token = r.get? token := by
  cases result : (r.attempt (.register s)).2 with
  | some fault => rw [attempt_failed result]
  | none =>
      have registered := attempt_register result
      rw [register_get? registered]
      refine if_neg ?_
      rintro rfl
      exact kept.elim (register_ok.1 registered).2.1 fun other => other rfl

theorem attempt_register_defaults : (r.attempt (.register s)).1.defaults = r.defaults := by
  cases result : (r.attempt (.register s)).2 with
  | some fault => rw [attempt_failed result]
  | none =>
      obtain ⟨-, -, after⟩ := register_ok.1 (attempt_register result)
      rw [after]

theorem registering_get? {later : List Strategy}
    (kept : token ∈ r.tokens ∨ ∀ s ∈ later, s.token ≠ token) :
    (r.registering later).get? token = r.get? token := by
  induction later generalizing r with
  | nil => rfl
  | cons s rest ih =>
      have first : (r.attempt (.register s)).1.get? token = r.get? token :=
        attempt_register_get? (kept.imp_right fun others => others s List.mem_cons_self)
      refine (ih (kept.imp ?_ ?_)).trans first
      · intro member
        rwa [← get?_isSome, first, get?_isSome]
      · exact fun others s member => others s (List.mem_cons_of_mem _ member)

theorem registering_defaults (later : List Strategy) :
    (r.registering later).defaults = r.defaults := by
  induction later generalizing r with
  | nil => rfl
  | cons s rest ih => exact ih.trans attempt_register_defaults

theorem known_congr {r' : Registry} {tokens : List String}
    (same : ∀ t ∈ tokens, r'.get? t = r.get? t) : r'.known tokens = r.known tokens := by
  have missing : tokens.find? (fun t => (r'.get? t).isNone) =
      tokens.find? fun t => (r.get? t).isNone :=
    List.find?_congr fun t member => congrArg Option.isNone (same t member)
  rw [known, known, missing]

end Registry

namespace Enabled

variable {r r' : Registry} {tokens : List String}

/-- Where a choice comes from does not show in what it enables. -/
theorem only_congr {allowed allowed' : Option (List String)}
    (choice : chosen r' allowed' = chosen r allowed)
    (same : ∀ ts, chosen r allowed = .ok ts → ∀ t ∈ ts, r'.get? t = r.get? t) :
    only r' allowed' = only r allowed := by
  unfold only
  rw [choice]
  cases chose : chosen r allowed with
  | error fault => rfl
  | ok ts =>
      have strategies := List.filterMap_congr (same ts chose)
      simp only [bind, Except.bind, strategies]

/-- A list of defaults is accepted and enables as it would for a call, whatever was registered since
it was set. -/
theorem byDefault_withDefaults (r : Registry) (tokens : List String) (later : List Strategy) :
    (r.withDefaults tokens >>= fun r' => byDefault (r'.registering later)) =
      only r (some tokens) := by
  cases choice : chosen r (some tokens) with
  | error fault =>
      have known : r.known tokens = .error fault := choice
      have refused : r.withDefaults tokens = .error fault := by
        rw [Registry.withDefaults, known]
        rfl
      rw [refused, only, choice]
      rfl
  | ok accepted =>
      obtain ⟨registered, rfl⟩ := Registry.known_ok.1 choice
      let configured : Registry := { r with defaults := some tokens.eraseDups }
      have set : r.withDefaults tokens = .ok configured :=
        Registry.withDefaults_ok.2 ⟨registered, rfl⟩
      have choice' : chosen (configured.registering later) none = .ok tokens.eraseDups := by
        rw [chosen, Registry.registering_defaults]
        rfl
      rw [set]
      refine only_congr (choice'.trans choice.symm) fun ts chose t member => ?_
      cases choice.symm.trans chose
      exact Registry.registering_get? (.inl (registered t (List.mem_eraseDups.1 member)))

theorem only_registering {later : List Strategy} (others : ∀ s ∈ later, s.token ∉ tokens) :
    only (r.registering later) (some tokens) = only r (some tokens) := by
  have same : ∀ t ∈ tokens, (r.registering later).get? t = r.get? t := fun t member =>
    Registry.registering_get? (.inr fun s given named => others s given (named ▸ member))
  refine only_congr (Registry.known_congr same) fun ts chose t member => ?_
  obtain ⟨-, rfl⟩ := Registry.known_ok.1 chose
  exact same t (List.mem_eraseDups.1 member)

theorem byDefault_ofSettings (s : Settings) :
    (Registry.ofSettings s >>= byDefault) = only .builtin s.operators := by
  unfold Registry.ofSettings
  cases s.operators with
  | none => rfl
  | some tokens => exact byDefault_withDefaults .builtin tokens []

/-- A list enables the same as defaults and for a call, or is refused for the same reason, also if
strategies with other tokens are registered in between. A model without a list of its own filters by
defaults as a model filters by that list. -/
theorem defaults_law (r : Registry) (tokens : List String) :
    (∀ later, (r.withDefaults tokens >>= fun r' => byDefault (r'.registering later)) =
      only r (some tokens)) ∧
    (∀ later : List Strategy, (∀ s ∈ later, s.token ∉ tokens) →
      only (r.registering later) (some tokens) = only r (some tokens)) ∧
    (∀ s : Settings, (Registry.ofSettings s >>= byDefault) = only .builtin s.operators) ∧
    ∀ r', r.withDefaults tokens = .ok r' →
      ∀ (q : Select) (key : String) (source : Option Source) (available : Option (List String))
        (spec : Option Spec),
        (Model.filter {} ⟨⟨r', key, source⟩, q, available, spec⟩).2 =
          (Model.filter ⟨some tokens⟩ ⟨⟨r, key, source⟩, q, available, spec⟩).2 := by
  refine ⟨byDefault_withDefaults r tokens, fun _ => only_registering, byDefault_ofSettings, ?_⟩
  intro r' set q key source available spec
  have list : only r' (Model.receive {} available).allowed =
      only r (Model.receive ⟨some tokens⟩ available).allowed := by
    cases available with
    | none =>
        have enabled := byDefault_withDefaults r tokens []
        rw [set] at enabled
        exact enabled
    | some given =>
        -- A list that comes with the call hides both.
        obtain ⟨-, rfl⟩ := Registry.withDefaults_ok.1 set
        rfl
  change Context.filter _ _ q spec = Context.filter _ _ q spec
  rw [Context.filter_eq, Context.filter_eq, list]
  rfl

theorem defaults_law_later :
    let near : Strategy := ⟨"$near", fun column values => ⟨[.any column .ne values], none⟩⟩
    let far : Strategy := ⟨"$far", fun _ _ => .nothing⟩
    let r := Registry.builtin.registering [near]
    let tokens := ["$near", "$gt", "$near"]
    let q : Select := { dialect := .postgres, table := ⟨"users", by decide⟩ }
    let spec := Spec.ofFields [("age", .object [("$near", .array [.integer 1, .integer 2])])]
    ∃ r', r.withDefaults tokens = .ok r' ∧
      byDefault (r'.registering [far, near]) = only r (some tokens) ∧
      (∀ s ∈ [far], s.token ∉ tokens) ∧
      only (r.registering [far]) (some tokens) = only r (some tokens) ∧
      (Model.filter {} ⟨⟨r', "filters", none⟩, q, none, some spec⟩).2 =
        (Model.filter ⟨some tokens⟩ ⟨⟨r, "filters", none⟩, q, none, some spec⟩).2 ∧
      (Model.filter {} ⟨⟨r', "filters", none⟩, q, none, some spec⟩).2 =
        .ok (q.add [.any "age" .ne [.int 1, .int 2]]) := by
  intro near far r tokens q spec
  obtain ⟨defaults, given, -, models⟩ := defaults_law r tokens
  have others : ∀ s ∈ [far], s.token ∉ tokens := List.forall_mem_singleton.2 (by decide)
  refine ⟨_, rfl, defaults [far, near], others, given [far] others,
    models _ rfl q _ none none _, ?_⟩
  decide

end Enabled
end QueryFilter
