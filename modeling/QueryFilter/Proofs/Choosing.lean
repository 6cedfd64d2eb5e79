import QueryFilter.Proofs.Registries

/-!
# The operators that a list chooses

A set of operators taken from a sound registry is known by its tokens (`strategies_eq`), so what
`Enabled.only` makes is said by the tokens alone (`only_tokens_iff`), and why it makes nothing by
the tokens chosen (`only_refused`). `only_law` has the three sources of tokens: the list of the
call, the defaults, and everything registered.
-/

namespace QueryFilter

/-! ## Tokens chosen -/

namespace Registry

variable {r : Registry}

theorem known_refused {tokens : List String} {fault : FilterError} :
    r.known tokens = .error fault ↔ ∃ before t after, tokens = before ++ t :: after ∧
      (∀ u ∈ before, u ∈ r.tokens) ∧ t ∉ r.tokens ∧ fault = .configuration (.notRegistered t) := by
  unfold known
  constructor
  · intro refused
    split at refused
    · rename_i t found
      cases refused
      obtain ⟨missing, before, after, rfl, known⟩ := List.find?_eq_some_iff_append.1 found
      simp only [← Option.not_isSome, get?_isSome, Bool.not_eq_true', Bool.not_not,
        ← Bool.not_eq_true] at missing known
      exact ⟨before, t, after, rfl, known, missing, rfl⟩
    · cases refused
  · rintro ⟨before, t, after, rfl, known, missing, rfl⟩
    have found : (before ++ t :: after).find? (fun u => (r.get? u).isNone) = some t := by
      refine List.find?_eq_some_iff_append.2 ⟨?_, before, after, rfl, fun u member => ?_⟩
      · simpa [← get?_isSome] using missing
      · simpa [← get?_isSome] using known u member
    rw [found]

/-- The tokens that a registry enables where no list is given. -/
def listed (r : Registry) : List String :=
  match r.defaults with
  | some tokens => tokens
  | none => r.tokens

theorem listed_register {s : Strategy} (passed : (r.attempt (.register s)).2 = none) :
    (r.attempt (.register s)).1.listed =
      if r.defaults = none then r.tokens ++ [s.token] else r.listed := by
  obtain ⟨-, -, after⟩ := register_ok.1 (attempt_register passed)
  rw [after]
  obtain ⟨strategies, defaults⟩ := r
  cases defaults with
  | none => exact List.map_append
  | some tokens => rfl

end Registry

namespace Enabled

variable {r : Registry} {allowed : Option (List String)} {e : Enabled}

theorem chosen_none (r : Registry) : chosen r none = .ok r.listed := by
  unfold chosen Registry.listed
  cases r.defaults <;> rfl

theorem strategies_eq (sound : r.Sound) (taken : e.strategies ⊆ r.strategies) :
    e.strategies = e.tokens.filterMap r.get? := by
  obtain ⟨strategies⟩ := e
  change strategies = (strategies.map Strategy.token).filterMap r.get?
  induction strategies with
  | nil => rfl
  | cons s rest ih =>
      obtain ⟨member, others⟩ := List.cons_subset.1 taken
      have found : r.get? s.token = some s := (findStrategy_iff sound.distinct).2 ⟨member, rfl⟩
      rw [List.map_cons, List.filterMap_cons_some found, ← ih others]

theorem only_tokens_iff (sound : r.Sound) : only r allowed = .ok e ↔
    chosen r allowed = .ok e.tokens ∧ e.tokens ≠ [] ∧ e.strategies ⊆ r.strategies := by
  have nonempty : e.strategies ≠ [] ↔ e.tokens ≠ [] := not_congr List.map_eq_nil_iff.symm
  constructor
  · intro ok
    obtain ⟨tokens, choice, strategies, some⟩ := only_iff.1 ok
    refine ⟨only_chosen sound ok, nonempty.1 some, fun s member => ?_⟩
    rw [strategies] at member
    obtain ⟨t, -, found⟩ := List.mem_filterMap.1 member
    exact (findStrategy_some found).1
  · rintro ⟨choice, some, taken⟩
    exact only_iff.2 ⟨e.tokens, choice, strategies_eq sound taken, nonempty.2 some⟩

theorem only_refused (sound : r.Sound) {fault : FilterError} : only r allowed = .error fault ↔
    chosen r allowed = .error fault ∨
      chosen r allowed = .ok [] ∧ fault = .configuration .noneEnabled := by
  unfold only
  rw [bind_eq_error]
  refine or_congr_right ?_
  constructor
  · rintro ⟨tokens, choice, refused⟩
    split at refused
    · rename_i none
      cases refused
      -- Each token chosen has its strategy, so no strategy means no token.
      have tokens_nil := tokens_filterMap (chosen_sound sound choice).2
      rw [none] at tokens_nil
      rw [choice, ← tokens_nil]
      exact ⟨rfl, rfl⟩
    · cases refused
  · rintro ⟨choice, rfl⟩
    exact ⟨[], choice, rfl⟩

theorem exists_only (r : Registry) (allowed : Option (List String)) :
    (∃ e, only r allowed = .ok e) ↔ ∀ fault, only r allowed ≠ .error fault := by
  cases only r allowed <;> simp

/-! ## Lists given and defaults -/

section Sources

variable (sound : r.Sound) {allow : List String} {fault : FilterError}
include sound

theorem only_some_iff : only r (some allow) = .ok e ↔ allow ≠ [] ∧ (∀ t ∈ allow, t ∈ r.tokens) ∧
    FirstOccurrences allow e.tokens ∧ e.strategies ⊆ r.strategies := by
  have first := eraseDups_firstOccurrences allow
  rw [only_tokens_iff sound]
  change r.known allow = _ ∧ _ ↔ _
  rw [Registry.known_ok]
  constructor
  · rintro ⟨⟨registered, same⟩, nonempty, taken⟩
    rw [same] at nonempty ⊢
    exact ⟨fun empty => nonempty (eraseDups_eq_nil.2 empty), registered, first, taken⟩
  · rintro ⟨nonempty, registered, first', taken⟩
    have same := first'.unique first
    refine ⟨⟨registered, same⟩, ?_, taken⟩
    rw [same]
    exact fun empty => nonempty (eraseDups_eq_nil.1 empty)

theorem only_some_refused : only r (some allow) = .error fault ↔
    (allow = [] ∧ fault = .configuration .noneEnabled) ∨
      ∃ before t after, allow = before ++ t :: after ∧ (∀ u ∈ before, u ∈ r.tokens) ∧
        t ∉ r.tokens ∧ fault = .configuration (.notRegistered t) := by
  rw [only_refused sound, or_comm]
  change r.known allow = _ ∧ _ ∨ r.known allow = _ ↔ _
  rw [Registry.known_refused, Registry.known_ok]
  refine or_congr_left (and_congr_left fun _ => ?_)
  rw [eq_comm, eraseDups_eq_nil]
  refine and_iff_right_of_imp ?_
  rintro rfl
  exact List.forall_mem_nil _

theorem exists_only_some :
    (∃ e, only r (some allow) = .ok e) ↔ allow ≠ [] ∧ ∀ t ∈ allow, t ∈ r.tokens := by
  constructor
  · rintro ⟨e, ok⟩
    obtain ⟨nonempty, registered, -⟩ := (only_some_iff sound).1 ok
    exact ⟨nonempty, registered⟩
  · rintro ⟨nonempty, registered⟩
    rw [exists_only]
    intro fault refused
    rcases (only_some_refused sound).1 refused with ⟨empty, -⟩ | ⟨before, t, after, rfl, -, new, -⟩
    · exact nonempty empty
    · exact new (registered t (List.mem_append_right before List.mem_cons_self))

theorem only_none_iff : only r none = .ok e ↔
    r.listed ≠ [] ∧ e.tokens = r.listed ∧ e.strategies ⊆ r.strategies := by
  rw [only_tokens_iff sound, chosen_none, Except.ok.injEq]
  constructor
  · rintro ⟨same, nonempty, taken⟩
    exact ⟨same ▸ nonempty, same.symm, taken⟩
  · rintro ⟨nonempty, same, taken⟩
    exact ⟨same.symm, same ▸ nonempty, taken⟩

theorem only_none_refused : only r none = .error fault ↔
    r.listed = [] ∧ fault = .configuration .noneEnabled := by
  rw [only_refused sound, chosen_none, Except.ok.injEq]
  exact or_iff_right nofun

end Sources

/-- A list given for a call enables its tokens if it has some and all are registered, whatever the
defaults are; the first that is not registered is named. Without a list the defaults are enabled, or
everything registered up to then. There is no empty set of operators. -/
theorem only_law (reached : r.Reached) :
    (∀ allow, ((∃ e, only r (some allow) = .ok e) ↔ allow ≠ [] ∧ ∀ t ∈ allow, t ∈ r.tokens) ∧
      (∀ e, only r (some allow) = .ok e ↔ allow ≠ [] ∧ (∀ t ∈ allow, t ∈ r.tokens) ∧
        FirstOccurrences allow e.tokens ∧ e.strategies ⊆ r.strategies) ∧
      (∀ fault, only r (some allow) = .error fault ↔
        (allow = [] ∧ fault = .configuration .noneEnabled) ∨
          ∃ before t after, allow = before ++ t :: after ∧ (∀ u ∈ before, u ∈ r.tokens) ∧
            t ∉ r.tokens ∧ fault = .configuration (.notRegistered t)) ∧
      ∀ defaults, only { r with defaults } (some allow) = only r (some allow)) ∧
    (∀ e, only r none = .ok e ↔
      r.listed ≠ [] ∧ e.tokens = r.listed ∧ e.strategies ⊆ r.strategies) ∧
    (∀ fault, only r none = .error fault ↔
      r.listed = [] ∧ fault = .configuration .noneEnabled) ∧
    (∀ s, (r.attempt (.register s)).2 = none → (r.attempt (.register s)).1.listed =
      if r.defaults = none then r.tokens ++ [s.token] else r.listed) ∧
    ConfigFault.noneEnabled.message = "no filter operators are enabled" ∧
    ∀ t, (ConfigFault.notRegistered t).message =
      "operator " ++ quoted t ++ " is not registered" := by
  have sound := reached.sound
  refine ⟨fun allow => ⟨exists_only_some sound, fun _ => only_some_iff sound,
    fun _ => only_some_refused sound, fun _ => rfl⟩, fun _ => only_none_iff sound,
    fun _ => only_none_refused sound, fun _ => Registry.listed_register, rfl, fun _ => rfl⟩

theorem only_law_later :
    let near : Strategy := ⟨"$near", fun _ _ => .nothing⟩
    let r := (((Registry.builtin.attempt (.withDefaults ["$gt", "$eq", "$gt"])).1.attempt
      (.register near)).1)
    r.Reached ∧ r.listed = ["$gt", "$eq"] ∧
      (∃ e, only r (some ["$near", "$lt", "$near"]) = .ok e ∧ e.tokens = ["$near", "$lt"]) ∧
      only r (some ["$lt", "$far", "$further"]) =
        .error (.configuration (.notRegistered "$far")) ∧
      only r (some []) = .error (.configuration .noneEnabled) := by
  intro near r
  have reached : r.Reached := .call (.call .builtin _) _
  obtain ⟨given, -⟩ := only_law reached
  have registered : ∀ t ∈ ["$near", "$lt", "$near"], t ∈ r.tokens := by decide
  obtain ⟨accepts, lists, -⟩ := given ["$near", "$lt", "$near"]
  obtain ⟨e, ok⟩ := accepts.2 ⟨by decide, registered⟩
  have first : FirstOccurrences ["$near", "$lt", "$near"] ["$near", "$lt"] :=
    eraseDups_firstOccurrences _
  obtain ⟨-, -, refuses, -⟩ := given ["$lt", "$far", "$further"]
  obtain ⟨-, -, refuses_nil, -⟩ := given []
  refine ⟨reached, by decide, ⟨e, ok, ((lists e).1 ok).2.2.1.unique first⟩, ?_, ?_⟩
  · exact (refuses _).2 (.inr ⟨["$lt"], "$far", ["$further"], rfl, by decide, by decide, rfl⟩)
  · exact (refuses_nil _).2 (.inl ⟨rfl, rfl⟩)

end Enabled
end QueryFilter
