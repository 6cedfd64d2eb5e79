import Mathlib.Data.List.Nodup
import QueryFilter.Proofs.Enabling

/-!
# Registries over their calls

A registry is `Reached` from the empty one, the built-in one or one of settings by calls that may
fail. Every registry reached is `Sound`: no two strategies have one token, none has the empty token,
and the defaults are tokens of strategies, each once. `Sound.attempt` keeps this through one call,
from what a call does when it succeeds (`register_ok`, `withDefaults_ok`). In a sound registry
lookup finds each strategy by its token, and the operators enabled from it are the tokens chosen
(`only_chosen`), so nothing chosen gets lost. `registry_law` is all of it.
-/

namespace QueryFilter

theorem findStrategy_iff {ss : List Strategy} (distinct : (ss.map Strategy.token).Nodup)
    {token : String} {s : Strategy} :
    findStrategy ss token = some s ↔ s ∈ ss ∧ s.token = token := by
  refine ⟨findStrategy_some, ?_⟩
  rintro ⟨member, rfl⟩
  induction ss with
  | nil => cases member
  | cons other rest ih =>
      rw [List.map_cons, List.nodup_cons] at distinct
      rw [findStrategy_cons]
      rcases List.mem_cons.1 member with rfl | later
      · exact if_pos rfl
      · have differ : other.token ≠ s.token := fun same =>
          distinct.1 (same ▸ List.mem_map_of_mem later)
        rw [if_neg differ, ih distinct.2 later]

namespace Registry

/-! ## Calls -/

inductive Call where
  | register (s : Strategy)
  | withDefaults (tokens : List String)

def perform (r : Registry) : Call → Except FilterError Registry
  | .register s => r.register s
  | .withDefaults tokens => r.withDefaults tokens

/-- The registry after a call, and the fault if the call fails. -/
def attempt (r : Registry) (c : Call) : Registry × Option FilterError :=
  match r.perform c with
  | .ok r' => (r', none)
  | .error fault => (r, some fault)

inductive Reached : Registry → Prop where
  | empty : Reached .empty
  | builtin : Reached .builtin
  | ofSettings {s : Settings} {r : Registry} (made : ofSettings s = .ok r) : Reached r
  | call {r : Registry} (before : Reached r) (c : Call) : Reached (r.attempt c).1

section Calls

variable {r r' : Registry} {s : Strategy} {tokens : List String}

theorem register_ok : r.register s = .ok r' ↔
    s.token ≠ "" ∧ s.token ∉ r.tokens ∧ r' = { r with strategies := r.strategies ++ [s] } := by
  unfold register
  split
  · rename_i empty
    exact iff_of_false nofun fun accepted => accepted.1 empty
  · rename_i nonempty
    split
    · rename_i taken
      exact iff_of_false nofun fun accepted => accepted.2.1 (get?_isSome.1 taken)
    · rename_i free
      rw [Except.ok.injEq, eq_comm, and_iff_right nonempty,
        and_iff_right fun taken => free (get?_isSome.2 taken)]

theorem withDefaults_ok : r.withDefaults tokens = .ok r' ↔
    (∀ t ∈ tokens, t ∈ r.tokens) ∧ r' = { r with defaults := some tokens.eraseDups } := by
  unfold withDefaults
  rw [bind_eq_ok]
  constructor
  · rintro ⟨accepted, known, same⟩
    obtain ⟨registered, rfl⟩ := known_ok.1 known
    exact ⟨registered, (Except.ok.inj same).symm⟩
  · rintro ⟨registered, rfl⟩
    exact ⟨tokens.eraseDups, known_ok.2 ⟨registered, rfl⟩, rfl⟩

theorem register_tokens (ok : r.register s = .ok r') : r'.tokens = r.tokens ++ [s.token] := by
  obtain ⟨-, -, rfl⟩ := register_ok.1 ok
  exact List.map_append

theorem withDefaults_tokens (ok : r.withDefaults tokens = .ok r') : r'.tokens = r.tokens := by
  obtain ⟨-, rfl⟩ := withDefaults_ok.1 ok
  rfl

theorem builtin_tokens : builtin.tokens = Operator.all.map Operator.token := by
  rw [Registry.tokens, builtin, List.map_map]
  rfl

end Calls

/-! ## Soundness -/

structure Sound (r : Registry) : Prop where
  nonempty : "" ∉ r.tokens
  distinct : r.tokens.Nodup
  defaults : ∀ ts ∈ r.defaults, ts.Nodup ∧ ∀ t ∈ ts, t ∈ r.tokens

theorem sound_empty : Sound empty := ⟨List.not_mem_nil, List.nodup_nil, nofun⟩

theorem sound_builtin : Sound builtin := by
  refine ⟨?_, ?_, nofun⟩
  · rw [builtin_tokens]
    decide
  · rw [builtin_tokens]
    exact List.Nodup.map (fun _ _ same => Operator.token_injective same) (by decide)

variable {r r' : Registry}

theorem Sound.register {s : Strategy} (sound : r.Sound) (ok : r.register s = .ok r') :
    r'.Sound := by
  have tokens := register_tokens ok
  obtain ⟨nonempty, free, rfl⟩ := register_ok.1 ok
  refine ⟨?_, ?_, fun ts configured => ?_⟩
  · rw [tokens, List.mem_append, List.mem_singleton]
    exact fun found => found.elim sound.nonempty nonempty.symm
  · rw [tokens]
    refine List.nodup_append.2 ⟨sound.distinct, List.nodup_singleton _, ?_⟩
    rintro t member _ last rfl
    exact free (List.mem_singleton.1 last ▸ member)
  · obtain ⟨nodup, registered⟩ := sound.defaults ts configured
    refine ⟨nodup, fun t member => ?_⟩
    rw [tokens]
    exact List.mem_append_left _ (registered t member)

theorem Sound.withDefaults {tokens : List String} (sound : r.Sound)
    (ok : r.withDefaults tokens = .ok r') : r'.Sound := by
  obtain ⟨registered, rfl⟩ := withDefaults_ok.1 ok
  refine ⟨sound.nonempty, sound.distinct, ?_⟩
  rintro _ ⟨⟩
  exact known_sound (known_ok.2 ⟨registered, rfl⟩)

theorem sound_ofSettings {s : Settings} (made : ofSettings s = .ok r) : r.Sound := by
  unfold ofSettings at made
  split at made
  · exact sound_builtin.withDefaults made
  · cases made
    exact sound_builtin

theorem Sound.attempt (sound : r.Sound) (c : Call) : (r.attempt c).1.Sound := by
  unfold Registry.attempt
  cases result : r.perform c with
  | error fault => exact sound
  | ok r' =>
      cases c with
      | register s => exact sound.register result
      | withDefaults tokens => exact sound.withDefaults result

theorem Reached.sound (reached : Reached r) : r.Sound := by
  induction reached with
  | empty => exact sound_empty
  | builtin => exact sound_builtin
  | ofSettings made => exact sound_ofSettings made
  | call before c sound => exact sound.attempt c

/-! ## Lookup after a call -/

theorem attempt_failed {c : Call} {fault : FilterError} (failed : (r.attempt c).2 = some fault) :
    (r.attempt c).1 = r := by
  unfold attempt at failed ⊢
  cases result : r.perform c with
  | error fault => rfl
  | ok r' =>
      rw [result] at failed
      cases failed

theorem attempt_register {s : Strategy} (passed : (r.attempt (.register s)).2 = none) :
    r.register s = .ok (r.attempt (.register s)).1 := by
  unfold attempt at passed ⊢
  cases result : r.perform (.register s) with
  | error fault =>
      rw [result] at passed
      cases passed
  | ok r' => exact result

theorem register_get? {s : Strategy} (ok : r.register s = .ok r') (token : String) :
    r'.get? token = if token = s.token then some s else r.get? token := by
  obtain ⟨-, free, rfl⟩ := register_ok.1 ok
  have appended : findStrategy (r.strategies ++ [s]) token =
      (r.get? token).or (findStrategy [s] token) := findStrategy_append r.strategies [s] token
  change findStrategy (r.strategies ++ [s]) token = _
  rw [appended, findStrategy_cons]
  by_cases same : token = s.token
  · have missing : r.get? token = none := by
      rw [← Option.not_isSome_iff_eq_none, get?_isSome, same]
      exact free
    rw [missing, if_pos same, if_pos same.symm, Option.none_or]
  · rw [if_neg same, if_neg (Ne.symm same)]
    exact Option.or_none

end Registry

/-! ## Operators enabled -/

namespace Enabled

variable {r : Registry} {allowed : Option (List String)} {e : Enabled}

theorem chosen_sound (sound : r.Sound) {tokens : List String}
    (choice : chosen r allowed = .ok tokens) : tokens.Nodup ∧ ∀ t ∈ tokens, t ∈ r.tokens := by
  cases allowed with
  | some allow => exact Registry.known_sound choice
  | none =>
      cases choice
      cases configured : r.defaults with
      | none => exact ⟨sound.distinct, fun t member => member⟩
      | some tokens => exact sound.defaults tokens configured

theorem only_iff : only r allowed = .ok e ↔ ∃ tokens, chosen r allowed = .ok tokens ∧
    e.strategies = tokens.filterMap r.get? ∧ e.strategies ≠ [] := by
  unfold only
  rw [bind_eq_ok]
  refine exists_congr fun tokens => and_congr_right fun _ => ?_
  obtain ⟨strategies⟩ := e
  cases tokens.filterMap r.get? with
  | nil => exact iff_of_false nofun fun ⟨empty, nonempty⟩ => nonempty empty
  | cons s rest =>
      constructor
      · intro ok
        cases ok
        exact ⟨rfl, List.cons_ne_nil s rest⟩
      · rintro ⟨same, -⟩
        cases same
        rfl

theorem tokens_filterMap {tokens : List String} (registered : ∀ t ∈ tokens, t ∈ r.tokens) :
    (tokens.filterMap r.get?).map Strategy.token = tokens := by
  induction tokens with
  | nil => rfl
  | cons t rest ih =>
      obtain ⟨here, others⟩ := List.forall_mem_cons.1 registered
      obtain ⟨s, found⟩ := Option.isSome_iff_exists.1 (Registry.get?_isSome.2 here)
      rw [List.filterMap_cons_some found, List.map_cons, ih others, (findStrategy_some found).2]

/-- Every token chosen is enabled, in the order of choice. -/
theorem only_chosen (sound : r.Sound) (ok : only r allowed = .ok e) :
    chosen r allowed = .ok e.tokens := by
  obtain ⟨tokens, choice, strategies, -⟩ := only_iff.1 ok
  rw [choice, Enabled.tokens, strategies, tokens_filterMap (chosen_sound sound choice).2]

theorem only_lookup (sound : r.Sound) (ok : only r allowed = .ok e) (token : String) :
    e.get? token = if token ∈ e.tokens then r.get? token else none := by
  obtain ⟨tokens, choice, strategies, -⟩ := only_iff.1 ok
  have same : tokens = e.tokens := Except.ok.inj (choice.symm.trans (only_chosen sound ok))
  rw [get?, strategies, ← same]
  exact findStrategy_filterMap r.strategies tokens token

end Enabled

/-- Calls keep a registry sound. One that fails changes nothing, and one that registers a strategy
changes the lookup of its token only. Lookup finds a strategy for the tokens registered and no
others, and what is enabled is some of these, each once, with the strategies that they have. -/
theorem registry_law {r : Registry} (reached : r.Reached) :
    r.Sound ∧
    (∀ t, (r.get? t).isSome ↔ t ∈ r.tokens) ∧
    (∀ t s, r.get? t = some s ↔ s ∈ r.strategies ∧ s.token = t) ∧
    (∀ c fault, (r.attempt c).2 = some fault → (r.attempt c).1.tokens = r.tokens ∧
      (r.attempt c).1.defaults = r.defaults) ∧
    (∀ s, (r.attempt (.register s)).2 = none →
      (r.attempt (.register s)).1.tokens = r.tokens ++ [s.token] ∧
      (∀ t ∈ r.tokens, (r.attempt (.register s)).1.get? t = r.get? t) ∧
      ∀ t, (r.attempt (.register s)).1.get? t = if t = s.token then some s else r.get? t) ∧
    ∀ allowed e, Enabled.only r allowed = .ok e →
      e.tokens ≠ [] ∧ e.tokens.Nodup ∧ (∀ t ∈ e.tokens, t ∈ r.tokens) ∧
      Enabled.chosen r allowed = .ok e.tokens ∧
      ∀ t, e.get? t = if t ∈ e.tokens then r.get? t else none := by
  have sound := reached.sound
  refine ⟨sound, fun _ => Registry.get?_isSome, fun _ _ => findStrategy_iff sound.distinct, ?_, ?_,
    ?_⟩
  · intro c fault failed
    rw [Registry.attempt_failed failed]
    exact ⟨rfl, rfl⟩
  · intro s passed
    have registered := Registry.attempt_register passed
    have lookup := Registry.register_get? registered
    obtain ⟨-, free, after⟩ := Registry.register_ok.1 registered
    refine ⟨?_, fun t member => ?_, lookup⟩
    · rw [after]
      exact List.map_append
    · have earlier : t ≠ s.token := fun same => free (same ▸ member)
      rw [lookup, if_neg earlier]
  · intro allowed e ok
    have choice := Enabled.only_chosen sound ok
    obtain ⟨nodup, registered⟩ := Enabled.chosen_sound sound choice
    obtain ⟨_, -, -, nonempty⟩ := Enabled.only_iff.1 ok
    refine ⟨fun empty => nonempty (List.map_eq_nil_iff.1 empty), nodup, registered, choice, ?_⟩
    exact Enabled.only_lookup sound ok

theorem registry_law_custom :
    let near : Strategy := ⟨"$near", fun column values => ⟨[.any column .ne values], none⟩⟩
    let far : Strategy := ⟨"$far", fun _ _ => .nothing⟩
    let calls : List Registry.Call := [.register near, .register Operator.eq.strategy,
      .withDefaults ["$near", "$eq", "$near"], .withDefaults ["$near", "$far"], .register far]
    let r := calls.foldl (fun r c => (r.attempt c).1) .empty
    r.Sound ∧ (r.attempt (.register near)).1.tokens = r.tokens ∧
      ∃ e, Enabled.only r none = .ok e ∧ e.tokens = ["$near", "$eq"] ∧ e.get? "$far" = none := by
  intro near far calls r
  have reached : r.Reached := .call (.call (.call (.call (.call .empty _) _) _) _) _
  obtain ⟨sound, -, -, failing, -, enabled⟩ := registry_law reached
  obtain ⟨e, ok⟩ : ∃ e, Enabled.only r none = .ok e := ⟨_, rfl⟩
  obtain ⟨-, -, -, choice, lookup⟩ := enabled none e ok
  have tokens : ["$near", "$eq"] = e.tokens := Except.ok.inj choice
  refine ⟨sound, ?_, e, ok, tokens.symm, ?_⟩
  · exact (failing (.register near) (.configuration (.alreadyRegistered "$near")) rfl).1
  · rw [lookup, ← tokens]
    exact if_neg (by decide)

end QueryFilter
