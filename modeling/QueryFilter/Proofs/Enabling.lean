import Mathlib.Data.List.Induction
import QueryFilter.Proofs.Expressions
import QueryFilter.Registry

/-!
# What a list of tokens enables

`FirstOccurrences` describes a list without its repetitions, and there is one such list only
(`FirstOccurrences.unique`). A list given for a call is accepted only if all its tokens are
registered (`known_ok`). Lookup in the operators that it enables is lookup in the registry, for the
tokens of the list (`only_get?`), so neither their order nor their repetitions are seen afterwards.
A list that is not accepted is a fault of the configuration (`only_error`).
-/

namespace QueryFilter

/-! ## Lists without repetitions -/

/-- The members of a list, each once, in the order in which they first occur in it. -/
structure FirstOccurrences (ts us : List String) : Prop where
  members : ∀ t, t ∈ us ↔ t ∈ ts
  ordered : us.Pairwise fun t u => ts.idxOf t < ts.idxOf u

theorem FirstOccurrences.nodup {ts us : List String} (first : FirstOccurrences ts us) :
    us.Nodup := by
  refine first.ordered.imp ?_
  rintro t _ before rfl
  exact Nat.lt_irrefl _ before

theorem FirstOccurrences.unique {ts us vs : List String} (first : FirstOccurrences ts us)
    (first' : FirstOccurrences ts vs) : us = vs := by
  have perm : us.Perm vs := (List.perm_ext_iff_of_nodup first.nodup first'.nodup).2 fun t =>
    (first.members t).trans (first'.members t).symm
  refine perm.eq_of_pairwise ?_ first.ordered first'.ordered
  intro t u _ _ before after
  omega

theorem FirstOccurrences.concat {ts us : List String} (first : FirstOccurrences ts us)
    (t : String) : FirstOccurrences (ts ++ [t]) (if t ∈ us then us else us ++ [t]) := by
  have earlier {u : String} (member : u ∈ us) : (ts ++ [t]).idxOf u = ts.idxOf u :=
    List.idxOf_append_of_mem ((first.members u).1 member)
  have ordered : us.Pairwise fun u v => (ts ++ [t]).idxOf u < (ts ++ [t]).idxOf v := by
    refine first.ordered.imp_of_mem fun before after smaller => ?_
    rwa [earlier before, earlier after]
  split
  · rename_i present
    refine ⟨fun u => ?_, ordered⟩
    rw [first.members, List.mem_append, List.mem_singleton]
    refine (or_iff_left_of_imp ?_).symm
    rintro rfl
    exact (first.members u).1 present
  · rename_i absent
    refine ⟨fun u => ?_, List.pairwise_append.2 ⟨ordered, List.pairwise_singleton _ _, ?_⟩⟩
    · rw [List.mem_append, List.mem_append, first.members]
    · intro u member v last
      cases List.mem_singleton.1 last
      have new : t ∉ ts := fun found => absent ((first.members t).2 found)
      rw [earlier member, List.idxOf_append_of_notMem new]
      exact Nat.lt_add_right _ (List.idxOf_lt_length_of_mem ((first.members u).1 member))

theorem eraseDups_concat (ts : List String) (t : String) : (ts ++ [t]).eraseDups =
    if t ∈ ts.eraseDups then ts.eraseDups else ts.eraseDups ++ [t] := by
  rw [List.eraseDups_append]
  by_cases present : t ∈ ts
  · simp [List.removeAll, present]
  · simp [List.removeAll, present, List.eraseDups_cons]

theorem eraseDups_firstOccurrences (ts : List String) : FirstOccurrences ts ts.eraseDups := by
  -- From the back: a token added there is present, or its first occurrence is the last of all.
  induction ts using List.reverseRecOn with
  | nil => exact ⟨fun _ => .rfl, .nil⟩
  | append_singleton ts t ih =>
      rw [eraseDups_concat]
      exact ih.concat t

theorem eraseDups_eq_nil {ts : List String} : ts.eraseDups = [] ↔ ts = [] := by
  simp only [List.eq_nil_iff_forall_not_mem, List.mem_eraseDups]

/-! ## Lists of tokens -/

theorem findStrategy_cons (s : Strategy) (ss : List Strategy) (token : String) :
    findStrategy (s :: ss) token = if s.token = token then some s else findStrategy ss token := by
  unfold findStrategy
  by_cases named : s.token = token
  · rw [if_pos named]
    exact List.find?_cons_of_pos (beq_iff_eq.2 named)
  · rw [if_neg named]
    exact List.find?_cons_of_neg (fun same => named (beq_iff_eq.1 same))

theorem findStrategy_filterMap (ss : List Strategy) (tokens : List String) (token : String) :
    findStrategy (tokens.filterMap (findStrategy ss)) token =
      if token ∈ tokens then findStrategy ss token else none := by
  induction tokens with
  | nil => rfl
  | cons t rest ih =>
      cases found : findStrategy ss t with
      | none =>
          rw [List.filterMap_cons_none found, ih]
          by_cases same : token = t
          · subst same
            simp only [found, ite_self]
          · simp only [List.mem_cons, same, false_or]
      | some s =>
          have named : s.token = t := (findStrategy_some found).2
          rw [List.filterMap_cons_some found, findStrategy_cons, named, ih]
          by_cases same : token = t
          · subst same
            rw [if_pos rfl, if_pos List.mem_cons_self, found]
          · simp only [List.mem_cons, same, Ne.symm same, false_or, if_false]

theorem Registry.get?_isSome {r : Registry} {token : String} :
    (r.get? token).isSome ↔ token ∈ r.tokens :=
  findStrategy_isSome

theorem Registry.known_ok {r : Registry} {tokens accepted : List String} :
    r.known tokens = .ok accepted ↔
      (∀ t ∈ tokens, t ∈ r.tokens) ∧ accepted = tokens.eraseDups := by
  have registered : (tokens.find? fun t => (r.get? t).isNone) = none ↔
      ∀ t ∈ tokens, t ∈ r.tokens := by
    rw [List.find?_eq_none]
    refine forall₂_congr fun t _ => ?_
    rw [Bool.not_eq_true, Option.isNone_eq_false_iff]
    exact get?_isSome
  unfold Registry.known
  cases unknown : tokens.find? fun t => (r.get? t).isNone with
  | none =>
      constructor
      · intro ok
        cases ok
        exact ⟨registered.1 unknown, rfl⟩
      · rintro ⟨-, rfl⟩
        rfl
  | some t =>
      constructor
      · nofun
      · rintro ⟨all, -⟩
        rw [registered.2 all] at unknown
        cases unknown

theorem Registry.known_sound {r : Registry} {tokens accepted : List String}
    (ok : r.known tokens = .ok accepted) : accepted.Nodup ∧ ∀ t ∈ accepted, t ∈ r.tokens := by
  obtain ⟨registered, rfl⟩ := known_ok.1 ok
  exact ⟨(eraseDups_firstOccurrences tokens).nodup,
    fun t member => registered t (List.mem_eraseDups.1 member)⟩

namespace Enabled

variable {r : Registry} {allow : List String} {e : Enabled}

theorem only_ok (accepted : only r (some allow) = .ok e) :
    (∀ t ∈ allow, t ∈ r.tokens) ∧ e = ⟨allow.eraseDups.filterMap r.get?⟩ := by
  obtain ⟨tokens, known, chosen⟩ := bind_eq_ok.1 accepted
  obtain ⟨registered, rfl⟩ := Registry.known_ok.1 known
  split at chosen
  · cases chosen
  · cases chosen
    exact ⟨registered, rfl⟩

theorem get?_isSome {token : String} : (e.get? token).isSome ↔ token ∈ e.tokens :=
  findStrategy_isSome

theorem only_get? (accepted : only r (some allow) = .ok e) (token : String) :
    e.get? token = if token ∈ allow then r.get? token else none := by
  obtain ⟨-, rfl⟩ := only_ok accepted
  simp only [← List.mem_eraseDups (l := allow)]
  exact findStrategy_filterMap r.strategies allow.eraseDups token

theorem only_tokens (accepted : only r (some allow) = .ok e) {token : String} :
    token ∈ e.tokens ↔ token ∈ allow := by
  rw [← get?_isSome, only_get? accepted]
  split
  · rename_i listed
    have registered := (only_ok accepted).1 token listed
    exact iff_of_true (Registry.get?_isSome.2 registered) listed
  · rename_i unlisted
    exact iff_of_false nofun unlisted

theorem chosen_error {allowed : Option (List String)} {fault : FilterError}
    (refused : chosen r allowed = .error fault) : ∃ cause, fault = .configuration cause := by
  cases allowed with
  | none => cases refused
  | some allow =>
      change r.known allow = .error fault at refused
      unfold Registry.known at refused
      split at refused
      · cases refused
        exact ⟨_, rfl⟩
      · cases refused

theorem only_error {allowed : Option (List String)} {fault : FilterError}
    (refused : only r allowed = .error fault) : ∃ cause, fault = .configuration cause := by
  unfold only at refused
  cases choice : chosen r allowed with
  | error other =>
      rw [choice] at refused
      cases refused
      exact chosen_error choice
  | ok tokens =>
      rw [choice] at refused
      simp only [bind, Except.bind] at refused
      split at refused
      · cases refused
        exact ⟨_, rfl⟩
      · cases refused

end Enabled
end QueryFilter
