import Mathlib.Data.List.Induction
import QueryFilter.Model
import QueryFilter.Proofs.Filtering

/-!
# Specifications from the source

A call without a specification takes the entry of its source under the key of the context. For a
document that is the call with the entry as its specification, or with the empty one, or it is
refused (`ambient_law`). The source is asked after the list of allowed operators is settled and
before a filter is read, and only if no specification is given.
-/

namespace QueryFilter

/-! ## Documents as sources -/

/-- What a document holds under a key; one that is no object holds nothing. -/
def Json.entry? (key : String) : Json → Option Json
  | .object fields => Fields.get? key fields
  | _ => none

theorem Source.ofJson_entry (document : Json) (key : String) : ofJson document key =
    match document.entry? key with
    | none => .ok none
    | some .null => .ok none
    | some json => (Spec.ofJsonAt key json).map some := by
  cases document <;> rfl

namespace Context

variable {ctx : Context} {document : Json}

theorem answer_source {source : Source} (wired : ctx.source = some source) :
    ctx.answer none = (source ctx.key).map fun answer => answer.getD .empty := by
  rw [answer, ambient, wired]
  change (source ctx.key >>= fun answer => pure (answer.getD .empty)) = _
  cases source ctx.key <;> rfl

section Document

variable (wired : ctx.source = some (.ofJson document))
include wired

theorem answer_nothing (entry : document.entry? ctx.key = none ∨
    document.entry? ctx.key = some .null) : ctx.answer none = .ok .empty := by
  rw [answer_source wired, Source.ofJson_entry]
  rcases entry with absent | null
  · rw [absent]
    rfl
  · rw [null]
    rfl

theorem answer_object {fields : Fields Json}
    (entry : document.entry? ctx.key = some (.object fields)) :
    ctx.answer none = .ok (.ofFields fields) := by
  rw [answer_source wired, Source.ofJson_entry, entry]
  rfl

theorem answer_other {json : Json} (entry : document.entry? ctx.key = some json)
    (nonnull : json = .null → False) (nonobject : ∀ fields, json = .object fields → False) :
    ctx.answer none = .error (.malformed ctx.key (.notFields json.kind)) := by
  rw [answer_source wired, Source.ofJson_entry, entry]
  cases json with
  | null => exact absurd rfl nonnull
  | object fields => exact absurd rfl (nonobject fields)
  | _ => rfl

end Document

/-! ## Contexts as they are set up -/

inductive Change where
  | key (name : String)
  | settings (s : Settings)
  | source (source : Source)

def change (ctx : Context) : Change → Context
  | .key name => ctx.withKey name
  | .settings s => ctx.withSettings s
  | .source source => ctx.withSource source

def setUp (r : Registry) (changes : List Change) : Context := changes.foldl change { registry := r }

def Change.key? : Change → Option String
  | .key name => some name
  | .settings s => some s.key
  | .source _ => none

theorem change_key (ctx : Context) (c : Change) : (ctx.change c).key = c.key?.getD ctx.key := by
  cases c <;> rfl

theorem setUp_key (r : Registry) (changes : List Change) :
    (setUp r changes).key = (changes.filterMap Change.key?).getLast?.getD defaultKey := by
  -- From the right: the last change with a key hides those before it.
  induction changes using List.reverseRecOn with
  | nil => rfl
  | append_singleton changes last ih =>
      have stepped : setUp r (changes ++ [last]) = (setUp r changes).change last :=
        List.foldl_append
      rw [stepped, change_key, List.filterMap_append]
      cases named : last.key? with
      | none =>
          rw [List.filterMap_cons_none named, List.filterMap_nil, List.append_nil, ih]
          rfl
      | some name =>
          rw [List.filterMap_cons_some named, List.filterMap_nil, List.getLast?_concat]
          rfl

/-! ## Calls with and without a specification -/

variable {allowed : Option (List String)} {q : Select}

theorem filter_ambient {spec : Spec} (source : ctx.answer none = .ok spec) :
    ctx.filter allowed q none = ctx.filter allowed q (some spec) := by
  have same : ctx.answer none = ctx.answer (some spec) := source
  rw [filter_eq, filter_eq, same]

end Context

/-- With a document as its source, a call without a specification is the call with the entry under
the key. With a specification, neither the source nor the key counts. A call fails by its list
before its source, and by its source before its filters. -/
theorem ambient_law (m : Model) (q : Select) (available : Option (List String)) (ctx : Context) :
    let allowed := (m.receive available).allowed
    let call (ctx : Context) (given : Option Spec) := m.filter ⟨ctx, q, available, given⟩
    (∀ document : Json,
      let within := ctx.withSource (.ofJson document)
      match document.entry? ctx.key with
      | none => call within none = call within (some .empty)
      | some .null => call within none = call within (some .empty)
      | some (.object fields) => call within none = call within (some (.ofFields fields))
      | some json => ∀ e, Enabled.only ctx.registry allowed = .ok e →
          (call within none).2 = .error (.malformed ctx.key (.notFields json.kind))) ∧
    (ctx.source = none → call ctx none = call ctx (some .empty)) ∧
    (∀ (fields : Fields Json) (given : Option Spec),
      call (ctx.withSource (.ofFields fields)) given =
        call (ctx.withSource (.ofJson (.object fields))) given) ∧
    (∀ (key : String) (source : Option Source) (spec : Spec),
      call { ctx with key, source } (some spec) = call ctx (some spec)) ∧
    (∀ fault, Enabled.only ctx.registry allowed = .error fault →
      (∃ cause, fault = .configuration cause) ∧
      ∀ (key : String) (source : Option Source) (given : Option Spec),
        (call { ctx with key, source } given).2 = .error fault) ∧
    (∀ e, Enabled.only ctx.registry allowed = .ok e →
      (∀ source fault, ctx.source = some source → source ctx.key = .error fault →
        (call ctx none).2 = .error fault) ∧
      ∀ given spec, ctx.answer given = .ok spec →
        (call ctx given).2 = (e.applyAll spec).onto q) ∧
    ∀ (r : Registry) (changes : List Context.Change), (Context.setUp r changes).key =
      (changes.filterMap Context.Change.key?).getLast?.getD "filters" := by
  intro allowed call
  have taken {ctx : Context} {spec : Spec} (source : ctx.answer none = .ok spec) :
      call ctx none = call ctx (some spec) := congrArg (Prod.mk _) (Context.filter_ambient source)
  refine ⟨?_, ?_, fun _ _ => rfl, fun _ _ _ => rfl, ?_, ?_, Context.setUp_key⟩
  · intro document within
    split
    · rename_i entry
      exact taken (Context.answer_nothing rfl (.inl entry))
    · rename_i entry
      exact taken (Context.answer_nothing rfl (.inr entry))
    · rename_i fields entry
      exact taken (Context.answer_object rfl entry)
    · rename_i json nonnull nonobject entry
      intro e (list : Enabled.only within.registry allowed = .ok e)
      have refused : within.answer none = .error (.malformed ctx.key (.notFields json.kind)) :=
        Context.answer_other rfl entry nonnull nonobject
      exact Context.filter_unanswered list refused
  · intro none_wired
    exact taken (by rw [Context.answer, Context.ambient, none_wired])
  · intro fault refused
    exact ⟨Enabled.only_error refused, fun _ _ _ => Context.filter_unlisted refused⟩
  · intro e list
    refine ⟨fun source fault wired failing => ?_, fun given spec answer => ?_⟩
    · have refused : ctx.answer none = .error fault := by
        rw [Context.answer_source wired, failing]
        rfl
      exact Context.filter_unanswered list refused
    · exact Context.filter_answered list answer

theorem ambient_law_wired :
    let q : Select := { dialect := .sqlite, table := ⟨"users", by decide⟩ }
    let adults : Fields Json := [("age", .object [("$gte", .integer 18)])]
    let document : Json := .object [("filters", .object adults), ("state", .string "open")]
    let ctx : Context := { registry := .builtin, source := some (.ofJson document) }
    let fault : FilterError := .malformed "filters" (.other "no input")
    let failing : Context := { registry := .builtin, source := some fun _ => .error fault }
    let call (ctx : Context) (available : Option (List String)) (given : Option Spec) :=
      Model.filter {} ⟨ctx, q, available, given⟩
    call ctx none none = call ctx none (some (.ofFields adults)) ∧
      (call (ctx.withKey "state") none none).2 =
        .error (.malformed "state" (.notFields .string)) ∧
      (call failing none none).2 = .error fault ∧
      (call failing (some ["$nope"]) none).2 =
        .error (.configuration (.notRegistered "$nope")) ∧
      (Context.setUp .builtin [.key "q", .settings { key := "where" },
        .source (.ofJson document)]).key = "where" := by
  intro q adults document ctx fault failing call
  obtain ⟨e, list⟩ : ∃ e, Enabled.only .builtin none = .ok e := ⟨_, rfl⟩
  obtain ⟨entry, -, -, -, -, -, key⟩ := ambient_law {} q none ctx
  obtain ⟨other, -⟩ := ambient_law {} q none (ctx.withKey "state")
  obtain ⟨-, -, -, -, -, accepted, -⟩ := ambient_law {} q none failing
  obtain ⟨-, -, -, -, refused, -⟩ := ambient_law {} q (some ["$nope"]) failing
  refine ⟨entry document, other document e list, (accepted e list).1 _ fault rfl rfl, ?_, ?_⟩
  · exact (refused _ rfl).2 failing.key failing.source none
  · rw [key]
    rfl

end QueryFilter
