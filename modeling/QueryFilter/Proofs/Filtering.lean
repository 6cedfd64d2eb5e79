import QueryFilter.Context
import QueryFilter.Proofs.Enabling
import QueryFilter.Proofs.Resolution

/-!
# Calls of the filter

How a call of the filter goes is told once, in the order in which it can fail: the list of allowed
operators, the source, the filters (`FilterRun`). `filter_run` says that a call goes so and in no
other way; what is said of calls elsewhere is read off the run.
-/

namespace QueryFilter
open Resolution

/-- The specification of a call: the one given, or what the source of the context answers. -/
def Context.answer (ctx : Context) : Option Spec → Except FilterError Spec
  | some spec => .ok spec
  | none => ctx.ambient

/-- The query with what was recorded, unless that ended in a rejection. -/
def Outcome.onto (q : Select) (o : Outcome) : Except FilterError Select :=
  match o.rejection with
  | some fault => .error fault
  | none => .ok (q.add o.clauses)

inductive FilterRun (ctx : Context) (allowed : Option (List String)) (q : Select)
    (given : Option Spec) : Except FilterError Select → Prop where
  | unlisted {fault : FilterError} (list : Enabled.only ctx.registry allowed = .error fault) :
      FilterRun ctx allowed q given (.error fault)
  | unanswered {e : Enabled} {fault : FilterError}
      (list : Enabled.only ctx.registry allowed = .ok e)
      (source : ctx.answer given = .error fault) : FilterRun ctx allowed q given (.error fault)
  | rejected {e : Enabled} {spec : Spec} {cs : List Clause} {fault : FilterError}
      (list : Enabled.only ctx.registry allowed = .ok e) (source : ctx.answer given = .ok spec)
      (run : SpecRun e spec cs (some fault)) : FilterRun ctx allowed q given (.error fault)
  | accepted {e : Enabled} {spec : Spec} {cs : List Clause}
      (list : Enabled.only ctx.registry allowed = .ok e) (source : ctx.answer given = .ok spec)
      (run : SpecRun e spec cs none) : FilterRun ctx allowed q given (.ok (q.add cs))

namespace Context

variable {ctx : Context} {allowed : Option (List String)} {q : Select} {given : Option Spec}
  {result : Except FilterError Select}

theorem filter_eq : ctx.filter allowed q given =
    Enabled.only ctx.registry allowed >>= fun e =>
      ctx.answer given >>= fun spec => (e.applyAll spec).onto q := by
  cases given <;> rfl

theorem filter_unlisted {fault : FilterError}
    (list : Enabled.only ctx.registry allowed = .error fault) :
    ctx.filter allowed q given = .error fault := by
  rw [filter_eq, list]
  rfl

section Listed

variable {e : Enabled} (list : Enabled.only ctx.registry allowed = .ok e)
include list

theorem filter_unanswered {fault : FilterError} (source : ctx.answer given = .error fault) :
    ctx.filter allowed q given = .error fault := by
  rw [filter_eq, list, source]
  rfl

theorem filter_answered {spec : Spec} (source : ctx.answer given = .ok spec) :
    ctx.filter allowed q given = (e.applyAll spec).onto q := by
  rw [filter_eq, list, source]
  rfl

end Listed

theorem filter_run :
    ctx.filter allowed q given = result ↔ FilterRun ctx allowed q given result := by
  constructor
  · rintro rfl
    cases list : Enabled.only ctx.registry allowed with
    | error fault =>
        rw [filter_unlisted list]
        exact .unlisted list
    | ok e =>
        cases source : ctx.answer given with
        | error fault =>
            rw [filter_unanswered list source]
            exact .unanswered list source
        | ok spec =>
            obtain ⟨cs, r, outcome⟩ : ∃ cs r, e.applyAll spec = ⟨cs, r⟩ := ⟨_, _, rfl⟩
            have run := (applyAll_run e spec cs r).1 outcome
            rw [filter_answered list source, outcome]
            cases r with
            | some fault => exact .rejected list source run
            | none => exact .accepted list source run
  · intro run
    cases run with
    | unlisted list => exact filter_unlisted list
    | unanswered list source => exact filter_unanswered list source
    | rejected list source run =>
        rw [filter_answered list source, (applyAll_run _ _ _ _).2 run]
        rfl
    | accepted list source run =>
        rw [filter_answered list source, (applyAll_run _ _ _ _).2 run]
        rfl

end Context
end QueryFilter
