import Mathlib.Data.List.Infix
import QueryFilter.Proofs.Independence
import QueryFilter.Proofs.Layout
import QueryFilter.Proofs.Recording
import QueryFilter.Proofs.Shapes

/-!
# Arrays among parameters

Expressions are read as scalars only (`parse_scalar`), and what the built-in operators record are
the values they are called with (`applyAll_scalar`). So arrays come from sets alone: a condition is
`Bindable` if an array stands in it as a set, and the conditions of clauses of scalars are
(`condition_bindable`). In the text for Postgres the place of a set is right behind a parenthesis,
and any other place behind a blank (`pieces_spaced`), so `takesSet_iff` finds sets in the text.
-/

namespace QueryFilter
open Placeholders

/-! ## Scalars recorded -/

def Clause.values : Clause → List Value
  | .compare _ _ value => [value]
  | .any _ _ values => values
  | .member _ values _ => values
  | .null _ _ => []
  | .between _ low high => [low, high]

theorem Operator.Records.values {column : String} {op : Operator} {values : List Value}
    {cs : List Clause} (records : Records column op values cs) :
    ∀ c ∈ cs, ∀ v ∈ c.values, v ∈ values := by
  have one {c : Clause} (own : ∀ v ∈ c.values, v ∈ values) :
      ∀ c' ∈ [c], ∀ v ∈ c'.values, v ∈ values := List.forall_mem_singleton.2 own
  cases records with
  | equal v => exact one fun _ member => member
  | equalAny several => exact one fun _ member => member
  | each own values =>
      refine List.forall_mem_map.2 fun x inValues v member => ?_
      cases List.mem_singleton.1 member
      exact inValues
  | isIn values => exact one fun _ member => member
  | notIn values => exact one fun _ member => member
  | between low high => exact one fun _ member => member
  | null flag => exact one nofun
  | notNull opposite =>
      cases opposite with
      | null flag => exact one nofun
      | each own values => cases own

theorem Operator.run_scalar (op : Operator) (column : String) {values : List Value}
    (scalars : ∀ v ∈ values, v.Scalar) :
    ∀ c ∈ (op.strategy.run column values).clauses, ∀ v ∈ c.values, v.Scalar := by
  change ∀ c ∈ (Outcome.ofExcept (op.clauses column values)).clauses, _
  cases op.clauses_settled column values with
  | recorded accepted made ok =>
      rw [ok]
      exact fun c member v value => scalars v (made.values c member v value)
  | refused rejected error =>
      rw [error]
      exact List.forall_mem_nil _

theorem Outcome.forall_inTurn {holds : Clause → Prop} {os : List Outcome}
    (each : ∀ o ∈ os, ∀ c ∈ o.clauses, holds c) : ∀ c ∈ (inTurn os).clauses, holds c := by
  induction os with
  | nil => exact List.forall_mem_nil _
  | cons o rest ih =>
      obtain ⟨first, others⟩ := List.forall_mem_cons.1 each
      rw [inTurn, andThen]
      split
      · exact first
      · exact List.forall_mem_append.2 ⟨first, ih others⟩

namespace Enabled

variable {e : Enabled}

theorem apply_scalar (builtin : e.Builtin) (field : String) (expression : Json) :
    ∀ c ∈ (e.apply field expression).clauses, ∀ v ∈ c.values, v.Scalar := by
  unfold apply
  split
  · exact List.forall_mem_nil _
  · rename_i found resolved
    obtain ⟨calls, shape, lookups⟩ := bind_eq_ok.1 resolved
    have scalars := OperatorCall.parse_scalar shape
    refine Outcome.forall_inTurn (List.forall_mem_map.2 (forall₂_forall ?_ (mapM_eq_ok.1 lookups)))
    intro call member f strategy
    unfold strategyFor at strategy
    split at strategy
    · rename_i s enabled
      cases strategy
      obtain ⟨op, rfl⟩ := builtin s (findStrategy_some enabled).1
      exact op.run_scalar call.column (scalars call member)
    · cases strategy

theorem applyAll_scalar (builtin : e.Builtin) (spec : Spec) :
    ∀ c ∈ (e.applyAll spec).clauses, ∀ v ∈ c.values, v.Scalar :=
  Outcome.forall_inTurn (List.forall_mem_map.2 fun f _ => apply_scalar builtin f.1 f.2)

end Enabled

/-! ## Sets -/

/-- Only a set is an array, of scalars and not empty. -/
def Condition.Bindable : Condition Value → Prop
  | .on _ (.inArray set _) =>
    ∃ items, set = .array items ∧ items ≠ [] ∧ ∀ v ∈ items, v.Scalar
  | c => ∀ v ∈ c.operands, v.Scalar

theorem Clause.condition_bindable {c : Clause} (scalars : ∀ v ∈ c.values, v.Scalar) (d : Dialect) :
    (c.condition d).Bindable := by
  have compared {op : Comparison} {v : Value} (scalar : v.Scalar) :
      ∀ w ∈ (d.test op v).operands, w.Scalar := by
    rw [test_operands]
    unfold Placeholders.compared
    split
    · exact List.forall_mem_nil _
    · exact List.forall_mem_nil _
    · exact List.forall_mem_singleton.2 scalar
  unfold Clause.condition
  split
  · cases c with
    | compare name op value => exact compared (scalars value List.mem_cons_self)
    | any name op values =>
        cases values with
        | nil => exact List.forall_mem_nil _
        | cons v rest =>
            cases rest with
            | nil => exact compared (scalars v List.mem_cons_self)
            | cons w rest =>
                change ∀ x ∈ ((v :: w :: rest).map (d.test op)).flatMap Test.operands, x.Scalar
                intro x member
                obtain ⟨t, inTests, inTest⟩ := List.mem_flatMap.1 member
                obtain ⟨y, inValues, rfl⟩ := List.mem_map.1 inTests
                exact compared (scalars y inValues) x inTest
    | member name values negated =>
        cases values with
        | nil => cases negated <;> exact List.forall_mem_nil _
        | cons v rest =>
            cases d with
            | postgres => exact ⟨_, rfl, List.cons_ne_nil v rest, scalars⟩
            | sqlite => exact scalars
    | null name negated => exact List.forall_mem_nil _
    | between name low high => exact scalars
  · exact List.forall_mem_nil _

/-! ## Places of sets -/

def Piece.Spaced (p : Piece Nat) : Prop := p.place.isSome → p.word.toList.getLast? = some ' '

theorem Piece.spaced (front : String) {word : String} (ends : word.toList.getLast? = some ' ')
    (place : Option Nat) : Piece.Spaced ⟨front ++ word, place⟩ := by
  intro _
  rw [String.toList_append, List.getLast?_append, ends]
  rfl

theorem Test.pieces_spaced (column : String) (t : Test Nat) :
    ∀ p ∈ t.pieces column, p.Spaced := by
  have openEnd : Piece.Spaced ⟨" || '%'", none⟩ := nofun
  cases t with
  | null negated => cases negated <;> exact List.forall_mem_singleton.2 nofun
  | compare op k =>
      have symbol : Piece.Spaced ⟨column ++ (" " ++ op.symbol ++ " "), some k⟩ :=
        Piece.spaced column (Piece.spaced (" " ++ op.symbol) (by decide) (some k) rfl) (some k)
      cases op with
      | startsWith =>
          exact List.forall_mem_cons.2
            ⟨Piece.spaced _ (by decide) _, List.forall_mem_singleton.2 openEnd⟩
      | endsWith => exact List.forall_mem_singleton.2 (Piece.spaced _ (by decide) _)
      | contains =>
          exact List.forall_mem_cons.2
            ⟨Piece.spaced _ (by decide) _, List.forall_mem_singleton.2 openEnd⟩
      | _ => exact List.forall_mem_singleton.2 symbol

/-- Only a set stands right behind a parenthesis. -/
theorem Condition.pieces_spaced {c : Condition Nat} (fits : c.Fits .postgres) :
    (∃ column k negated, c = .on column (.inArray k negated)) ∨ ∀ p ∈ c.pieces, p.Spaced := by
  cases c with
  | noRows => exact .inr (List.forall_mem_singleton.2 nofun)
  | allRows => exact .inr (List.forall_mem_singleton.2 nofun)
  | on column predicate =>
      cases predicate with
      | test t => exact .inr (t.pieces_spaced column.text)
      | anyOf t u rest =>
          have tests : ∀ row ∈ (t :: u :: rest).map (Test.pieces column.text),
              ∀ p ∈ row, p.Spaced :=
            List.forall_mem_map.2 fun v _ => v.pieces_spaced column.text
          exact .inr (List.forall_mem_append.2
            ⟨List.forall_mem_cons.2 ⟨nofun, forall_mem_separated nofun tests⟩,
              List.forall_mem_singleton.2 nofun⟩)
      | between low high =>
          have and : " AND ".toList.getLast? = some ' ' := by decide
          exact .inr (List.forall_mem_cons.2 ⟨Piece.spaced _ (by decide) _,
            List.forall_mem_singleton.2 fun _ => and⟩)
      | inArray set negated => exact .inl ⟨column, set, negated, rfl⟩
      | inList members negated => cases fits.1

/-- The text has placeholder `k` where Postgres takes a set. -/
def TakesSet (sql : String) (k : Nat) : Prop :=
  ("= ANY(" ++ Dialect.postgres.placeholder k ++ ")").toList <:+: sql.toList ∨
    ("!= ALL(" ++ Dialect.postgres.placeholder k ++ ")").toList <:+: sql.toList

namespace Select

theorem infix_wherePieces {cs : List (Condition Nat)} {c : Condition Nat} (member : c ∈ cs) :
    c.pieces <:+: wherePieces cs := by
  cases cs with
  | nil => cases member
  | cons first rest =>
      exact (infix_separated (List.mem_map_of_mem member)).trans (List.suffix_cons _ _).isInfix

theorem forall_mem_wherePieces {cs : List (Condition Nat)} {holds : Piece Nat → Prop}
    (own : ∀ word, holds ⟨word, none⟩) (each : ∀ c ∈ cs, ∀ p ∈ c.pieces, holds p) :
    ∀ p ∈ wherePieces cs, holds p := by
  cases cs with
  | nil => exact List.forall_mem_nil _
  | cons first rest =>
      exact List.forall_mem_cons.2
        ⟨own _, forall_mem_separated (own _) (List.forall_mem_map.2 each)⟩

variable {q : Select}

theorem pieces_spaced (postgres : q.dialect = .postgres) : ∀ p ∈ q.pieces, p.Spaced ∨
    ∃ column k negated, p.place = some k ∧
      .on column (.inArray k negated) ∈ numbered q.conditions 1 := by
  refine List.forall_mem_cons.2 ⟨.inl nofun, forall_mem_wherePieces (fun _ => .inl nofun) ?_⟩
  intro c member
  have fits := numbered_fits q.dialect q.clauses 1 c member
  rw [postgres] at fits
  rcases Condition.pieces_spaced fits with ⟨column, k, negated, rfl⟩ | spaced
  · cases negated <;>
      exact List.forall_mem_cons.2
        ⟨.inr ⟨column, k, _, rfl, member⟩, List.forall_mem_singleton.2 (.inl nofun)⟩
  · exact fun p inPieces => .inl (spaced p inPieces)

/-- A placeholder right behind a parenthesis is that of a set. -/
theorem set_of_parenthesis (postgres : q.dialect = .postgres) (before behind : List Char) (k : Nat)
    (text : q.build.sql.toList = before ++ '$' :: (Nat.toDigits 10 k ++ ')' :: behind))
    (parenthesis : before.getLast? = some '(') :
    ∃ column negated, .on column (.inArray k negated) ∈ numbered q.conditions 1 := by
  have mark : '$' = q.dialect.mark := by rw [postgres]; rfl
  rw [build_chars, mark] at text
  obtain ⟨front, word, j, rest, pieces, rfl, numbers, closed⟩ := exists_place q.pieces_readable text
  have ends : ∀ c ∈ (')' :: behind).head?, c.isDigit = false := by
    rintro c ⟨⟩
    rfl
  -- Both numbers are the longest run of digits behind the mark.
  have same : k = j := by
    have digits := congrArg (List.takeWhile Char.isDigit) numbers
    rw [(digits_closed k ends).1, (digits_closed j closed).1] at digits
    have values := congrArg (Nat.ofDigitChars 10 · 0) digits
    rwa [Nat.ofDigitChars_ten_toDigits, Nat.ofDigitChars_ten_toDigits] at values
  have member : ⟨word, some j⟩ ∈ q.pieces := by
    rw [pieces]
    exact List.mem_append_right front List.mem_cons_self
  rcases pieces_spaced postgres _ member with spaced | ⟨column, i, negated, place, set⟩
  · rw [List.getLast?_append, spaced rfl] at parenthesis
    cases parenthesis
  · cases place
    exact ⟨column, negated, same ▸ set⟩

theorem takesSet_iff (postgres : q.dialect = .postgres) (k : Nat) : TakesSet q.build.sql k ↔
    ∃ column negated, .on column (.inArray k negated) ∈ numbered q.conditions 1 := by
  constructor
  · rintro (⟨before, behind, text⟩ | ⟨before, behind, text⟩)
    · apply set_of_parenthesis postgres (before ++ "= ANY(".toList) behind
      · rw [← text]
        simp [Dialect.placeholder, Dialect.mark]
      · simp
    · apply set_of_parenthesis postgres (before ++ "!= ALL(".toList) behind
      · rw [← text]
        simp [Dialect.placeholder, Dialect.mark]
      · simp
  · rintro ⟨column, negated, member⟩
    have infix_pieces : Condition.pieces (.on column (.inArray k negated)) <:+: q.pieces :=
      (infix_wherePieces member).trans (List.suffix_cons _ _).isInfix
    have text := List.IsInfix.flatMap infix_pieces (Piece.chars q.dialect)
    change _ <:+: layoutChars q.dialect q.pieces at text
    rw [← build_chars, postgres] at text
    have inside {word sign : String} (blank : word.toList = ' ' :: sign.toList)
        (text : layoutChars .postgres [⟨column.text ++ word, some k⟩, ⟨")", none⟩] <:+:
          q.build.sql.toList) :
        (sign ++ Dialect.postgres.placeholder k ++ ")").toList <:+: q.build.sql.toList := by
      have front : layoutChars .postgres [⟨column.text ++ word, some k⟩, ⟨")", none⟩] =
          (column.text.toList ++ [' ']) ++
            (sign ++ Dialect.postgres.placeholder k ++ ")").toList := by
        simp [blank, Dialect.placeholder]
      rw [front] at text
      exact (List.suffix_append _ _).isInfix.trans text
    cases negated with
    | false => exact .inl (inside (by decide) text)
    | true => exact .inr (inside (by decide) text)

end Select

/-! ## Parameters -/

theorem Condition.Bindable.operand {c : Condition Nat} {f : Nat → Value} {k : Nat}
    (bindable : (c.map f).Bindable) (member : k ∈ c.operands) :
    (f k).Scalar ∨ ∃ column negated, c = .on column (.inArray k negated) := by
  have value : f k ∈ (c.map f).operands := by
    rw [c.map_operands]
    exact List.mem_map_of_mem member
  cases c with
  | noRows => cases member
  | allRows => cases member
  | on column predicate =>
      cases predicate with
      | inArray set negated =>
          cases List.mem_singleton.1 member
          exact .inr ⟨column, negated, rfl⟩
      | _ => exact .inl (bindable _ value)

theorem Condition.Bindable.scalar {c : Condition Value} (bindable : c.Bindable)
    (fits : c.Fits .sqlite) : ∀ v ∈ c.operands, v.Scalar := by
  cases c with
  | noRows => exact bindable
  | allRows => exact bindable
  | on column predicate =>
      cases predicate with
      | inArray set negated => cases fits
      | _ => exact bindable

namespace Select

variable {q : Select} (scalars : ∀ c ∈ q.clauses, ∀ v ∈ c.values, v.Scalar)

include scalars

theorem conditions_bindable : ∀ c ∈ q.conditions, c.Bindable :=
  List.forall_mem_map.2 fun c member => Clause.condition_bindable (scalars c member) q.dialect

theorem numbered_bindable {c : Condition Nat} (member : c ∈ numbered q.conditions 1) :
    (c.map (valueAt q.build.params)).Bindable := by
  have params : q.build.params = q.conditions.flatMap Condition.operands := by rw [build_eq]
  have filled := List.mem_map_of_mem (f := Condition.map (valueAt q.build.params)) member
  rw [params, numbered_map] at filled
  rw [params]
  exact conditions_bindable scalars _ filled

theorem params_scalar (sqlite : q.dialect = .sqlite) : ∀ v ∈ q.build.params, v.Scalar := by
  rw [build_eq]
  intro v member
  obtain ⟨c, inConditions, inOperands⟩ := List.mem_flatMap.1 member
  have fits : c.Fits .sqlite := by
    obtain ⟨clause, -, rfl⟩ := List.mem_map.1 inConditions
    rw [sqlite]
    exact clause.condition_fits .sqlite
  exact (conditions_bindable scalars c inConditions).scalar fits v inOperands

theorem params_set (postgres : q.dialect = .postgres) {i : Nat} {v : Value}
    (param : q.build.params[i]? = some v) :
    ((∃ items, v = .array items) ↔ TakesSet q.build.sql (i + 1)) ∧
      ∀ items, v = .array items → items ≠ [] ∧ ∀ x ∈ items, x.Scalar := by
  have value : valueAt q.build.params (i + 1) = v := by
    rw [valueAt, List.getD_eq_getElem?_getD, Nat.add_sub_cancel, param, Option.getD_some]
  have numbers : (numbered q.conditions 1).flatMap Condition.operands =
      List.range' 1 q.build.params.length := by
    rw [numbered_operands, build_eq]
  -- The numbers are those from one on, so the parameter has its place in one of the conditions.
  obtain ⟨c, member, place⟩ : ∃ c ∈ numbered q.conditions 1, i + 1 ∈ c.operands := by
    have inside := (List.getElem?_eq_some_iff.1 param).1
    rw [← List.mem_flatMap, numbers, List.mem_range'_1]
    omega
  have set {column : Identifier} {negated : Bool}
      (member : .on column (.inArray (i + 1) negated) ∈ numbered q.conditions 1) :
      ∃ items, v = .array items ∧ items ≠ [] ∧ ∀ x ∈ items, x.Scalar := by
    rw [← value]
    exact numbered_bindable scalars member
  have taken : (∃ items, v = .array items) →
      ∃ column negated, .on column (.inArray (i + 1) negated) ∈ numbered q.conditions 1 := by
    rintro ⟨items, rfl⟩
    rcases (numbered_bindable scalars member).operand place with scalar | ⟨column, negated, rfl⟩
    · rw [value] at scalar
      exact absurd rfl scalar
    · exact ⟨column, negated, member⟩
  refine ⟨?_, ?_⟩
  · rw [takesSet_iff postgres]
    refine ⟨taken, ?_⟩
    rintro ⟨column, negated, member⟩
    obtain ⟨items, array, -⟩ := set member
    exact ⟨items, array⟩
  · rintro items rfl
    obtain ⟨column, negated, member⟩ := taken ⟨items, rfl⟩
    obtain ⟨items', same, holds⟩ := set member
    cases same
    exact holds

end Select

namespace Enabled

/-- Whether or not a specification is accepted, what the built-in operators record are scalars. A
parameter is an array only in a dialect that binds sets whole, and there if and only if it stands
for a set; it holds scalars, and at least one. -/
theorem arrays_law {e : Enabled} (builtin : e.Builtin) (spec : Spec) (q : Select)
    (fresh : q.clauses = []) :
    let r := q.add (e.applyAll spec).clauses
    (∀ c ∈ r.clauses, ∀ v ∈ c.values, v.Scalar) ∧
    (r.dialect = .sqlite → ∀ v ∈ r.build.params, v.Scalar) ∧
    (r.dialect = .postgres → ∀ i v, r.build.params[i]? = some v →
      ((∃ items, v = .array items) ↔ TakesSet r.build.sql (i + 1)) ∧
        ∀ items, v = .array items → items ≠ [] ∧ ∀ x ∈ items, x.Scalar) := by
  intro r
  have scalars : ∀ c ∈ r.clauses, ∀ v ∈ c.values, v.Scalar := by
    change ∀ c ∈ q.clauses ++ _, _
    rw [fresh]
    exact applyAll_scalar builtin spec
  exact ⟨scalars, Select.params_scalar scalars,
    fun postgres _ _ => Select.params_set scalars postgres⟩

/-- Two sets with a name between them; the last field is refused. -/
def sets : Spec :=
  .ofFields [("id", .object [("$in", .array [.integer 4, .integer 7])]), ("name", .string "a"),
    ("state", .object [("$nin", .array [.null])]),
    ("age", .object [("$between", .array [.integer 1])])]

theorem arrays_law_sets :
    let e : Enabled := ⟨Registry.builtin.strategies⟩
    let q : Select := { dialect := .postgres, table := ⟨"users", by decide⟩ }
    let r := q.add (e.applyAll sets).clauses
    (e.applyAll sets).rejection = some (.malformed "age" (.notPair .between 1)) ∧
      TakesSet r.build.sql 1 ∧ ¬ TakesSet r.build.sql 2 ∧ TakesSet r.build.sql 3 := by
  intro e q r
  have params : r.build.params = [.array [.int 4, .int 7], .string "a", .array [.null]] := by
    decide
  obtain ⟨-, -, place⟩ := arrays_law builtin_strategies sets q rfl
  refine ⟨by decide, (place rfl 0 (.array [.int 4, .int 7]) ?_).1.1 ⟨_, rfl⟩, ?_,
    (place rfl 2 (.array [.null]) ?_).1.1 ⟨_, rfl⟩⟩
  · exact congrArg (·[0]?) params
  · intro taken
    obtain ⟨items, array⟩ := (place rfl 1 (.string "a") (congrArg (·[1]?) params)).1.2 taken
    cases array
  · exact congrArg (·[2]?) params

end Enabled
end QueryFilter
