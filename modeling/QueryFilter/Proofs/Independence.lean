import QueryFilter.Proofs.Expressions
import QueryFilter.Proofs.Forms
import QueryFilter.Proofs.Resolution

/-!
# Independence of operands

Two specifications are `Alike` if they have the same fields, operators and list lengths, and leaves
of one sort in each place; a flag of a null test is the same in both. `applyAll_text` says that the
built-in operators then accept or refuse both alike, and that the statements have one text. The
relation is followed through reading, lookup and recording, where `Related` outcomes are results
that are related, or one and the same fault.
-/

namespace QueryFilter

/-! ## Alike specifications -/

/-- The sorts of documents that an operand may be. -/
inductive Json.Leaf where
  | null
  | boolean
  | integer
  /-- An integer outside the signed 64-bit range. -/
  | wideInteger
  | float
  | string
  | array
  | object
  deriving DecidableEq

def Json.leaf : Json → Leaf
  | .null => .null
  | .bool _ => .boolean
  | .integer n => if -Int.pow 2 63 ≤ n ∧ n < Int.pow 2 63 then .integer else .wideInteger
  | .float _ => .float
  | .string _ => .string
  | .array _ => .array
  | .object _ => .object

/-- The operators whose operand is a flag. -/
def TakesFlag (token : String) : Prop :=
  token = Operator.null.token ∨ token = Operator.notNull.token

structure Json.LeafAlike (token : String) (a b : Json) : Prop where
  leaf : a.leaf = b.leaf
  flag : TakesFlag token → a.leaf = .boolean → a = b

inductive Json.OperandAlike (token : String) : Json → Json → Prop where
  | list {xs ys : List Json} (members : List.Forall₂ (LeafAlike token) xs ys) :
      OperandAlike token (.array xs) (.array ys)
  | single {a b : Json} (alike : LeafAlike token a b) (unlisted : a.kind ≠ .array) :
      OperandAlike token a b

inductive Json.ExpressionAlike : Json → Json → Prop where
  | operators {es fs : List (String × Json)}
      (entries : List.Forall₂ (fun e f => e.1 = f.1 ∧ OperandAlike e.1 e.2 f.2) es fs) :
      ExpressionAlike (.object es) (.object fs)
  | operand {a b : Json} (alike : OperandAlike Operator.eq.token a b) (bare : a.kind ≠ .object) :
      ExpressionAlike a b

def Spec.Alike (s t : Spec) : Prop :=
  List.Forall₂ (fun f g => f.1 = g.1 ∧ f.2.ExpressionAlike g.2) s.fields t.fields

/-! ## Related results -/

section Results

variable {α β γ δ : Type}

inductive Related (R : α → β → Prop) : Except FilterError α → Except FilterError β → Prop where
  | ok {a : α} {b : β} (related : R a b) : Related R (.ok a) (.ok b)
  | error (fault : FilterError) : Related R (.error fault) (.error fault)

variable {R : α → β → Prop} {S : γ → δ → Prop}

theorem Related.bind {x : Except FilterError α} {y : Except FilterError β}
    {f : α → Except FilterError γ} {g : β → Except FilterError δ} (related : Related R x y)
    (next : ∀ a b, R a b → Related S (f a) (g b)) : Related S (x >>= f) (y >>= g) := by
  cases related with
  | ok related => exact next _ _ related
  | error fault => exact .error fault

theorem Related.mapM {f : α → Except FilterError γ} {g : β → Except FilterError δ} {xs : List α}
    {ys : List β} (each : List.Forall₂ (fun x y => Related S (f x) (g y)) xs ys) :
    Related (List.Forall₂ S) (xs.mapM f) (ys.mapM g) := by
  induction each with
  | nil => exact .ok .nil
  | cons first others ih =>
      rw [List.mapM_cons, List.mapM_cons]
      exact first.bind fun _ _ head => ih.bind fun _ _ tail => .ok (.cons head tail)

end Results

/-! ## Reading -/

def Json.Leaf.kind : Leaf → Kind
  | .null => .null
  | .boolean => .boolean
  | .integer => .number
  | .wideInteger => .number
  | .float => .number
  | .string => .string
  | .array => .array
  | .object => .object

def Json.Leaf.form? : Leaf → Option (Value.Kind × List Value.Kind)
  | .null => some (.null, [])
  | .boolean => some (.bool, [])
  | .integer => some (.int, [])
  | .wideInteger => none
  | .float => some (.float, [])
  | .string => some (.string, [])
  | .array => none
  | .object => none

theorem Json.leaf_integer (n : Int) : (integer n).leaf =
    if -Int.pow 2 63 ≤ n ∧ n < Int.pow 2 63 then .integer else .wideInteger := rfl

theorem Json.leaf_kind (a : Json) : a.leaf.kind = a.kind := by
  cases a with
  | integer n =>
      rw [leaf_integer]
      split <;> rfl
  | _ => rfl

theorem Json.leaf_form? (a : Json) : (Value.ofJson? a).map Value.form = a.leaf.form? := by
  cases a with
  | integer n =>
      change (Value.ofInt? n).map Value.form = _
      unfold Value.ofInt?
      rw [leaf_integer]
      split <;> rfl
  | _ => rfl

theorem Json.LeafAlike.kind {token : String} {a b : Json} (alike : a.LeafAlike token b) :
    a.kind = b.kind := by
  rw [← leaf_kind, ← leaf_kind, alike.leaf]

theorem Json.OperandAlike.kind {token : String} {a b : Json} (alike : a.OperandAlike token b) :
    a.kind = b.kind := by
  cases alike with
  | list members => rfl
  | single alike unlisted => exact alike.kind

/-- Operands of one form; the flags of a null test are the same. -/
structure Value.Alike (token : String) (v w : Value) : Prop where
  form : v.form = w.form
  flag : TakesFlag token → v.kind = .bool → v = w

theorem Json.leaf_of_bool {a : Json} {v : Value} (value : Value.ofJson? a = some v)
    (kind : v.kind = .bool) : a.leaf = .boolean := by
  cases a with
  | bool b => rfl
  | integer n =>
      change Value.ofInt? n = some v at value
      unfold Value.ofInt? at value
      split at value <;> cases value
      cases kind
  | _ => cases value <;> cases kind

structure OperatorCall.Alike (c c' : OperatorCall) : Prop where
  column : c.column = c'.column
  token : c.token = c'.token
  values : List.Forall₂ (Value.Alike c.token) c.values c'.values

namespace OperatorCall

variable {a b : Json}

theorem scalar_alike (field token : String) (alike : a.LeafAlike token b) :
    Related (Value.Alike token) (scalar field token a) (scalar field token b) := by
  have forms : (Value.ofJson? a).map Value.form = (Value.ofJson? b).map Value.form := by
    rw [Json.leaf_form?, Json.leaf_form?, alike.leaf]
  unfold scalar
  cases left : Value.ofJson? a with
  | none =>
      cases right : Value.ofJson? b with
      | none =>
          rw [alike.kind]
          exact .error _
      | some w => rw [left, right] at forms; cases forms
  | some v =>
      cases right : Value.ofJson? b with
      | none => rw [left, right] at forms; cases forms
      | some w =>
          rw [left, right] at forms
          refine .ok ⟨Option.some.inj forms, fun flag bool => ?_⟩
          have same := alike.flag flag (Json.leaf_of_bool left bool)
          rw [same, right] at left
          exact (Option.some.inj left).symm

theorem operands_alike (field token : String) (alike : a.OperandAlike token b) :
    Related (List.Forall₂ (Value.Alike token)) (operands field token a)
      (operands field token b) := by
  cases alike with
  | list members => exact .mapM (members.imp fun _ _ alike => scalar_alike field token alike)
  | single alike unlisted =>
      rw [operands_single unlisted, operands_single (alike.kind ▸ unlisted)]
      exact (scalar_alike field token alike).bind fun _ _ value => .ok (.cons value .nil)

theorem ofEntry_alike (field : String) {e f : String × Json} (key : e.1 = f.1)
    (alike : e.2.OperandAlike e.1 f.2) : Related Alike (ofEntry field e) (ofEntry field f) := by
  obtain ⟨token, a⟩ := e
  obtain ⟨_, b⟩ := f
  cases key
  unfold ofEntry
  split
  · exact (operands_alike field token alike).bind fun _ _ values => .ok ⟨rfl, rfl, values⟩
  · exact .error _

theorem parse_alike (field : String) (alike : a.ExpressionAlike b) :
    Related (List.Forall₂ Alike) (parse field a) (parse field b) := by
  cases alike with
  | @operators es fs entries =>
      rw [parse_entries, parse_entries]
      by_cases unnamed : field = ""
      · rw [if_pos unnamed, if_pos unnamed]
        exact .error _
      · rw [if_neg unnamed, if_neg unnamed]
        cases entries with
        | nil => exact .error _
        | cons first others =>
            exact .mapM (.cons (ofEntry_alike field first.1 first.2)
              (others.imp fun _ _ entry => ofEntry_alike field entry.1 entry.2))
  | operand alike bare =>
      rw [parse_bare bare, parse_bare (alike.kind ▸ bare)]
      split
      · exact .error _
      · exact (operands_alike field _ alike).bind fun _ _ values =>
          .ok (.cons ⟨rfl, rfl, values⟩ .nil)

end OperatorCall

/-! ## Recording -/

namespace Operator

variable {vs ws : List Value}

theorem each_alike (op : Operator) (cmp : Comparison) (column : String)
    (forms : vs.map Value.form = ws.map Value.form) :
    Related (List.Forall₂ Clause.Alike) (op.each cmp column vs) (op.each cmp column ws) := by
  unfold each
  simp only [Value.nil_of_forms forms]
  split
  · exact .error _
  · exact .ok (List.rel_map (fun _ _ form => Clause.Alike.compare column cmp form)
      (Value.forms_iff.1 forms))

theorem eachOrdered_alike (op : Operator) (cmp : Comparison) (column : String)
    (forms : vs.map Value.form = ws.map Value.form) :
    Related (List.Forall₂ Clause.Alike) (op.eachOrdered cmp column vs)
      (op.eachOrdered cmp column ws) := by
  have of_kinds : ∀ xs : List Value,
      xs.any Value.isNull = (xs.map Value.kind).any (· == .null) := by
    intro xs
    rw [List.any_map]
    congr 1
    funext v
    cases v <;> rfl
  unfold eachOrdered
  rw [of_kinds, of_kinds, Value.kinds_of_forms forms]
  split
  · exact .error _
  · exact op.each_alike cmp column forms

theorem eachPattern_alike (op : Operator) (cmp : Comparison) (column : String)
    (forms : vs.map Value.form = ws.map Value.form) :
    Related (List.Forall₂ Clause.Alike) (op.eachPattern cmp column vs)
      (op.eachPattern cmp column ws) := by
  have of_kinds : ∀ xs : List Value, (xs.find? fun v => !v.isString).map Value.kind =
      (xs.map Value.kind).find? (· != .string) := by
    intro xs
    rw [List.find?_map]
    congr 2
    funext v
    cases v <;> rfl
  have kinds : (vs.find? fun v => !v.isString).map Value.kind =
      (ws.find? fun v => !v.isString).map Value.kind := by
    rw [of_kinds, of_kinds, Value.kinds_of_forms forms]
  unfold eachPattern
  cases left : vs.find? fun v => !v.isString with
  | none =>
      rw [left] at kinds
      rw [Option.map_eq_none_iff.1 kinds.symm]
      exact op.each_alike cmp column forms
  | some v =>
      rw [left] at kinds
      obtain ⟨w, right, kind⟩ := Option.map_eq_some_iff.1 kinds.symm
      rw [right]
      change Related _ (refuse column (.notString op v.kind)) (refuse column (.notString op w.kind))
      rw [kind]
      exact .error _

theorem set_alike (op : Operator) (column : String) (negated : Bool)
    (forms : vs.map Value.form = ws.map Value.form) :
    Related (List.Forall₂ Clause.Alike) (op.set column vs negated) (op.set column ws negated) := by
  unfold set
  simp only [Value.nil_of_forms forms]
  split
  · exact .error _
  · exact .ok (.cons (.member column negated forms) .nil)

theorem nullTest_refused (op : Operator) (column : String) (opposite : Bool)
    (other : ∀ flag, vs ≠ [.bool flag]) :
    op.nullTest column vs opposite = refuse column (.notFlag op) := by
  unfold nullTest
  split
  · exact absurd rfl (other _)
  · rfl

theorem nullTest_alike (op : Operator) (column : String) (opposite : Bool) {token : String}
    (flag : TakesFlag token) (alike : List.Forall₂ (Value.Alike token) vs ws) :
    Related (List.Forall₂ Clause.Alike) (op.nullTest column vs opposite)
      (op.nullTest column ws opposite) := by
  -- A flag is the one operand whose value shows: it decides which of the two tests is written.
  by_cases one : ∃ b, vs = [.bool b]
  · obtain ⟨b, rfl⟩ := one
    obtain ⟨w, rest, first, none, rfl⟩ := List.forall₂_cons_left_iff.1 alike
    cases none
    cases first.flag flag rfl
    exact .ok (.cons (.null column _) .nil)
  · have other : ∀ b, ws ≠ [.bool b] := by
      rintro b rfl
      obtain ⟨v, rest, first, none, rfl⟩ := List.forall₂_cons_right_iff.1 alike
      cases none
      have bool : v.kind = .bool := Value.kind_of_form first.form
      exact one ⟨b, by rw [first.flag flag bool]⟩
    rw [nullTest_refused op column opposite (not_exists.1 one),
      nullTest_refused op column opposite other]
    exact .error _

theorem clauses_alike (op : Operator) (column : String)
    (alike : List.Forall₂ (Value.Alike op.token) vs ws) :
    Related (List.Forall₂ Clause.Alike) (op.clauses column vs) (op.clauses column ws) := by
  have forms := Value.forms_iff.2 (alike.imp fun _ _ value => value.form)
  cases op with
  | eq =>
      cases alike with
      | nil => exact .error _
      | cons first others =>
          cases others with
          | nil => exact .ok (.cons (.compare column .eq first.form) .nil)
          | cons second others => exact .ok (.cons (.any column .eq forms) .nil)
  | ne => exact each_alike _ _ column forms
  | gt => exact eachOrdered_alike _ _ column forms
  | gte => exact eachOrdered_alike _ _ column forms
  | lt => exact eachOrdered_alike _ _ column forms
  | lte => exact eachOrdered_alike _ _ column forms
  | isIn => exact set_alike _ column _ forms
  | notIn => exact set_alike _ column _ forms
  | like => exact eachPattern_alike _ _ column forms
  | ilike => exact eachPattern_alike _ _ column forms
  | startsWith => exact eachPattern_alike _ _ column forms
  | endsWith => exact eachPattern_alike _ _ column forms
  | contains => exact eachPattern_alike _ _ column forms
  | between =>
      have length : vs.length = ws.length := alike.length_eq
      match vs, ws, alike with
      | [_, _], [_, _], .cons low (.cons high .nil) =>
          exact .ok (.cons (.between column low.form high.form) .nil)
      | [], [], _ => exact .error _
      | [_], [_], _ => exact .error _
      | _ :: _ :: _ :: _, _ :: _ :: _ :: _, _ =>
          change Related _ (refuse column (.notPair .between _))
            (refuse column (.notPair .between _))
          rw [length]
          exact .error _
  | null => exact nullTest_alike _ column _ (.inl rfl) alike
  | notNull => exact nullTest_alike _ column _ (.inr rfl) alike

end Operator

/-! ## Resolving -/

structure Outcome.Alike (x y : Outcome) : Prop where
  clauses : List.Forall₂ Clause.Alike x.clauses y.clauses
  rejection : x.rejection = y.rejection

theorem Outcome.ofExcept_alike {x y : Except FilterError (List Clause)}
    (related : Related (List.Forall₂ Clause.Alike) x y) : (ofExcept x).Alike (ofExcept y) := by
  cases related with
  | ok clauses => exact ⟨clauses, rfl⟩
  | error fault => exact ⟨.nil, rfl⟩

theorem Outcome.inTurn_alike {xs ys : List Outcome} (each : List.Forall₂ Alike xs ys) :
    (inTurn xs).Alike (inTurn ys) := by
  induction each with
  | nil => exact ⟨.nil, rfl⟩
  | @cons x y xs ys first others ih =>
      obtain ⟨cs, r⟩ := x
      obtain ⟨ds, s⟩ := y
      obtain ⟨clauses, same⟩ := first
      cases same
      cases r with
      | some fault => exact ⟨clauses, rfl⟩
      | none => exact ⟨List.rel_append clauses ih.clauses, ih.rejection⟩

namespace Enabled

def Builtin (e : Enabled) : Prop := ∀ s ∈ e.strategies, ∃ op : Operator, s = op.strategy

theorem builtin_strategies : Builtin ⟨Registry.builtin.strategies⟩ := by
  intro s member
  obtain ⟨op, -, rfl⟩ := List.mem_map.1 member
  exact ⟨op, rfl⟩

theorem strategyFor_alike (e : Enabled) (field : String) {c c' : OperatorCall}
    (alike : c.Alike c') : Related (fun f f' => f.1 = f'.1 ∧ e.get? f.2.token = some f.1 ∧
      f.2.Alike f'.2) (e.strategyFor field c) (e.strategyFor field c') := by
  unfold strategyFor
  rw [← alike.token]
  cases found : e.get? c.token with
  | none => exact .error _
  | some s => exact .ok ⟨rfl, found, alike⟩

theorem run_alike {e : Enabled} (builtin : e.Builtin) {s : Strategy} {c c' : OperatorCall}
    (found : e.get? c.token = some s) (alike : c.Alike c') :
    (s.run c.column c.values).Alike (s.run c'.column c'.values) := by
  obtain ⟨member, token⟩ := findStrategy_some found
  obtain ⟨op, rfl⟩ := builtin s member
  rw [← alike.column]
  have values := alike.values
  rw [← token] at values
  exact Outcome.ofExcept_alike (op.clauses_alike c.column values)

theorem apply_alike {e : Enabled} (builtin : e.Builtin) (field : String) {a b : Json}
    (alike : a.ExpressionAlike b) : (e.apply field a).Alike (e.apply field b) := by
  have resolved : Related (List.Forall₂ fun f f' => f.1 = f'.1 ∧ e.get? f.2.token = some f.1 ∧
      f.2.Alike f'.2) (e.resolve field a) (e.resolve field b) :=
    (OperatorCall.parse_alike field alike).bind fun _ _ calls =>
      .mapM (calls.imp fun _ _ call => e.strategyFor_alike field call)
  unfold apply
  generalize e.resolve field a = x at resolved ⊢
  generalize e.resolve field b = y at resolved ⊢
  cases resolved with
  | error fault => exact ⟨.nil, rfl⟩
  | ok calls =>
      refine Outcome.inTurn_alike (List.rel_map ?_ calls)
      rintro ⟨s, c⟩ ⟨s', c'⟩ ⟨same, found, alike⟩
      cases same
      exact run_alike builtin found alike

/-- What values a filter compares with does not show in the text of the statement, nor in whether
the filter is accepted, or why it is not. -/
theorem applyAll_text {e : Enabled} (builtin : e.Builtin) (q : Select) {s t : Spec}
    (alike : s.Alike t) :
    (e.applyAll s).rejection = (e.applyAll t).rejection ∧
      (q.add (e.applyAll s).clauses).build.sql = (q.add (e.applyAll t).clauses).build.sql ∧
      (q.add (e.applyAll s).clauses).build.params.map Value.form =
        (q.add (e.applyAll t).clauses).build.params.map Value.form := by
  have outcomes : (e.applyAll s).Alike (e.applyAll t) := by
    refine Outcome.inTurn_alike (List.rel_map ?_ alike)
    rintro ⟨field, a⟩ ⟨_, b⟩ ⟨same, expression⟩
    cases same
    exact apply_alike builtin field expression
  exact ⟨outcomes.rejection, q.build_alike outcomes.clauses⟩

/-- A filter with values of five sorts; the last field is refused. -/
def probe (n : Int) (text : String) (flag : Bool) (values : List Json) : Spec :=
  .ofFields [("id", .array [.integer n, .null]), ("no name", .string text),
    ("name", .object [("$startsWith", .string text), ("$null", .bool true)]),
    ("tags", .object [("$nin", .array [.string text, .bool flag])]),
    ("age", .object [("$between", .array values)])]

theorem applyAll_text_probe :
    let e : Enabled := ⟨Registry.builtin.strategies⟩
    let s := probe 1 "a" true [.integer 5]
    let t := probe (-7) "'; DROP TABLE users; --" false [.integer 0]
    let q : Select := { dialect := .sqlite, table := ⟨"users", by decide⟩ }
    (e.applyAll s).rejection = some (.malformed "age" (.notPair .between 1)) ∧
      (e.applyAll s).rejection = (e.applyAll t).rejection ∧
      (q.add (e.applyAll s).clauses).build.sql = (q.add (e.applyAll t).clauses).build.sql := by
  intro e s t q
  have word : ∀ token a b, Json.LeafAlike token (.string a) (.string b) :=
    fun _ _ _ => ⟨rfl, fun _ => nofun⟩
  have alike : s.Alike t := by
    refine .cons ⟨rfl, .operand (.list ?_) nofun⟩ (.cons ⟨rfl, .operand (.single ?_ nofun) nofun⟩
      (.cons ⟨rfl, .operators ?_⟩ (.cons ⟨rfl, .operators ?_⟩
        (.cons ⟨rfl, .operators ?_⟩ .nil))))
    · exact .cons ⟨rfl, fun _ => nofun⟩ (.cons ⟨rfl, fun _ _ => rfl⟩ .nil)
    · exact word _ _ _
    · exact .cons ⟨rfl, .single (word _ _ _) nofun⟩
        (.cons ⟨rfl, .single ⟨rfl, fun _ _ => rfl⟩ nofun⟩ .nil)
    · exact .cons ⟨rfl, .list (.cons (word _ _ _)
        (.cons ⟨rfl, fun flag => absurd flag (by unfold TakesFlag; decide)⟩ .nil))⟩ .nil
    · exact .cons ⟨rfl, .list (.cons ⟨rfl, fun _ => nofun⟩ .nil)⟩ .nil
  obtain ⟨rejection, sql, -⟩ := applyAll_text builtin_strategies q alike
  exact ⟨by decide, rejection, sql⟩

end Enabled
end QueryFilter
