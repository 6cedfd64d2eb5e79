import QueryFilter.Proofs.Numbering
import QueryFilter.Proofs.Scanning

/-!
# Placeholders and parameters

A text `Carries` the numbers that `placeholdersIn` finds in it. Texts that carry numbers are
composed from left to right (`Carries.append`). The numbers that a condition carries are its
operands (`condition_carries`), so those of a statement are `1` to `n` in order, and `bound` says
which values they stand for, clause by clause.
-/

namespace QueryFilter.Placeholders
open Scanning

/-! ## Texts that carry numbers -/

def Carries (d : Dialect) (text : String) (numbers : List Nat) : Prop :=
  placeholdersIn d.mark text.toList = numbers.map toString

def Unmarked (d : Dialect) (text : String) : Prop := d.mark ∉ text.toList

abbrev Closes : String → Prop := Opens Char.isDigit

theorem Carries.after {d : Dialect} {s t : String} {numbers : List Nat}
    (carries : Carries d t numbers) (unmarked : Unmarked d s) : Carries d (s ++ t) numbers := by
  rw [Carries, String.toList_append, placeholdersIn_unmarked unmarked]
  exact carries

theorem Unmarked.carries {d : Dialect} {s : String} (unmarked : Unmarked d s) :
    Carries d s [] := by
  have empty : Carries d "" [] := rfl
  have := empty.after unmarked
  rwa [String.append_empty] at this

theorem Carries.append {d : Dialect} {s t : String} {ks ls : List Nat} (front : Carries d s ks)
    (back : Carries d t ls) (closes : Closes t) : Carries d (s ++ t) (ks ++ ls) := by
  rw [Carries, String.toList_append, placeholdersIn_append _ closes, front, back, List.map_append]

theorem intercalate_carries {d : Dialect} {separator : String} (unmarked : Unmarked d separator)
    (closes : Closes separator) (nonempty : separator ≠ "") {α : Type} {text : α → String}
    {numbers : α → List Nat} (xs : List α) (each : ∀ x ∈ xs, Carries d (text x) (numbers x)) :
    Carries d (separator.intercalate (xs.map text)) (xs.flatMap numbers) := by
  induction xs with
  | nil => rfl
  | cons x rest ih =>
      have first := each x List.mem_cons_self
      have others := ih fun y member => each y (List.mem_cons_of_mem x member)
      cases rest with
      | nil =>
          rw [List.map_singleton, String.intercalate_singleton, List.flatMap_singleton]
          exact first
      | cons y rest =>
          rw [List.map_cons, List.map_cons, String.intercalate_cons_cons, String.append_assoc,
            List.flatMap_cons]
          exact first.append (others.after unmarked) (closes.append nonempty _)

theorem digits_unmarked (d : Dialect) (k : Nat) : d.mark ∉ Nat.toDigits 10 k := by
  intro member
  have digit := isDigit_of_mem member
  cases d <;> exact absurd digit (by decide)

theorem placeholder_carries (d : Dialect) (k : Nat) : Carries d (d.placeholder k) [k] := by
  have rest : placeholdersIn d.mark (Nat.toDigits 10 k) = [] := by
    have := placeholdersIn_unmarked (digits_unmarked d k) []
    rwa [List.append_nil] at this
  rw [Carries, Dialect.placeholder, String.toList_ofList, placeholdersIn, if_pos rfl, rest,
    List.takeWhile_eq_self_iff.2 fun _ => isDigit_of_mem, List.map_singleton,
    ← Nat.toString_eq_ofList_toDigits]

theorem placeholder_closes (d : Dialect) (k : Nat) : Closes (d.placeholder k) := by
  intro c head
  rw [Dialect.placeholder, String.toList_ofList, List.head?_cons] at head
  cases head
  cases d <;> rfl

/-! ## Conditions -/

theorem Unmarked.of_both {d : Dialect} {s : String} (free : '$' ∉ s.toList ∧ '?' ∉ s.toList) :
    Unmarked d s := by
  cases d with
  | postgres => exact free.1
  | sqlite => exact free.2

theorem Unmarked.append {d : Dialect} {s t : String} (front : Unmarked d s) (back : Unmarked d t) :
    Unmarked d (s ++ t) := by
  intro member
  rw [String.toList_append] at member
  exact (List.mem_append.1 member).elim front back

theorem slot_carries {d : Dialect} {before : String} (unmarked : Unmarked d before) (k : Nat) :
    Carries d (before ++ d.placeholder k) [k] :=
  (placeholder_carries d k).after unmarked

theorem slot_carries_before {d : Dialect} {before behind : String} (front : Unmarked d before)
    (back : Unmarked d behind) (closes : Closes behind) (k : Nat) :
    Carries d (before ++ d.placeholder k ++ behind) [k] :=
  (slot_carries front k).append back.carries closes

theorem identifier_closes (id : Identifier) : Closes id.text := by
  obtain ⟨c, rest, chars, opens⟩ := id.toList_eq
  intro x head
  rw [chars] at head
  cases head
  exact isDigit_of_opensName opens

theorem identifier_unmarked (d : Dialect) (id : Identifier) : Unmarked d id.text := by
  intro member
  have continues := List.all_eq_true.1 (isIdentifier_all id.valid) d.mark member
  cases d <;> exact absurd continues (by decide)

theorem symbol_unmarked (d : Dialect) (op : Comparison) : Unmarked d op.symbol := by
  apply Unmarked.of_both
  cases op <;> decide

theorem test_carries (d : Dialect) (id : Identifier) (t : Test Nat) :
    Carries d (t.text d id.text) t.operands := by
  have column := identifier_unmarked d id
  have blank : Unmarked d " " := .of_both (by decide)
  have like : Unmarked d " LIKE " := .of_both (by decide)
  have likeAny : Unmarked d " LIKE '%' || " := .of_both (by decide)
  have thenAny : Unmarked d " || '%'" := .of_both (by decide)
  have closes : Closes " || '%'" := by decide
  cases t with
  | null negated =>
      have isNull : Unmarked d " IS NULL" := .of_both (by decide)
      have isNotNull : Unmarked d " IS NOT NULL" := .of_both (by decide)
      cases negated with
      | false => exact (column.append isNull).carries
      | true => exact (column.append isNotNull).carries
  | compare op k =>
      have before := ((column.append blank).append (symbol_unmarked d op)).append blank
      have single := slot_carries before k
      cases op with
      | startsWith => exact slot_carries_before (column.append like) thenAny closes k
      | endsWith => exact slot_carries (column.append likeAny) k
      | contains => exact slot_carries_before (column.append likeAny) thenAny closes k
      | _ => exact single

theorem predicate_carries (d : Dialect) (id : Identifier) (p : Predicate Nat) :
    Carries d (p.text d id.text) p.operands := by
  have column := identifier_unmarked d id
  have last : Unmarked d ")" := .of_both (by decide)
  have lastCloses : Closes ")" := by decide
  have comma : Unmarked d ", " := .of_both (by decide)
  cases p with
  | test t => exact test_carries d id t
  | anyOf t u rest =>
      have first : Unmarked d "(" := .of_both (by decide)
      have or : Unmarked d " OR " := .of_both (by decide)
      have group := intercalate_carries or (by decide) (by decide) (t :: u :: rest)
        fun v _ => test_carries d id v
      have := (group.after first).append last.carries lastCloses
      rwa [List.append_nil] at this
  | between low high =>
      have between : Unmarked d " BETWEEN " := .of_both (by decide)
      have and : Unmarked d " AND " := .of_both (by decide)
      exact (slot_carries_before (column.append between) and (by decide) low).append
        (placeholder_carries d high) (placeholder_closes d high)
  | inArray set negated =>
      have any : Unmarked d " = ANY(" := .of_both (by decide)
      have all : Unmarked d " != ALL(" := .of_both (by decide)
      cases negated with
      | false => exact slot_carries_before (column.append any) last lastCloses set
      | true => exact slot_carries_before (column.append all) last lastCloses set
  | inList members negated =>
      have inSet : Unmarked d " IN (" := .of_both (by decide)
      have notInSet : Unmarked d " NOT IN (" := .of_both (by decide)
      have list := intercalate_carries comma (by decide) (by decide) members
        fun k _ => placeholder_carries d k
      rw [List.flatMap_singleton'] at list
      have set : ∀ {s : String}, Unmarked d s → Carries d
          (id.text ++ s ++ ", ".intercalate (members.map d.placeholder) ++ ")") members := by
        intro s unmarked
        have := (list.after (column.append unmarked)).append last.carries lastCloses
        rwa [List.append_nil] at this
      cases negated with
      | false => exact set inSet
      | true => exact set notInSet

theorem condition_carries (d : Dialect) (c : Condition Nat) : Carries d (c.text d) c.operands := by
  cases c with
  | noRows =>
      have unmarked : Unmarked d "1=0" := .of_both (by decide)
      exact unmarked.carries
  | allRows =>
      have unmarked : Unmarked d "1=1" := .of_both (by decide)
      exact unmarked.carries
  | on column predicate => exact predicate_carries d column predicate

/-! ## Statements -/

theorem headText_carries (q : Select) : Carries q.dialect q.headText [] := by
  have selectWord : Unmarked q.dialect "SELECT " := .of_both (by decide)
  have fromWord : Unmarked q.dialect " FROM " := .of_both (by decide)
  have comma : Unmarked q.dialect ", " := .of_both (by decide)
  have list : Carries q.dialect (Select.listText q.fields) [] := by
    cases q.fields with
    | nil => exact Unmarked.carries (.of_both (by decide))
    | cons id rest =>
        have := intercalate_carries comma (by decide) (by decide) (id :: rest)
          fun x _ => (identifier_unmarked q.dialect x).carries
        have none : (id :: rest).flatMap (fun _ => ([] : List Nat)) = [] :=
          List.flatMap_eq_nil_iff.2 fun _ _ => rfl
        rwa [none] at this
  exact ((list.after selectWord).append fromWord.carries (by decide)).append
    (identifier_unmarked q.dialect q.table).carries (identifier_closes q.table)

theorem whereText_carries (d : Dialect) (cs : List (Condition Nat)) :
    Carries d (Select.whereText (cs.map (Condition.text d))) (cs.flatMap Condition.operands) := by
  have whereWord : Unmarked d " WHERE " := .of_both (by decide)
  have and : Unmarked d " AND " := .of_both (by decide)
  cases cs with
  | nil => rfl
  | cons c rest =>
      exact (intercalate_carries and (by decide) (by decide) (c :: rest)
        fun x _ => condition_carries d x).after whereWord

theorem whereText_closes (texts : List String) : Closes (Select.whereText texts) := by
  cases texts with
  | nil => decide
  | cons text rest => exact Opens.append (by decide) (by decide) _

/-! ## Parameters -/

def compared : Comparison → Value → List Value
  | .eq, .null => []
  | .ne, .null => []
  | _, value => [value]

def bound (d : Dialect) (c : Clause) : List Value :=
  if isIdentifier c.column then
    match c with
    | .compare _ op value => compared op value
    | .any _ op values => values.flatMap (compared op)
    | .member _ values _ =>
      match d with
      | .sqlite => values
      | .postgres => if values = [] then [] else [.array values]
    | .null _ _ => []
    | .between _ low high => [low, high]
  else []

theorem test_operands (d : Dialect) (op : Comparison) (value : Value) :
    (d.test op value).operands = compared op value := by
  cases value <;> cases op <;> rfl

theorem conditionOn_operands (d : Dialect) (column : Identifier) (c : Clause)
    (valid : isIdentifier c.column = true) : (c.conditionOn d column).operands = bound d c := by
  unfold bound
  rw [if_pos valid]
  cases c with
  | compare name op value => exact test_operands d op value
  | any name op values =>
      have each : values.flatMap (compared op) =
          (values.map (d.test op)).flatMap Test.operands := by
        rw [List.flatMap_map]
        exact List.flatMap_congr fun v _ => (test_operands d op v).symm
      change _ = values.flatMap (compared op)
      rw [each]
      cases values with
      | nil => rfl
      | cons v rest =>
          cases rest with
          | nil => exact (List.flatMap_singleton ..).symm
          | cons w rest => rfl
  | member name values negated =>
      cases values with
      | nil => cases negated <;> cases d <;> rfl
      | cons v rest => cases d <;> rfl
  | null name negated => rfl
  | between name low high => rfl

theorem condition_operands (d : Dialect) (c : Clause) :
    (c.condition d).operands = bound d c := by
  unfold Clause.condition
  split
  · rename_i valid
    exact conditionOn_operands d _ c valid
  · rename_i invalid
    unfold bound
    rw [if_neg invalid]
    rfl

/-- Placeholders are the numbers from one on, in order, for what the clauses bind, in order; so it
is in each clause, from any number on. -/
theorem params_bound (q : Select) :
    q.build.params = q.clauses.flatMap (bound q.dialect) := by
  rw [Select.build_eq, Select.conditions, List.flatMap_map]
  exact List.flatMap_congr fun c _ => condition_operands q.dialect c

theorem build_placeholders :
    (∀ q : Select,
      placeholdersIn q.dialect.mark q.build.sql.toList =
          (List.range' 1 q.build.params.length).map toString ∧
        q.build.params = q.clauses.flatMap (bound q.dialect)) ∧
    ∀ (d : Dialect) (c : Clause) (start : Nat),
      placeholdersIn d.mark (c.fragment d start).sql.toList =
          (List.range' start (c.fragment d start).params.length).map toString ∧
        (c.fragment d start).next = start + (c.fragment d start).params.length ∧
        (c.fragment d start).params = bound d c := by
  constructor
  · intro q
    refine ⟨?_, params_bound q⟩
    have carries := (headText_carries q).append
      (whereText_carries q.dialect (Select.numbered q.conditions 1)) (whereText_closes _)
    rw [List.nil_append, Select.numbered_operands] at carries
    rw [Select.build_eq]
    exact carries
  · intro d c start
    obtain ⟨numbers, next⟩ := (c.condition d).number_operands start
    rw [Clause.fragment_eq]
    refine ⟨?_, next, condition_operands d c⟩
    have carries := condition_carries d ((c.condition d).number start).1
    rw [numbers] at carries
    exact carries

end QueryFilter.Placeholders
