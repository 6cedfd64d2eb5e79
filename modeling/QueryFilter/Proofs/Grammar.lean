import QueryFilter.Proofs.Numbering
import Mathlib.Data.List.Forall2

/-!
# The language of statements

Which texts a statement can be, said of texts alone, and that `Select.build` writes no others:

* `isIdentifier_iff`: the rule for identifiers, character by character.
* `template_text`: on a column that is a name, the text of a numbered condition fills one of
  finitely many templates with that column and with placeholders.
* `fragment_renders`: a clause becomes a template on its own column, or one of two constants. Which
  constant it is depends on the clause alone, and a column that is no name always gives `1=0`.
* `ofCalls_text`: the statement of a query made by calls from free text.
-/

namespace QueryFilter.Grammar

/-! ## Names and placeholders -/

def NameChar (c : Char) : Prop :=
  ('a' ≤ c ∧ c ≤ 'z') ∨ ('A' ≤ c ∧ c ≤ 'Z') ∨ ('0' ≤ c ∧ c ≤ '9') ∨ c = '_'

structure IsName (s : String) : Prop where
  nonempty : 1 ≤ s.length
  short : s.length ≤ 63
  chars : ∀ c ∈ s.toList, NameChar c
  opening : ∀ c ∈ s.toList.head?, ¬ ('0' ≤ c ∧ c ≤ '9')

inductive IsPlaceholder : Dialect → String → Prop
  | postgres (k : Nat) : IsPlaceholder .postgres ("$" ++ toString k)
  | sqlite (k : Nat) : IsPlaceholder .sqlite ("?" ++ toString k)

theorem continuesName_iff {c : Char} : continuesName c = true ↔ NameChar c := by
  rw [continuesName, Char.isAlphanum, Bool.or_eq_true, Bool.or_eq_true, isAlpha_iff, isDigit_iff,
    beq_iff_eq, NameChar]
  constructor
  · rintro (((upper | lower) | digit) | rfl)
    · exact .inr (.inl upper)
    · exact .inl lower
    · exact .inr (.inr (.inl digit))
    · exact .inr (.inr (.inr rfl))
  · rintro (lower | upper | digit | rfl)
    · exact .inl (.inl (.inr lower))
    · exact .inl (.inl (.inl upper))
    · exact .inl (.inr digit)
    · exact .inr rfl

theorem opensName_iff {c : Char} : opensName c = true ↔ NameChar c ∧ ¬ ('0' ≤ c ∧ c ≤ '9') := by
  rw [← continuesName_iff, ← isDigit_iff, Bool.not_eq_true]
  constructor
  · intro opens
    exact ⟨continuesName_of_opensName opens, isDigit_of_opensName opens⟩
  · rintro ⟨continues, nondigit⟩
    simp only [continuesName, Char.isAlphanum, nondigit, Bool.or_false] at continues
    exact continues

theorem isIdentifier_iff {s : String} : isIdentifier s = true ↔ IsName s := by
  have length_eq : s.length = s.toList.length := String.length_toList.symm
  cases chars : s.toList with
  | nil =>
      have empty : isIdentifier s = false := by simp only [isIdentifier, chars]
      rw [empty]
      refine ⟨fun h => absurd h Bool.false_ne_true, fun name => ?_⟩
      have := name.nonempty
      rw [length_eq, chars] at this
      exact absurd this (by decide)
  | cons c rest =>
      have unfolded : isIdentifier s = true ↔
          opensName c = true ∧ (∀ x ∈ rest, continuesName x = true) ∧ rest.length < 63 := by
        simp only [isIdentifier, chars, Bool.and_eq_true, List.all_eq_true, decide_eq_true_eq,
          and_assoc]
        rfl
      rw [unfolded]
      constructor
      · rintro ⟨opens, continues, short⟩
        obtain ⟨first, nondigit⟩ := opensName_iff.1 opens
        refine ⟨?_, ?_, ?_, ?_⟩
        · rw [length_eq, chars]
          exact Nat.succ_pos _
        · rw [length_eq, chars]
          exact short
        · rw [chars]
          intro x member
          rcases List.mem_cons.1 member with rfl | member
          · exact first
          · exact continuesName_iff.1 (continues x member)
        · rw [chars]
          intro x head
          cases Option.some.inj head
          exact nondigit
      · intro name
        have first : c ∈ s.toList := by rw [chars]; exact List.mem_cons_self
        have head : c ∈ s.toList.head? := by rw [chars]; rfl
        refine ⟨opensName_iff.2 ⟨name.chars c first, name.opening c head⟩, ?_, ?_⟩
        · intro x member
          apply continuesName_iff.2
          apply name.chars
          rw [chars]
          exact List.mem_cons_of_mem c member
        · have short := name.short
          rw [length_eq, chars] at short
          exact short

theorem isPlaceholder (d : Dialect) (k : Nat) : IsPlaceholder d (d.placeholder k) := by
  rw [d.placeholder_eq]
  cases d with
  | postgres => exact .postgres k
  | sqlite => exact .sqlite k

/-! ## Templates -/

inductive IsTest (d : Dialect) (column : String) : String → Prop
  | compare {symbol place : String}
      (known : symbol ∈ ["=", "!=", ">", ">=", "<", "<=", "LIKE"] ∨
        d = .postgres ∧ symbol = "ILIKE")
      (bound : IsPlaceholder d place) :
      IsTest d column (column ++ " " ++ symbol ++ " " ++ place)
  | startsWith {place : String} (bound : IsPlaceholder d place) :
      IsTest d column (column ++ " LIKE " ++ place ++ " || '%'")
  | endsWith {place : String} (bound : IsPlaceholder d place) :
      IsTest d column (column ++ " LIKE '%' || " ++ place)
  | contains {place : String} (bound : IsPlaceholder d place) :
      IsTest d column (column ++ " LIKE '%' || " ++ place ++ " || '%'")
  | isNull : IsTest d column (column ++ " IS NULL")
  | isNotNull : IsTest d column (column ++ " IS NOT NULL")

inductive IsMembership : Dialect → String → String → Prop
  | anyOfArray {column place : String} (bound : IsPlaceholder .postgres place) :
      IsMembership .postgres column (column ++ " = ANY(" ++ place ++ ")")
  | allOfArray {column place : String} (bound : IsPlaceholder .postgres place) :
      IsMembership .postgres column (column ++ " != ALL(" ++ place ++ ")")
  | inList {column : String} {places : List String} (some : places ≠ [])
      (bound : ∀ place ∈ places, IsPlaceholder .sqlite place) :
      IsMembership .sqlite column (column ++ " IN (" ++ ", ".intercalate places ++ ")")
  | notInList {column : String} {places : List String} (some : places ≠ [])
      (bound : ∀ place ∈ places, IsPlaceholder .sqlite place) :
      IsMembership .sqlite column (column ++ " NOT IN (" ++ ", ".intercalate places ++ ")")

inductive IsTemplate (d : Dialect) (column : String) : String → Prop
  | test {text : String} (single : IsTest d column text) : IsTemplate d column text
  | anyOf {texts : List String} (two : 2 ≤ texts.length)
      (each : ∀ text ∈ texts, IsTest d column text) :
      IsTemplate d column ("(" ++ " OR ".intercalate texts ++ ")")
  | between {low high : String} (lowBound : IsPlaceholder d low)
      (highBound : IsPlaceholder d high) :
      IsTemplate d column (column ++ " BETWEEN " ++ low ++ " AND " ++ high)
  | membership {text : String} (set : IsMembership d column text) : IsTemplate d column text

theorem IsTemplate.head {d : Dialect} {column text : String} (t : IsTemplate d column text) :
    text.toList.head? = some '(' ∨ ∃ rest, text = column ++ rest := by
  cases t with
  | test single =>
      right
      cases single with
      | isNull => exact ⟨_, rfl⟩
      | isNotNull => exact ⟨_, rfl⟩
      | _ => exact ⟨_, by simp only [String.append_assoc]; rfl⟩
  | anyOf two each =>
      left
      simp only [String.toList_append, List.append_assoc]
      rfl
  | between lowBound highBound =>
      right
      exact ⟨_, by simp only [String.append_assoc]; rfl⟩
  | membership set =>
      right
      cases set <;> exact ⟨_, by simp only [String.append_assoc]; rfl⟩

theorem IsTemplate.head_ne_one {d : Dialect} {column text : String} (name : IsName column)
    (t : IsTemplate d column text) : text.toList.head? ≠ some '1' := by
  rcases t.head with parenthesis | ⟨rest, rfl⟩
  · rw [parenthesis]
    decide
  · intro one
    have nonempty : column.toList ≠ [] := by
      intro empty
      have := name.nonempty
      rw [← String.length_toList, empty] at this
      exact absurd this (by decide)
    rw [String.toList_append, List.head?_append_of_ne_nil _ nonempty] at one
    exact name.opening '1' one (by decide)

/-! ## Conditions as templates -/

theorem test_text {d : Dialect} {t : Test Nat} (fits : t.Fits d) (column : String) :
    IsTest d column (t.text d column) := by
  cases t with
  | null negated =>
      cases negated with
      | false => exact .isNull
      | true => exact .isNotNull
  | compare op k =>
      have bound := isPlaceholder d k
      cases op with
      | startsWith => exact .startsWith bound
      | endsWith => exact .endsWith bound
      | contains => exact .contains bound
      | ilike => exact .compare (.inr ⟨fits rfl, rfl⟩) bound
      | _ => exact .compare (.inl (by decide)) bound

theorem template_text {d : Dialect} {p : Predicate Nat} (fits : p.Fits d)
    (column : String) : IsTemplate d column (p.text d column) := by
  cases p with
  | test t => exact .test (test_text fits column)
  | anyOf t u rest =>
      apply IsTemplate.anyOf
      · simp only [List.map_cons, List.length_cons]
        omega
      · intro text member
        obtain ⟨v, inGroup, rfl⟩ := List.mem_map.1 member
        exact test_text (fits v inGroup) column
  | between low high => exact .between (isPlaceholder d low) (isPlaceholder d high)
  | inArray set negated =>
      cases fits
      cases negated with
      | false => exact .membership (.anyOfArray (isPlaceholder .postgres set))
      | true => exact .membership (.allOfArray (isPlaceholder .postgres set))
  | inList members negated =>
      obtain ⟨rfl, nonempty⟩ := fits
      have some : members.map (Dialect.placeholder .sqlite) ≠ [] :=
        fun empty => nonempty (List.map_eq_nil_iff.1 empty)
      have bound : ∀ place ∈ members.map (Dialect.placeholder .sqlite),
          IsPlaceholder .sqlite place := by
        intro place member
        obtain ⟨k, -, rfl⟩ := List.mem_map.1 member
        exact isPlaceholder .sqlite k
      cases negated with
      | false => exact .membership (.inList some bound)
      | true => exact .membership (.notInList some bound)

/-! ## Clauses -/

def Never : Clause → Prop
  | .any _ _ [] => True
  | .member _ [] negated => negated = false
  | _ => False

def Always : Clause → Prop
  | .member _ [] negated => negated = true
  | _ => False

structure Renders (d : Dialect) (c : Clause) (text : String) : Prop where
  form : text = "1=0" ∨ text = "1=1" ∨ IsName c.column ∧ IsTemplate d c.column text
  noRows : text = "1=0" ↔ ¬ IsName c.column ∨ Never c
  allRows : text = "1=1" ↔ IsName c.column ∧ Always c

theorem conditionOn_cases (d : Dialect) (column : Identifier) (c : Clause) :
    (c.conditionOn d column = .noRows ∧ Never c ∧ ¬ Always c) ∨
    (c.conditionOn d column = .allRows ∧ Always c ∧ ¬ Never c) ∨
    (¬ Never c ∧ ¬ Always c ∧ ∃ p, c.conditionOn d column = .on column p) := by
  cases c with
  | compare name op value => exact .inr (.inr ⟨id, id, _, rfl⟩)
  | any name op values =>
      cases values with
      | nil => exact .inl ⟨rfl, trivial, id⟩
      | cons v rest => cases rest <;> exact .inr (.inr ⟨id, id, _, rfl⟩)
  | member name values negated =>
      cases values with
      | nil =>
          cases negated with
          | false => exact .inl ⟨rfl, rfl, Bool.false_ne_true⟩
          | true => exact .inr (.inl ⟨rfl, rfl, Bool.false_ne_true.symm⟩)
      | cons v rest => exact .inr (.inr ⟨id, id, _, rfl⟩)
  | null name negated => exact .inr (.inr ⟨id, id, _, rfl⟩)
  | between name low high => exact .inr (.inr ⟨id, id, _, rfl⟩)

theorem fragment_of_not_isName {d : Dialect} {c : Clause} (name : ¬ IsName c.column) (k : Nat) :
    c.fragment d k = ⟨"1=0", [], k⟩ := by
  have noRows : c.condition d = .noRows := dif_neg fun valid => name (isIdentifier_iff.1 valid)
  rw [Clause.fragment, noRows]
  rfl

theorem fragment_renders (d : Dialect) (c : Clause) (k : Nat) :
    Renders d c (c.fragment d k).sql := by
  by_cases valid : isIdentifier c.column = true
  · have name := isIdentifier_iff.1 valid
    have sql : (c.fragment d k).sql = ((c.condition d).number k).1.text d := rfl
    rw [sql]
    have onColumn : c.condition d = c.conditionOn d ⟨c.column, valid⟩ := dif_pos valid
    rw [onColumn]
    rcases conditionOn_cases d ⟨c.column, valid⟩ c with
      ⟨none, never, notAlways⟩ | ⟨all, always, notNever⟩ | ⟨notNever, notAlways, p, predicate⟩
    · rw [none]
      have text : ((Condition.noRows : Condition Value).number k).1.text d = "1=0" := rfl
      rw [text]
      exact ⟨.inl rfl, iff_of_true rfl (.inr never),
        iff_of_false (by decide) fun h => notAlways h.2⟩
    · rw [all]
      have text : ((Condition.allRows : Condition Value).number k).1.text d = "1=1" := rfl
      rw [text]
      exact ⟨.inr (.inl rfl), iff_of_false (by decide) fun h => h.elim (fun n => n name) notNever,
        iff_of_true rfl ⟨name, always⟩⟩
    · have fits : p.Fits d := by
        have := c.condition_fits d
        rwa [onColumn, predicate] at this
      rw [predicate]
      have template : IsTemplate d c.column ((p.number k).1.text d c.column) :=
        template_text (p.number_fits fits k) c.column
      have head := template.head_ne_one name
      change Renders d c ((p.number k).1.text d c.column)
      refine ⟨.inr (.inr ⟨name, template⟩), ?_, ?_⟩
      · refine iff_of_false (fun one => head ?_) fun h => h.elim (fun n => n name) notNever
        rw [one]
        rfl
      · refine iff_of_false (fun one => head ?_) fun h => notAlways h.2
        rw [one]
        rfl
  · have name : ¬ IsName c.column := fun name => valid (isIdentifier_iff.2 name)
    rw [fragment_of_not_isName name]
    change Renders d c "1=0"
    exact ⟨.inl rfl, iff_of_true rfl (.inl name), iff_of_false (by decide) fun h => name h.1⟩

theorem fragments_render (d : Dialect) (cs : List Clause) (k : Nat) :
    List.Forall₂ (Renders d) cs ((Select.fragments d cs k).map Fragment.sql) := by
  induction cs generalizing k with
  | nil => exact .nil
  | cons c rest ih => exact .cons (fragment_renders d c k) (ih (c.fragment d k).next)

/-! ## Queries made by calls -/

inductive Call where
  | select (names : List String)
  | record (c : Clause)

def Call.clauses : Call → List Clause
  | .select _ => []
  | .record c => [c]

def Call.selected (before : List String) : Call → List String
  | .select names => names
  | .record _ => before

def call (q : Select) : Call → Except NameError Select
  | .select names => q.selecting names
  | .record c => .ok (q.add [c])

/-- A query made by calls, from free text; a name that is refused ends it. -/
def ofCalls (d : Dialect) (table : String) (calls : List Call) : Except NameError Select := do
  calls.foldlM call (← Select.on d table)

theorem ofString_mapM {role : NameRole} {names : List String} {ids : List Identifier}
    (h : names.mapM (Identifier.ofString role) = .ok ids) : ids.map Identifier.text = names := by
  induction names generalizing ids with
  | nil =>
      cases h
      rfl
  | cons name rest ih =>
      rw [List.mapM_cons] at h
      cases first : Identifier.ofString role name with
      | error e => rw [first] at h; cases h
      | ok id =>
          rw [first] at h
          cases others : rest.mapM (Identifier.ofString role) with
          | error e => rw [others] at h; cases h
          | ok rest' =>
              rw [others] at h
              cases h
              rw [List.map_cons, ih others, Identifier.ofString_ok.1 first]

theorem call_ok {q q' : Select} {c : Call} (h : call q c = .ok q') :
    q'.dialect = q.dialect ∧ q'.table = q.table ∧
      q'.fields.map Identifier.text = c.selected (q.fields.map Identifier.text) ∧
      q'.clauses = q.clauses ++ c.clauses := by
  cases c with
  | record c =>
      cases h
      exact ⟨rfl, rfl, rfl, rfl⟩
  | select names =>
      cases ids : names.mapM (Identifier.ofString .field) with
      | error e => simp only [call, Select.selecting, ids] at h; cases h
      | ok fields =>
          simp only [call, Select.selecting, ids] at h
          cases h
          exact ⟨rfl, rfl, ofString_mapM ids, (List.append_nil _).symm⟩

theorem calls_ok {q q' : Select} {calls : List Call} (h : calls.foldlM call q = .ok q') :
    q'.dialect = q.dialect ∧ q'.table = q.table ∧
      q'.fields.map Identifier.text =
        calls.foldl Call.selected (q.fields.map Identifier.text) ∧
      q'.clauses = q.clauses ++ calls.flatMap Call.clauses := by
  induction calls generalizing q with
  | nil =>
      cases h
      exact ⟨rfl, rfl, rfl, (List.append_nil _).symm⟩
  | cons c rest ih =>
      rw [List.foldlM_cons] at h
      cases step : call q c with
      | error e => rw [step] at h; cases h
      | ok between =>
          rw [step] at h
          obtain ⟨dialect, table, fields, clauses⟩ := call_ok step
          obtain ⟨dialect', table', fields', clauses'⟩ := ih h
          refine ⟨dialect'.trans dialect, table'.trans table, ?_, ?_⟩
          · rw [fields', fields, List.foldl_cons]
          · rw [clauses', clauses, List.flatMap_cons, List.append_assoc]

theorem ofCalls_ok {d : Dialect} {table : String} {calls : List Call} {q : Select}
    (h : ofCalls d table calls = .ok q) :
    q.dialect = d ∧ q.table.text = table ∧
      q.fields.map Identifier.text = calls.foldl Call.selected [] ∧
      q.clauses = calls.flatMap Call.clauses := by
  unfold ofCalls Select.on at h
  cases name : Identifier.ofString .table table with
  | error e => rw [name] at h; cases h
  | ok id =>
      rw [name] at h
      obtain ⟨dialect, same, fields, clauses⟩ := calls_ok h
      refine ⟨dialect, ?_, fields, clauses⟩
      rw [same]
      exact Identifier.ofString_ok.1 name

/-! ## Statements -/

theorem identifier_name (id : Identifier) : IsName id.text := isIdentifier_iff.1 id.valid

/-- The statement of a query made by calls, in the words of the calls. -/
theorem ofCalls_text {d : Dialect} {table : String} {calls : List Call} {q : Select}
    (made : ofCalls d table calls = .ok q) :
    let selected := calls.foldl Call.selected []
    let recorded := calls.flatMap Call.clauses
    IsName table ∧ (∀ name ∈ selected, IsName name) ∧
      ∃ conditions : List String, List.Forall₂ (Renders d) recorded conditions ∧
        q.build.sql =
          "SELECT " ++ (if selected = [] then "*" else ", ".intercalate selected) ++
            " FROM " ++ table ++
            (if recorded = [] then "" else " WHERE " ++ " AND ".intercalate conditions) ∧
        ∀ c ∈ recorded, ¬ IsName c.column → ∀ k, c.fragment d k = ⟨"1=0", [], k⟩ := by
  intro selected recorded
  obtain ⟨dialect, tableText, fields, clauses⟩ := ofCalls_ok made
  refine ⟨tableText ▸ identifier_name q.table, ?_,
    (Select.fragments d recorded 1).map Fragment.sql, fragments_render d recorded 1, ?_,
    fun c _ name k => fragment_of_not_isName name k⟩
  · intro name member
    change name ∈ calls.foldl Call.selected [] at member
    rw [← fields] at member
    obtain ⟨id, -, rfl⟩ := List.mem_map.1 member
    exact identifier_name id
  · have list : Select.listText q.fields =
        if selected = [] then "*" else ", ".intercalate selected := by
      have selected_eq : selected = q.fields.map Identifier.text := fields.symm
      rw [selected_eq]
      cases q.fields <;> rfl
    have joined : Select.whereText ((Select.fragments d recorded 1).map Fragment.sql) =
        if recorded = [] then ""
        else " WHERE " ++ " AND ".intercalate
          ((Select.fragments d recorded 1).map Fragment.sql) := by
      cases recorded <;> rfl
    change q.headText ++ Select.whereText _ = _
    rw [Select.headText, list, dialect, clauses, tableText, joined]

theorem ofCalls_text_hostile :
    let calls : List Call := [.select ["id", "FROM"],
      .record (.compare "name; DROP TABLE users" .eq (.string "x")),
      .record (.any "status" .eq [.null, .bool true])]
    ∃ q, ofCalls .sqlite "users" calls = .ok q ∧ ∃ conditions : List String,
      List.Forall₂ (Renders .sqlite) (calls.flatMap Call.clauses) conditions ∧
        q.build.sql = "SELECT " ++ "id, FROM" ++ " FROM " ++ "users" ++
          (" WHERE " ++ " AND ".intercalate conditions) := by
  intro calls
  let q : Select :=
    { dialect := .sqlite, table := ⟨"users", by decide⟩,
      fields := [⟨"id", by decide⟩, ⟨"FROM", by decide⟩], clauses := calls.flatMap Call.clauses }
  have made : ofCalls .sqlite "users" calls = .ok q := rfl
  obtain ⟨-, -, conditions, renders, text, -⟩ := ofCalls_text made
  exact ⟨q, made, conditions, renders, text⟩

end QueryFilter.Grammar
