import QueryFilter.Proofs.Wording

/-!
# Reading statements

A reader takes something off the front of a row of words. `readStatement` finds the table, the
select list and the numbered conditions in the words of a statement, and `readStatement_words` says
that it finds those the statement was written from. Columns are read by their place, so a column, a
table or a field may be spelled like any keyword.
-/

namespace QueryFilter.Reading
open Scanning Wording

/-! ## Readers -/

/-- Members with a separator between them, at most as many as the first number says. -/
def readSeparated {α : Type} (separator : List String)
    (read : List String → Option (α × List String)) :
    Nat → List String → Option (List α × List String)
  | 0, _ => none
  | n + 1, ws => do
    let (x, ws) ← read ws
    match separator.isPrefixOf? ws with
    | none => return ([x], ws)
    | some ws =>
      let (xs, ws) ← readSeparated separator read n ws
      return (x :: xs, ws)

def readList {α : Type} (separator : List String)
    (read : List String → Option (α × List String)) (ws : List String) :
    Option (List α × List String) :=
  readSeparated separator read ws.length ws

def readName : List String → Option (Identifier × List String)
  | [] => none
  | w :: ws => if valid : isIdentifier w = true then some (⟨w, valid⟩, ws) else none

def readPlace (d : Dialect) : List String → Option (Nat × List String)
  | mark :: digits :: ws =>
    if mark = String.singleton d.mark then some (Nat.ofDigitChars 10 digits.toList 0, ws) else none
  | _ => none

def skip (expected ws : List String) : Bool × List String :=
  match expected.isPrefixOf? ws with
  | some rest => (true, rest)
  | none => (false, ws)

def patternOf : Bool → Bool → Comparison
  | false, false => .like
  | false, true => .startsWith
  | true, false => .endsWith
  | true, true => .contains

def readPattern (d : Dialect) (ws : List String) : Option (Test Nat × List String) := do
  let (front, ws) := skip openFront ws
  let (k, ws) ← readPlace d ws
  let (back, ws) := skip openBack ws
  return (.compare (patternOf front back) k, ws)

def readCompared (d : Dialect) (op : Comparison) (ws : List String) :
    Option (Test Nat × List String) :=
  (readPlace d ws).map fun (k, ws) => (.compare op k, ws)

def readTest (d : Dialect) : List String → Option (Test Nat × List String)
  | "IS" :: "NULL" :: ws => some (.null false, ws)
  | "IS" :: "NOT" :: "NULL" :: ws => some (.null true, ws)
  | "LIKE" :: ws => readPattern d ws
  | "ILIKE" :: ws => readCompared d .ilike ws
  | "=" :: ws => readCompared d .eq ws
  | "!" :: "=" :: ws => readCompared d .ne ws
  | ">" :: "=" :: ws => readCompared d .gte ws
  | ">" :: ws => readCompared d .gt ws
  | "<" :: "=" :: ws => readCompared d .lte ws
  | "<" :: ws => readCompared d .lt ws
  | _ => none

def readArray (d : Dialect) (negated : Bool) (ws : List String) :
    Option (Predicate Nat × List String) := do
  let (k, ws) ← readPlace d ws
  let ws ← [")"].isPrefixOf? ws
  return (.inArray k negated, ws)

def readMembers (d : Dialect) (negated : Bool) (ws : List String) :
    Option (Predicate Nat × List String) := do
  let (members, ws) ← readList [","] (readPlace d) ws
  let ws ← [")"].isPrefixOf? ws
  return (.inList members negated, ws)

def readRange (d : Dialect) (ws : List String) : Option (Predicate Nat × List String) := do
  let (low, ws) ← readPlace d ws
  let ws ← ["AND"].isPrefixOf? ws
  let (high, ws) ← readPlace d ws
  return (.between low high, ws)

def readPredicate (d : Dialect) : List String → Option (Predicate Nat × List String)
  | "BETWEEN" :: ws => readRange d ws
  | "=" :: "ANY" :: "(" :: ws => readArray d false ws
  | "!" :: "=" :: "ALL" :: "(" :: ws => readArray d true ws
  | "IN" :: "(" :: ws => readMembers d false ws
  | "NOT" :: "IN" :: "(" :: ws => readMembers d true ws
  | ws => (readTest d ws).map fun (t, ws) => (.test t, ws)

def readGroup (d : Dialect) (ws : List String) : Option (Condition Nat × List String) := do
  let (column, ws) ← readName ws
  let (tests, ws) ← readList ["OR", column.text] (readTest d) ws
  let ws ← [")"].isPrefixOf? ws
  match tests with
  | t :: u :: rest => return (.on column (.anyOf t u rest), ws)
  | _ => none

def readCondition (d : Dialect) : List String → Option (Condition Nat × List String)
  | "1" :: "=" :: "0" :: ws => some (.noRows, ws)
  | "1" :: "=" :: "1" :: ws => some (.allRows, ws)
  | "(" :: ws => readGroup d ws
  | ws => do
    let (column, ws) ← readName ws
    let (predicate, ws) ← readPredicate d ws
    return (.on column predicate, ws)

def readFields : List String → Option (List Identifier × List String)
  | "*" :: ws => some ([], ws)
  | ws => readList [","] readName ws

def readWhere (d : Dialect) : List String → Option (List (Condition Nat))
  | [] => some []
  | "WHERE" :: ws => do
    let (conditions, ws) ← readList ["AND"] (readCondition d) ws
    if ws = [] then return conditions else none
  | _ => none

structure Outline (γ : Type) where
  table : Identifier
  fields : List Identifier
  conditions : List γ

def readStatement (d : Dialect) (ws : List String) : Option (Outline (Condition Nat)) := do
  let ws ← ["SELECT"].isPrefixOf? ws
  let (fields, ws) ← readFields ws
  let ws ← ["FROM"].isPrefixOf? ws
  let (table, ws) ← readName ws
  let conditions ← readWhere d ws
  return { table, fields, conditions }

/-! ## Readers undo the words -/

/-- What may follow a condition: nothing that a pattern could go on with. -/
def Follows (ws : List String) : Prop := ws.head? ≠ some "|"

theorem isPrefixOf?_append (expected ws : List String) :
    expected.isPrefixOf? (expected ++ ws) = some ws :=
  List.isPrefixOf?_eq_some_iff_append_eq.2 rfl

theorem isPrefixOf?_eq_none {w : String} {expected ws : List String} (other : ws.head? ≠ some w) :
    (w :: expected).isPrefixOf? ws = none := by
  apply Option.eq_none_iff_forall_ne_some.2
  intro rest found
  rw [List.isPrefixOf?_eq_some_iff_append_eq] at found
  rw [← found] at other
  exact other rfl

theorem isPrefixOf?_cons_ne {v w : String} (other : v ≠ w) (expected ws : List String) :
    (w :: expected).isPrefixOf? (v :: ws) = none :=
  isPrefixOf?_eq_none fun same => other (Option.some.inj same)

theorem skip_optional {w : String} (expected : List String) {ws : List String} (there : Bool)
    (other : ws.head? ≠ some w) :
    skip (w :: expected) ((bif there then w :: expected else []) ++ ws) = (there, ws) := by
  cases there with
  | false => rw [skip, cond_false, List.nil_append, isPrefixOf?_eq_none other]
  | true => rw [skip, cond_true, isPrefixOf?_append]

theorem readName_cons (id : Identifier) (ws : List String) :
    readName (id.text :: ws) = some (id, ws) := dif_pos id.valid

theorem readPlace_words (d : Dialect) (k : Nat) (ws : List String) :
    readPlace d (placeWords d k ++ ws) = some (k, ws) := by
  have digits : (toString k).toList = Nat.toDigits 10 k := Nat.toList_repr
  change (if String.singleton d.mark = String.singleton d.mark then
    some (Nat.ofDigitChars 10 (toString k).toList 0, ws) else none) = _
  rw [if_pos rfl, digits, Nat.ofDigitChars_ten_toDigits]

theorem readCompared_words (d : Dialect) (op : Comparison) (k : Nat) (ws : List String) :
    readCompared d op (placeWords d k ++ ws) = some (.compare op k, ws) := by
  rw [readCompared, readPlace_words, Option.map_some]

theorem readPattern_words (d : Dialect) (front back : Bool) (k : Nat) {ws : List String}
    (follows : Follows ws) :
    readPattern d ((bif front then openFront else []) ++
        (placeWords d k ++ ((bif back then openBack else []) ++ ws))) =
      some (.compare (patternOf front back) k, ws) := by
  have mark : ∀ rest, (placeWords d k ++ rest).head? ≠ some "'" := by
    intro rest same
    cases d <;> exact absurd (Option.some.inj same) (by decide)
  have opened : ∀ rest, skip openFront ((bif front then openFront else []) ++
      (placeWords d k ++ rest)) = (front, placeWords d k ++ rest) :=
    fun rest => skip_optional _ front (mark rest)
  have closed : skip openBack ((bif back then openBack else []) ++ ws) = (back, ws) :=
    skip_optional _ back follows
  simp only [readPattern, opened, readPlace_words, Option.bind_eq_bind, Option.bind_some, closed]
  rfl

theorem readTest_words (d : Dialect) (t : Test Nat) {ws : List String} (follows : Follows ws) :
    readTest d (testWords d t ++ ws) = some (t, ws) := by
  cases t with
  | null negated => cases negated <;> rfl
  | compare op k =>
      simp only [testWords, List.append_assoc]
      cases op with
      | like => exact readPattern_words d false false k follows
      | startsWith => exact readPattern_words d false true k follows
      | endsWith => exact readPattern_words d true false k follows
      | contains => exact readPattern_words d true true k follows
      -- The mark of the dialect tells a strict comparison from the other.
      | gt => cases d <;> exact readCompared_words _ .gt k ws
      | lt => cases d <;> exact readCompared_words _ .lt k ws
      | _ => exact readCompared_words d _ k ws

theorem testWords_ne_nil (d : Dialect) (t : Test Nat) : testWords d t ≠ [] := by
  cases t with
  | null negated => cases negated <;> exact List.cons_ne_nil _ _
  | compare op k => cases op <;> exact List.cons_ne_nil _ _

/-! ## Lists -/

theorem length_le_intercalate (separator : List String) (rows : List (List String))
    (nonempty : ∀ row ∈ rows, row ≠ []) :
    rows.length ≤ (separator.intercalate rows).length := by
  induction rows with
  | nil => exact Nat.zero_le _
  | cons row rest ih =>
      have first := List.length_pos_of_ne_nil (nonempty row List.mem_cons_self)
      have others := ih fun r member => nonempty r (List.mem_cons_of_mem row member)
      cases rest with
      | nil =>
          rw [List.intercalate_singleton]
          exact first
      | cons next rest =>
          rw [List.intercalate_cons_cons, List.length_append, List.length_append, List.length_cons]
          omega

section Lists

variable {α : Type} {separator : List String} {read : List String → Option (α × List String)}
  {print : α → List String} {rest : List String}

theorem readSeparated_words (xs : List α) (some_member : xs ≠ [])
    (each : ∀ x ∈ xs, ∀ ws, Follows ws → read (print x ++ ws) = some (x, ws))
    (goes_on : ∀ ws, Follows (separator ++ ws)) (follows : Follows rest)
    (stops : separator.isPrefixOf? rest = none) (n : Nat) (enough : xs.length ≤ n) :
    readSeparated separator read n (separator.intercalate (xs.map print) ++ rest) =
      some (xs, rest) := by
  induction xs generalizing n with
  | nil => exact absurd rfl some_member
  | cons x others ih =>
      obtain ⟨m, rfl⟩ : ∃ m, n = m + 1 := Nat.exists_eq_add_one.2 (Nat.zero_lt_of_lt enough)
      have first := each x List.mem_cons_self
      cases others with
      | nil =>
          rw [List.map_cons, List.map_nil, List.intercalate_singleton, readSeparated,
            first rest follows]
          simp only [Option.bind_eq_bind, Option.bind_some, stops]
          rfl
      | cons y others =>
          have later := ih (List.cons_ne_nil y others)
            (fun z member => each z (List.mem_cons_of_mem x member)) m
            (Nat.le_of_succ_le_succ enough)
          rw [List.map_cons] at later
          rw [List.map_cons, List.map_cons, List.intercalate_cons_cons, List.append_assoc,
            List.append_assoc, readSeparated, first _ (goes_on _)]
          simp only [Option.bind_eq_bind, Option.bind_some, isPrefixOf?_append, later]
          rfl

theorem readList_words (xs : List α) (some_member : xs ≠ [])
    (nonempty : ∀ x, print x ≠ [])
    (each : ∀ x ∈ xs, ∀ ws, Follows ws → read (print x ++ ws) = some (x, ws))
    (goes_on : ∀ ws, Follows (separator ++ ws)) (follows : Follows rest)
    (stops : separator.isPrefixOf? rest = none) :
    readList separator read (separator.intercalate (xs.map print) ++ rest) = some (xs, rest) := by
  apply readSeparated_words xs some_member each goes_on follows stops
  have enough := length_le_intercalate separator (xs.map print) fun row member => by
    obtain ⟨x, -, rfl⟩ := List.mem_map.1 member
    exact nonempty x
  rw [List.length_map] at enough
  rw [List.length_append]
  exact Nat.le_add_right_of_le enough

end Lists

/-! ## Conditions -/

theorem follows_cons {w : String} (other : w ≠ "|") (ws : List String) : Follows (w :: ws) :=
  fun same => other (Option.some.inj same)

theorem placeWords_ne_nil (d : Dialect) (k : Nat) : placeWords d k ≠ [] := List.cons_ne_nil _ _

theorem readArray_words (d : Dialect) (negated : Bool) (set : Nat) (ws : List String) :
    readArray d negated (placeWords d set ++ ([")"] ++ ws)) = some (.inArray set negated, ws) := by
  simp only [readArray, readPlace_words, Option.bind_eq_bind, Option.bind_some,
    isPrefixOf?_append]
  rfl

theorem readMembers_words (d : Dialect) (negated : Bool) (members : List Nat)
    (nonempty : members ≠ []) (ws : List String) :
    readMembers d negated ([","].intercalate (members.map (placeWords d)) ++ ([")"] ++ ws)) =
      some (.inList members negated, ws) := by
  have list : readList [","] (readPlace d)
      ([","].intercalate (members.map (placeWords d)) ++ ([")"] ++ ws)) =
        some (members, [")"] ++ ws) :=
    readList_words members nonempty (placeWords_ne_nil d)
      (fun k _ rest _ => readPlace_words d k rest) (follows_cons (by decide))
      (follows_cons (by decide) ws) (isPrefixOf?_cons_ne (by decide) [] ws)
  simp only [readMembers, list, Option.bind_eq_bind, Option.bind_some, isPrefixOf?_append]
  rfl

theorem readRange_words (d : Dialect) (low high : Nat) (ws : List String) :
    readRange d (placeWords d low ++ (["AND"] ++ (placeWords d high ++ ws))) =
      some (.between low high, ws) := by
  simp only [readRange, readPlace_words, Option.bind_eq_bind, Option.bind_some,
    isPrefixOf?_append]
  rfl

/-- No predicate but a test starts like one, so a test is read as a test. -/
theorem readPredicate_test (d : Dialect) (t : Test Nat) (ws : List String) :
    readPredicate d (testWords d t ++ ws) =
      (readTest d (testWords d t ++ ws)).map fun (u, rest) => (.test u, rest) := by
  cases t with
  | null negated => cases negated <;> rfl
  | compare op k => cases d <;> cases op <;> rfl

theorem readGroup_words (d : Dialect) (column : Identifier) (t u : Test Nat)
    (others : List (Test Nat)) (ws : List String) :
    readGroup d ([column.text] ++ (["OR", column.text].intercalate
        ((t :: u :: others).map (testWords d)) ++ ([")"] ++ ws))) =
      some (.on column (.anyOf t u others), ws) := by
  have tests : readList ["OR", column.text] (readTest d) (["OR", column.text].intercalate
      ((t :: u :: others).map (testWords d)) ++ ([")"] ++ ws)) =
        some (t :: u :: others, [")"] ++ ws) :=
    readList_words (t :: u :: others) (List.cons_ne_nil _ _) (testWords_ne_nil d)
      (fun v _ _ follows => readTest_words d v follows) (fun _ => follows_cons (by decide) _)
      (follows_cons (by decide) ws) (isPrefixOf?_cons_ne (by decide) [column.text] ws)
  rw [List.singleton_append, readGroup]
  simp only [readName_cons, tests, Option.bind_eq_bind, Option.bind_some, isPrefixOf?_append]
  rfl

theorem readCondition_column {d : Dialect} (column : Identifier) {p : Predicate Nat}
    {ws rest : List String} (predicate : readPredicate d ws = some (p, rest)) :
    readCondition d (column.text :: ws) = some (.on column p, rest) := by
  have other : ∀ {w}, isIdentifier w = false → column.text ≠ w := by
    intro w invalid same
    rw [← same, column.valid] at invalid
    cases invalid
  unfold readCondition
  split
  · rename_i same
    exact absurd (List.cons.inj same).1 (other (by decide))
  · rename_i same
    exact absurd (List.cons.inj same).1 (other (by decide))
  · rename_i same
    exact absurd (List.cons.inj same).1 (other (by decide))
  · simp only [readName_cons, predicate, Option.bind_eq_bind, Option.bind_some]
    rfl

theorem readCondition_words (d : Dialect) (c : Condition Nat) (fits : c.Fits d)
    {ws : List String} (follows : Follows ws) :
    readCondition d (conditionWords d c ++ ws) = some (c, ws) := by
  cases c with
  | noRows => rfl
  | allRows => rfl
  | on column predicate =>
      cases predicate with
      | anyOf t u others =>
          rw [conditionWords, predicateWords, List.append_assoc, List.append_assoc]
          exact readGroup_words d column t u others ws
      | test t =>
          have test : readPredicate d (testWords d t ++ ws) = some (.test t, ws) := by
            rw [readPredicate_test, readTest_words d t follows, Option.map_some]
          exact readCondition_column column test
      | between low high =>
          simp only [conditionWords, predicateWords, List.append_assoc]
          exact readCondition_column column (readRange_words d low high ws)
      | inArray set negated =>
          have array := readArray_words d negated set ws
          cases negated with
          | false =>
              simp only [conditionWords, predicateWords, List.append_assoc]
              exact readCondition_column column array
          | true =>
              simp only [conditionWords, predicateWords, List.append_assoc]
              exact readCondition_column column array
      | inList members negated =>
          have list := readMembers_words d negated members fits.2 ws
          cases negated with
          | false =>
              simp only [conditionWords, predicateWords, List.append_assoc]
              exact readCondition_column column list
          | true =>
              simp only [conditionWords, predicateWords, List.append_assoc]
              exact readCondition_column column list

theorem conditionWords_ne_nil (d : Dialect) (c : Condition Nat) : conditionWords d c ≠ [] := by
  cases c with
  | noRows => exact List.cons_ne_nil _ _
  | allRows => exact List.cons_ne_nil _ _
  | on column predicate =>
      cases predicate with
      | inArray set negated => cases negated <;> exact List.cons_ne_nil _ _
      | inList members negated => cases negated <;> exact List.cons_ne_nil _ _
      | _ => exact List.cons_ne_nil _ _

/-! ## Statements -/

theorem readFields_words (ids : List Identifier) (ws : List String) :
    readFields (fieldsWords ids ++ (["FROM"] ++ ws)) = some (ids, ["FROM"] ++ ws) := by
  cases ids with
  | nil => rfl
  | cons id others =>
      have list : readList [","] readName
          ([","].intercalate ((id :: others).map fun x => [x.text]) ++ (["FROM"] ++ ws)) =
            some (id :: others, ["FROM"] ++ ws) :=
        readList_words _ (List.cons_ne_nil id others) (fun _ => List.cons_ne_nil _ _)
          (fun x _ rest _ => readName_cons x rest) (fun _ => follows_cons (by decide) _)
          (follows_cons (by decide) ws) (isPrefixOf?_cons_ne (by decide) [] ws)
      have first : ∀ row, [","].intercalate ((id :: others).map fun x => [x.text]) ++
          (["FROM"] ++ ws) ≠ "*" :: row := by
        intro row same
        have star : id.text = "*" := by
          cases others with
          | nil => exact (List.cons.inj same).1
          | cons y others => exact (List.cons.inj same).1
        have valid := id.valid
        rw [star] at valid
        exact absurd valid (by decide)
      rw [fieldsWords, readFields, list]
      · exact first
      · exact fun empty => List.cons_ne_nil id others empty

theorem readWhere_words (d : Dialect) (cs : List (Condition Nat)) (fits : ∀ c ∈ cs, c.Fits d) :
    readWhere d (whereWords d cs) = some cs := by
  cases cs with
  | nil => rfl
  | cons c others =>
      have list : readList ["AND"] (readCondition d)
          (["AND"].intercalate ((c :: others).map (conditionWords d)) ++ []) =
            some (c :: others, []) :=
        readList_words (c :: others) (List.cons_ne_nil c others) (conditionWords_ne_nil d)
          (fun x member _ => readCondition_words d x (fits x member))
          (fun _ => follows_cons (by decide) _) nofun rfl
      rw [List.append_nil] at list
      rw [whereWords, List.singleton_append, readWhere]
      · simp only [list, Option.bind_eq_bind, Option.bind_some]
        rfl
      · exact fun empty => List.cons_ne_nil c others empty

theorem readStatement_words (q : Select) :
    readStatement q.dialect (words q.build.sql) =
      some ⟨q.table, q.fields, Select.numbered q.conditions 1⟩ := by
  have conditions := readWhere_words q.dialect (Select.numbered q.conditions 1)
    (Select.numbered_fits q.dialect q.clauses 1)
  have table : ∀ ws, readName ([q.table.text] ++ ws) = some (q.table, ws) := readName_cons q.table
  rw [words_build, readStatement]
  simp only [isPrefixOf?_append, readFields_words, table, conditions, Option.bind_eq_bind,
    Option.bind_some]
  rfl

end QueryFilter.Reading
