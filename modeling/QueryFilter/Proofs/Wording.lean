import QueryFilter.Proofs.Numbering
import QueryFilter.Proofs.Scanning

/-!
# The words of statements

The text of a numbered condition is a row of words, `conditionWords`, whose tests share the tables
`leading` and `trailing`. `words_build` puts those rows together to the words of a statement.
-/

namespace QueryFilter.Wording
open Scanning

def placeWords (d : Dialect) (k : Nat) : List String := [String.singleton d.mark, toString k]

def openFront : List String := ["'", "%", "'", "|", "|"]

def openBack : List String := ["|", "|", "'", "%", "'"]

def leading : Comparison → List String
  | .eq => ["="]
  | .ne => ["!", "="]
  | .gt => [">"]
  | .gte => [">", "="]
  | .lt => ["<"]
  | .lte => ["<", "="]
  | .like => ["LIKE"]
  | .ilike => ["ILIKE"]
  | .startsWith => ["LIKE"]
  | .endsWith => "LIKE" :: openFront
  | .contains => "LIKE" :: openFront

def trailing : Comparison → List String
  | .startsWith => openBack
  | .contains => openBack
  | _ => []

def testWords (d : Dialect) : Test Nat → List String
  | .compare op k => leading op ++ placeWords d k ++ trailing op
  | .null false => ["IS", "NULL"]
  | .null true => ["IS", "NOT", "NULL"]

def predicateWords (d : Dialect) (column : String) : Predicate Nat → List String
  | .test t => column :: testWords d t
  | .anyOf t u rest =>
    ["(", column] ++ ["OR", column].intercalate ((t :: u :: rest).map (testWords d)) ++ [")"]
  | .between low high => [column, "BETWEEN"] ++ placeWords d low ++ ["AND"] ++ placeWords d high
  | .inArray set false => [column, "=", "ANY", "("] ++ placeWords d set ++ [")"]
  | .inArray set true => [column, "!", "=", "ALL", "("] ++ placeWords d set ++ [")"]
  | .inList members false =>
    [column, "IN", "("] ++ [","].intercalate (members.map (placeWords d)) ++ [")"]
  | .inList members true =>
    [column, "NOT", "IN", "("] ++ [","].intercalate (members.map (placeWords d)) ++ [")"]

def conditionWords (d : Dialect) : Condition Nat → List String
  | .noRows => ["1", "=", "0"]
  | .allRows => ["1", "=", "1"]
  | .on column predicate => predicateWords d column.text predicate

theorem words_identifier (id : Identifier) : words id.text = [id.text] := by
  apply words_run
  · intro empty
    have := id.valid
    rw [empty] at this
    exact absurd this (by decide)
  · exact List.all_eq_true.1 (isIdentifier_all id.valid)

theorem words_placeholder (d : Dialect) (k : Nat) : words (d.placeholder k) = placeWords d k := by
  have digits : words (toString k) = [toString k] := by
    have chars : (toString k).toList = Nat.toDigits 10 k := Nat.toList_repr
    apply words_run
    · intro empty
      rw [empty] at chars
      exact Nat.toDigits_ne_nil chars.symm
    · intro c member
      rw [chars] at member
      have digit := isDigit_of_mem member
      simp only [continuesName, Char.isAlphanum, digit, Bool.or_true, Bool.true_or]
  have mark : words (String.singleton d.mark) = [String.singleton d.mark] := by
    cases d <;> decide
  have ends : Ends (String.singleton d.mark) := by cases d <;> decide
  rw [d.placeholder_eq, words_append_ends ends, mark, digits]
  rfl

theorem words_test (d : Dialect) (id : Identifier) (t : Test Nat) :
    words (t.text d id.text) = id.text :: testWords d t := by
  have column := words_identifier id
  cases t with
  | null negated =>
      cases negated with
      | false =>
          rw [Test.text, words_append_opens _ (by decide), column]
          rfl
      | true =>
          rw [Test.text, words_append_opens _ (by decide), column]
          rfl
  | compare op k =>
      have place := words_placeholder d k
      have like : ∀ t, words (id.text ++ (" LIKE " ++ t)) = [id.text] ++ (["LIKE"] ++ words t) := by
        intro t
        rw [words_between _ (by decide), column]
        rfl
      have likeAny : ∀ t, words (id.text ++ (" LIKE '%' || " ++ t)) =
          [id.text] ++ (leading .contains ++ words t) := by
        intro t
        rw [words_between _ (by decide), column]
        rfl
      have thenAny : words (d.placeholder k ++ " || '%'") =
          placeWords d k ++ trailing .contains := by
        rw [words_append_opens _ (by decide), place]
        rfl
      have symbol : words (id.text ++ (" " ++ (op.symbol ++ (" " ++ d.placeholder k)))) =
          [id.text] ++ (words op.symbol ++ placeWords d k) := by
        have blank : words " " = [] := by decide
        rw [words_between _ (by decide), column,
          words_between _ (by decide), place, blank]
        rfl
      cases op with
      | startsWith => simp only [Test.text, String.append_assoc, like, thenAny]; rfl
      | endsWith => simp only [Test.text, String.append_assoc, likeAny, place]; rfl
      | contains => simp only [Test.text, String.append_assoc, likeAny, thenAny]; rfl
      | _ =>
          simp only [Test.text, String.append_assoc, symbol]
          rfl

/-- A word in front of every member may stand with the separator instead. -/
theorem intercalate_cons {α : Type} (separator word : String) (print : α → List String) (x : α)
    (rest : List α) :
    [separator].intercalate ((x :: rest).map fun y => word :: print y) =
      word :: [separator, word].intercalate ((x :: rest).map print) := by
  induction rest generalizing x with
  | nil => simp only [List.map_cons, List.map_nil, List.intercalate_singleton]
  | cons y rest ih =>
      have others := ih y
      simp only [List.map_cons, List.intercalate_cons_cons] at others ⊢
      rw [others]
      simp only [List.cons_append, List.nil_append, List.append_assoc]

theorem words_predicate (d : Dialect) (id : Identifier) (p : Predicate Nat) :
    words (p.text d id.text) = predicateWords d id.text p := by
  have column := words_identifier id
  have array : ∀ {s : String}, Apart s → ∀ k,
      words (id.text ++ (s ++ (d.placeholder k ++ ")"))) =
        [id.text] ++ (words s ++ (placeWords d k ++ [")"])) := by
    intro s apart k
    rw [words_between _ apart, column, words_append_opens _ (by decide),
      words_placeholder]
    rfl
  have list : ∀ {s : String}, Apart s → ∀ members : List Nat,
      words (id.text ++ (s ++ (", ".intercalate (members.map d.placeholder) ++ ")"))) =
        [id.text] ++ (words s ++ ([","].intercalate (members.map (placeWords d)) ++ [")"])) := by
    intro s apart members
    have places : (members.map d.placeholder).map words = members.map (placeWords d) := by
      rw [List.map_map]
      exact List.map_congr_left fun k _ => words_placeholder d k
    rw [words_between _ apart, column, words_append_opens _ (by decide),
      words_intercalate (by decide), places]
    rfl
  cases p with
  | test t => exact words_test d id t
  | anyOf t u rest =>
      have tests : ((t :: u :: rest).map (Test.text d id.text)).map words =
          (t :: u :: rest).map fun v => id.text :: testWords d v := by
        rw [List.map_map]
        exact List.map_congr_left fun v _ => words_test d id v
      have or : words " OR " = ["OR"] := by decide
      rw [Predicate.text, words_append_opens _ (by decide), words_append_ends (by decide),
        words_intercalate (by decide), tests, or, intercalate_cons]
      rfl
  | between low high =>
      have and : words " AND " = ["AND"] := by decide
      simp only [Predicate.text, String.append_assoc]
      rw [words_between _ (by decide), column,
        words_between _ (by decide), words_placeholder, and,
        words_placeholder]
      rfl
  | inArray set negated =>
      cases negated with
      | false =>
          simp only [Predicate.text, String.append_assoc]
          rw [array (by decide)]
          rfl
      | true =>
          simp only [Predicate.text, String.append_assoc]
          rw [array (by decide)]
          rfl
  | inList members negated =>
      cases negated with
      | false =>
          simp only [Predicate.text, String.append_assoc]
          rw [list (by decide)]
          rfl
      | true =>
          simp only [Predicate.text, String.append_assoc]
          rw [list (by decide)]
          rfl

theorem words_condition (d : Dialect) (c : Condition Nat) :
    words (c.text d) = conditionWords d c := by
  cases c with
  | noRows => exact (by decide : words "1=0" = ["1", "=", "0"])
  | allRows => exact (by decide : words "1=1" = ["1", "=", "1"])
  | on column predicate => exact words_predicate d column predicate

/-! ## Statements -/

def fieldsWords : List Identifier → List String
  | [] => ["*"]
  | ids => [","].intercalate (ids.map fun id => [id.text])

def whereWords (d : Dialect) : List (Condition Nat) → List String
  | [] => []
  | cs => ["WHERE"] ++ ["AND"].intercalate (cs.map (conditionWords d))

theorem words_listText (ids : List Identifier) :
    words (Select.listText ids) = fieldsWords ids := by
  cases ids with
  | nil => decide
  | cons id rest =>
      have names : ((id :: rest).map Identifier.text).map words =
          (id :: rest).map fun x => [x.text] := by
        rw [List.map_map]
        exact List.map_congr_left fun x _ => words_identifier x
      rw [Select.listText, words_intercalate (by decide), names]
      · rfl
      · exact fun empty => List.cons_ne_nil id rest empty

theorem words_headText (q : Select) :
    words q.headText = ["SELECT"] ++ (fieldsWords q.fields ++ (["FROM"] ++ [q.table.text])) := by
  rw [Select.headText, String.append_assoc, String.append_assoc, words_append_ends (by decide),
    words_between _ (by decide), words_listText,
    words_identifier]
  rfl

theorem words_whereText (d : Dialect) (cs : List (Condition Nat)) :
    words (Select.whereText (cs.map (Condition.text d))) = whereWords d cs := by
  cases cs with
  | nil => exact (by decide : words "" = [])
  | cons c rest =>
      have texts : ((c :: rest).map (Condition.text d)).map words =
          (c :: rest).map (conditionWords d) := by
        rw [List.map_map]
        exact List.map_congr_left fun x _ => words_condition d x
      change words (" WHERE " ++ " AND ".intercalate ((c :: rest).map (Condition.text d))) = _
      rw [words_append_ends (by decide), words_intercalate (by decide),
        texts]
      rfl

theorem words_build (q : Select) :
    words q.build.sql = ["SELECT"] ++ (fieldsWords q.fields ++ (["FROM"] ++ ([q.table.text] ++
      whereWords q.dialect (Select.numbered q.conditions 1)))) := by
  have opens : ∀ texts, Opens continuesName (Select.whereText texts) := by
    intro texts
    cases texts with
    | nil => decide
    | cons text rest => exact Opens.append (by decide) (by decide) _
  rw [Select.build_eq]
  change words (q.headText ++ Select.whereText _) = _
  rw [words_append_opens _ (opens _), words_headText, words_whereText]
  simp only [List.append_assoc]

end QueryFilter.Wording
