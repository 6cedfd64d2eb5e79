/-!
# Names of tables and columns

`isIdentifier` is the rule that a text may be written into a statement as a name: 1 to 63
characters, ASCII letters, digits and underscores, no digit first. `Identifier` carries the rule, so
tables and select lists cannot hold anything else. Columns of filters are free text and are tested
where a statement is written.
-/

namespace QueryFilter

def opensName (c : Char) : Bool := c.isAlpha || c == '_'

def continuesName (c : Char) : Bool := c.isAlphanum || c == '_'

/-- The longest name that every database accepts. -/
def maxNameLength : Nat := 63

def isIdentifier (text : String) : Bool :=
  match text.toList with
  | [] => false
  | c :: rest => opensName c && rest.all continuesName && rest.length < maxNameLength

structure Identifier where
  text : String
  valid : isIdentifier text = true
  deriving DecidableEq

inductive NameRole where
  | table
  | field
  deriving DecidableEq

def NameRole.word : NameRole → String
  | .table => "table"
  | .field => "field"

/-- A text was given as the name of a table or of a selected field and is no identifier. -/
structure NameError where
  role : NameRole
  name : String
  deriving DecidableEq

def NameError.message (e : NameError) : String :=
  "Invalid SQL " ++ e.role.word ++ " name '" ++ e.name ++ "': must start with " ++
    "letter/underscore, contain only ASCII alphanumeric/underscore, and be 1-63 chars"

def Identifier.ofString (role : NameRole) (text : String) : Except NameError Identifier :=
  if h : isIdentifier text = true then .ok ⟨text, h⟩ else .error ⟨role, text⟩

/-! ## Lemmas -/

theorem Identifier.ofString_ok {role : NameRole} {text : String} {name : Identifier} :
    Identifier.ofString role text = .ok name ↔ name.text = text := by
  unfold Identifier.ofString
  split
  · rename_i h
    constructor
    · intro e; cases e; rfl
    · intro e; cases name; cases e; rfl
  · rename_i h
    constructor
    · intro e; cases e
    · intro e; exact absurd (e ▸ name.valid) h

theorem continuesName_of_opensName {c : Char} (h : opensName c = true) :
    continuesName c = true := by
  simp only [opensName, continuesName, Char.isAlphanum, Bool.or_eq_true] at *
  rcases h with h | h
  · exact .inl (.inl h)
  · exact .inr h

theorem isAlpha_iff {c : Char} :
    c.isAlpha = true ↔ ('A' ≤ c ∧ c ≤ 'Z') ∨ ('a' ≤ c ∧ c ≤ 'z') := by
  have letters : c.isAlpha =
      (decide ('A' ≤ c ∧ c ≤ 'Z') || (decide ('a' ≤ c) && decide (c ≤ 'z'))) := rfl
  rw [letters, Bool.or_eq_true, Bool.and_eq_true]
  simp only [decide_eq_true_eq]

theorem isDigit_iff {c : Char} : c.isDigit = true ↔ '0' ≤ c ∧ c ≤ '9' := by
  have digits : c.isDigit = (decide ('0' ≤ c) && decide (c ≤ '9')) := rfl
  rw [digits, Bool.and_eq_true]
  simp only [decide_eq_true_eq]

theorem isDigit_of_opensName {c : Char} (h : opensName c = true) : c.isDigit = false := by
  apply Bool.eq_false_iff.2
  intro digit
  have below := (isDigit_iff.1 digit).2
  rw [opensName, Bool.or_eq_true, isAlpha_iff, beq_iff_eq] at h
  rcases h with (upper | lower) | rfl
  · exact absurd (Char.le_trans upper.1 below) (by decide)
  · exact absurd (Char.le_trans lower.1 below) (by decide)
  · exact absurd below (by decide)

theorem isIdentifier_all {text : String} (h : isIdentifier text = true) :
    text.toList.all continuesName = true := by
  unfold isIdentifier at h
  split at h
  · cases h
  · rename_i c rest e
    simp only [Bool.and_eq_true] at h
    rw [e, List.all_cons, continuesName_of_opensName h.1.1, h.1.2, Bool.and_true]

theorem Identifier.toList_eq (id : Identifier) :
    ∃ c rest, id.text.toList = c :: rest ∧ opensName c = true := by
  have valid := id.valid
  unfold isIdentifier at valid
  split at valid
  · cases valid
  · rename_i c rest chars
    simp only [Bool.and_eq_true] at valid
    exact ⟨c, rest, chars, valid.1.1⟩

end QueryFilter
