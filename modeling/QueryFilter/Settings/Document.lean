import QueryFilter.Settings
import QueryFilter.Text.Reading

/-!
# Settings documents

A settings document is a TOML text with at most two entries: `filters`, a list of strings, and
`key`, a string. `Settings.read?` accepts those documents and no other. The text is first cut into
tokens (`Token.scan?`), which settles blanks, comments, line ends and the four sorts of strings; the
entries are then read from the tokens.
-/

namespace QueryFilter

namespace Settings

inductive Token where
  /-- A run of letters, digits, underscores and hyphens. -/
  | word (s : String)
  /-- A string; one of several lines can be a value but no key. -/
  | text (s : String) (severalLines : Bool)
  | equals
  | comma
  | opening
  | closing
  | lineEnd
  deriving DecidableEq

namespace Token

/-! ## Characters -/

def continuesWord (c : Char) : Bool := c.isAlphanum || c == '_' || c == '-'

def isControl (c : Char) : Bool := (c.toNat < 0x20 && c != '\t') || c.toNat == 0x7f

def isSpace (c : Char) : Bool := c == ' ' || c == '\t'

def escaped? : Char → Option Char
  | 'b' => some '\x08'
  | 't' => some '\t'
  | 'n' => some '\n'
  | 'f' => some '\x0c'
  | 'r' => some '\r'
  | 'e' => some '\x1b'
  | '"' => some '"'
  | '\\' => some '\\'
  | _ => none

def coded? (digits : List Char) : Option Char := (hex? digits).bind scalar?

def readEscape (s : List Char) : Option (Char × Rest s) :=
  match s with
  | 'x' :: a :: b :: rest =>
    (coded? [a, b]).map fun ch => (ch, ⟨rest, Nat.lt_add_of_pos_right (Nat.succ_pos 2)⟩)
  | 'u' :: a :: b :: c :: d :: rest =>
    (coded? [a, b, c, d]).map fun ch => (ch, ⟨rest, Nat.lt_add_of_pos_right (Nat.succ_pos 4)⟩)
  | 'U' :: a :: b :: c :: d :: e :: f :: g :: h :: rest =>
    (coded? [a, b, c, d, e, f, g, h]).map fun ch =>
      (ch, ⟨rest, Nat.lt_add_of_pos_right (Nat.succ_pos 8)⟩)
  | c :: rest => (escaped? c).map fun ch => (ch, ⟨rest, length_lt_cons c rest⟩)
  | [] => none

/-! ## Strings on one line -/

/-- Up to the closing quote of a string with escapes. -/
def readBasic (s : List Char) : Option (List Char × Rest s) :=
  match s with
  | [] => none
  | '"' :: rest => some ([], ⟨rest, length_lt_cons _ rest⟩)
  | '\\' :: rest => do
    let (c, ⟨rest, h⟩) ← readEscape rest
    let (cs, ⟨rest, h'⟩) ← readBasic rest
    return (c :: cs, ⟨rest, length_lt_cons_of_lt (Nat.lt_trans h' h)⟩)
  | c :: rest =>
    if isControl c then none
    else do
      let (cs, ⟨rest, h⟩) ← readBasic rest
      return (c :: cs, ⟨rest, length_lt_cons_of_lt h⟩)
termination_by s.length

/-- Up to the closing quote of a string without escapes. -/
def readLiteral (s : List Char) : Option (List Char × Rest s) :=
  match s with
  | [] => none
  | '\'' :: rest => some ([], ⟨rest, length_lt_cons _ rest⟩)
  | c :: rest =>
    if isControl c then none
    else do
      let (cs, ⟨rest, h⟩) ← readLiteral rest
      return (c :: cs, ⟨rest, length_lt_cons_of_lt h⟩)

/-! ## Strings of several lines -/

def lineEnd? (s : List Char) : Option (List Char × Rest s) :=
  match s with
  | '\n' :: rest => some (['\n'], ⟨rest, length_lt_cons _ rest⟩)
  | '\r' :: '\n' :: rest =>
    some (['\r', '\n'], ⟨rest, by simp only [List.length_cons]; omega⟩)
  | _ => none

def skipLines : List Char → List Char
  | ' ' :: rest => skipLines rest
  | '\t' :: rest => skipLines rest
  | '\n' :: rest => skipLines rest
  | '\r' :: '\n' :: rest => skipLines rest
  | s => s

theorem length_skipLines_le (s : List Char) : (skipLines s).length ≤ s.length := by
  fun_induction skipLines s <;> simp <;> omega

/-- A backslash at the end of a line hides the line end and all blanks up to the next character. -/
def joinLines? (s : List Char) : Option (Rest s) :=
  match lineEnd? (s.dropWhile isSpace) with
  | none => none
  | some (_, ⟨rest, h⟩) => some ⟨skipLines rest, by
      have := (List.dropWhile_suffix isSpace (l := s)).length_le
      have := length_skipLines_le rest
      omega⟩

def maxQuotes : Nat := 5

/-- Quotes at the front of a text when three of them close a string: at most two before the closing
ones belong to the string. Nothing if fewer than three stand there. -/
def closeQuotes? (quote : Char) (s : List Char) : Option (List Char × Rest s) :=
  let count := min (s.takeWhile (· == quote)).length maxQuotes
  if h : 3 ≤ count then
    some (List.replicate (count - 3) quote, ⟨s.drop count, by
      have := (List.takeWhile_prefix (· == quote) (l := s)).length_le
      simp only [List.length_drop]
      omega⟩)
  else none

def readLongBasic (s : List Char) : Option (List Char × Rest s) :=
  match closeQuotes? '"' s with
  | some found => some found
  | none =>
    match s with
    | [] => none
    | '\\' :: rest =>
      match joinLines? rest with
      | some ⟨rest, h⟩ => do
        let (cs, ⟨rest, h'⟩) ← readLongBasic rest
        return (cs, ⟨rest, length_lt_cons_of_lt (Nat.lt_trans h' h)⟩)
      | none => do
        let (c, ⟨rest, h⟩) ← readEscape rest
        let (cs, ⟨rest, h'⟩) ← readLongBasic rest
        return (c :: cs, ⟨rest, length_lt_cons_of_lt (Nat.lt_trans h' h)⟩)
    | c :: rest =>
      match lineEnd? (c :: rest) with
      | some (newline, ⟨rest, h⟩) => do
        let (cs, ⟨rest, h'⟩) ← readLongBasic rest
        return (newline ++ cs, ⟨rest, Nat.lt_trans h' h⟩)
      | none =>
        if isControl c then none
        else do
          let (cs, ⟨rest, h⟩) ← readLongBasic rest
          return (c :: cs, ⟨rest, length_lt_cons_of_lt h⟩)
termination_by s.length
decreasing_by
  · simp only [List.length_cons]; omega
  · simp only [List.length_cons]; omega
  · assumption
  · exact Nat.lt_succ_self _

def readLongLiteral (s : List Char) : Option (List Char × Rest s) :=
  match closeQuotes? '\'' s with
  | some found => some found
  | none =>
    match s with
    | [] => none
    | c :: rest =>
      match lineEnd? (c :: rest) with
      | some (newline, ⟨rest, h⟩) => do
        let (cs, ⟨rest, h'⟩) ← readLongLiteral rest
        return (newline ++ cs, ⟨rest, Nat.lt_trans h' h⟩)
      | none =>
        if isControl c then none
        else do
          let (cs, ⟨rest, h⟩) ← readLongLiteral rest
          return (c :: cs, ⟨rest, length_lt_cons_of_lt h⟩)
termination_by s.length
decreasing_by
  · assumption
  · exact Nat.lt_succ_self _

/-- A line end right behind the opening quotes does not belong to the string. -/
def dropFirstLineEnd (s : List Char) : List Char :=
  match lineEnd? s with
  | some (_, rest) => rest.val
  | none => s

theorem length_dropFirstLineEnd_le (s : List Char) : (dropFirstLineEnd s).length ≤ s.length := by
  unfold dropFirstLineEnd
  split
  · rename_i r _
    exact Nat.le_of_lt r.property
  · exact Nat.le_refl _

/-! ## Tokens -/

/-- Three quotes open a string of several lines; one alone opens a string on one line. -/
def readText (s : List Char) : Option (Token × Rest s) :=
  match s with
  | '"' :: '"' :: '"' :: rest => do
    let (cs, ⟨rest', h⟩) ← readLongBasic (dropFirstLineEnd rest)
    have := length_dropFirstLineEnd_le rest
    return (.text (String.ofList cs) true, ⟨rest', by simp only [List.length_cons]; omega⟩)
  | '\'' :: '\'' :: '\'' :: rest => do
    let (cs, ⟨rest', h⟩) ← readLongLiteral (dropFirstLineEnd rest)
    have := length_dropFirstLineEnd_le rest
    return (.text (String.ofList cs) true, ⟨rest', by simp only [List.length_cons]; omega⟩)
  | '"' :: rest => do
    let (cs, ⟨rest', h⟩) ← readBasic rest
    return (.text (String.ofList cs) false, ⟨rest', length_lt_cons_of_lt h⟩)
  | '\'' :: rest => do
    let (cs, ⟨rest', h⟩) ← readLiteral rest
    return (.text (String.ofList cs) false, ⟨rest', length_lt_cons_of_lt h⟩)
  | _ => none

def mark? : Char → Option Token
  | '=' => some .equals
  | ',' => some .comma
  | '[' => some .opening
  | ']' => some .closing
  | _ => none

def read (s : List Char) : Option (Token × Rest s) :=
  match lineEnd? s with
  | some (_, rest) => some (.lineEnd, rest)
  | none =>
    match s with
    | [] => none
    | c :: rest =>
      match mark? c with
      | some token => some (token, ⟨rest, length_lt_cons _ rest⟩)
      | none =>
        if continuesWord c then
          some (.word (String.ofList (c :: rest.takeWhile continuesWord)),
            ⟨rest.dropWhile continuesWord, by
              have := (List.dropWhile_suffix continuesWord (l := rest)).length_le
              simp only [List.length_cons]
              omega⟩)
        else readText (c :: rest)

def isComment (c : Char) : Bool := !isControl c

def scan? (s : List Char) : Option (List Token) :=
  match s with
  | [] => some []
  | ' ' :: rest => scan? rest
  | '\t' :: rest => scan? rest
  | '#' :: rest => scan? (rest.dropWhile isComment)
  | s => do
    let (token, ⟨rest, _⟩) ← read s
    return token :: (← scan? rest)
termination_by s.length
decreasing_by
  · exact Nat.lt_succ_self _
  · exact Nat.lt_succ_self _
  · have := (List.dropWhile_suffix isComment (l := rest)).length_le
    simp only [List.length_cons]
    omega
  · assumption

end Token

/-! ## Entries -/

inductive Entry where
  | operators (tokens : List String)
  | key (name : String)

/-- A name is a word or a string on one line. -/
def name? : Token → Option String
  | .word s => some s
  | .text s false => some s
  | _ => none

/-- The members of a list behind its opening bracket. A member must be separated from the one before
it (`separated`); a comma may follow the last; lines end anywhere. -/
def readMembers (separated : Bool) (tokens : List Token) : Option (List String × Rest tokens) :=
  match tokens with
  | .lineEnd :: rest => do
    let (members, ⟨rest, h⟩) ← readMembers separated rest
    return (members, ⟨rest, Nat.lt_succ_of_lt h⟩)
  | .closing :: rest => some ([], ⟨rest, length_lt_cons _ rest⟩)
  | .comma :: rest =>
    if separated then none
    else do
      let (members, ⟨rest, h⟩) ← readMembers true rest
      return (members, ⟨rest, Nat.lt_succ_of_lt h⟩)
  | .text s _ :: rest =>
    if separated then do
      let (members, ⟨rest, h⟩) ← readMembers false rest
      return (s :: members, ⟨rest, Nat.lt_succ_of_lt h⟩)
    else none
  | _ => none

def readEntry (name : String) (tokens : List Token) : Option (Entry × Rest tokens) :=
  match name, tokens with
  | "filters", .opening :: rest => do
    let (members, ⟨rest, h⟩) ← readMembers true rest
    return (.operators members, ⟨rest, Nat.lt_succ_of_lt h⟩)
  | "key", .text s _ :: rest => some (.key s, ⟨rest, length_lt_cons _ rest⟩)
  | _, _ => none

structure Draft where
  operators : Option (List String) := none
  key : Option String := none

def Draft.set? (d : Draft) : Entry → Option Draft
  | .operators tokens => if d.operators.isSome then none else some { d with operators := tokens }
  | .key name => if d.key.isSome then none else some { d with key := name }

def readEntries (d : Draft) (tokens : List Token) : Option Draft :=
  match tokens with
  | [] => some d
  | .lineEnd :: rest => readEntries d rest
  | token :: .equals :: rest => do
    let (entry, ⟨behind, h⟩) ← readEntry (← name? token) rest
    let d ← d.set? entry
    match behind, h with
    | [], _ => return d
    | .lineEnd :: next, _ => readEntries d next
    | _, _ => none
  | _ => none
termination_by tokens.length
decreasing_by
  · exact Nat.lt_succ_self _
  · rename_i h
    simp only [List.length_cons] at *
    omega

/-- A byte order mark at the front of a text is no part of it. -/
def dropMark : List Char → List Char
  | '\uFEFF' :: rest => rest
  | s => s

def read? (text : String) : Option Settings := do
  let d ← readEntries {} (← Token.scan? (dropMark text.toList))
  return { operators := d.operators, key := d.key.getD defaultKey }

/-- The settings that a document holds. The key must not be empty. -/
def parse (text : String) : Except FilterError Settings :=
  match read? text with
  | none => .error (.configuration .unreadable)
  | some s => if s.key = "" then .error (.configuration .emptyKey) else .ok s

end Settings
end QueryFilter
