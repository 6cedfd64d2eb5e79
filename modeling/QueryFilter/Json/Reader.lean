import QueryFilter.Json.Literal
import QueryFilter.Text.Reading

/-!
# Reading documents

`Literal.read?` reads a text that is one document, with blanks between its parts and nothing beside
it. Blanks are space, tab, line feed and carriage return; strings hold no bare control character,
and their escapes spell Unicode scalar values, by a pair of surrogates where four digits are too
few; no comma trails. Containers nest at most `maxDepth` deep. Each function returns what it read
and the rest of the text, which is shorter.
-/

namespace QueryFilter

def isBlank (c : Char) : Bool := c == ' ' || c == '\t' || c == '\n' || c == '\r'

def skipBlank (s : List Char) : List Char := s.dropWhile isBlank

theorem length_skipBlank_le (s : List Char) : (skipBlank s).length ≤ s.length :=
  (List.dropWhile_suffix isBlank).length_le

/-! ## Strings -/

/-- The character that a high and a low surrogate spell. -/
def pair? (high low : Nat) : Option Char :=
  if 0xd800 ≤ high ∧ high < 0xdc00 ∧ 0xdc00 ≤ low ∧ low < 0xe000 then
    scalar? (0x10000 + (high - 0xd800) * 0x400 + (low - 0xdc00))
  else none

def escaped? : Char → Option Char
  | '"' => some '"'
  | '\\' => some '\\'
  | '/' => some '/'
  | 'b' => some '\x08'
  | 'f' => some '\x0c'
  | 'n' => some '\n'
  | 'r' => some '\r'
  | 't' => some '\t'
  | _ => none

def readChar (s : List Char) : Option (Char × Rest s) :=
  match s with
  | '\\' :: 'u' :: a :: b :: c :: d :: rest =>
    match hex? [a, b, c, d] with
    | none => none
    | some high =>
      match scalar? high with
      | some ch => some (ch, ⟨rest, by simp only [List.length_cons]; omega⟩)
      | none =>
        match rest with
        | '\\' :: 'u' :: e :: f :: g :: h :: rest => do
          let low ← hex? [e, f, g, h]
          let ch ← pair? high low
          return (ch, ⟨rest, by simp only [List.length_cons]; omega⟩)
        | _ => none
  | '\\' :: c :: rest =>
    (escaped? c).map fun ch => (ch, ⟨rest, by simp only [List.length_cons]; omega⟩)
  | '"' :: _ => none
  | c :: rest => if c.toNat < 0x20 then none else some (c, ⟨rest, Nat.lt_succ_self _⟩)
  | [] => none

def readChars (s : List Char) : Option (List Char × Rest s) :=
  match s with
  | '"' :: rest => some ([], ⟨rest, Nat.lt_succ_self _⟩)
  | s => do
    let (c, ⟨rest, h⟩) ← readChar s
    let (cs, ⟨rest', h'⟩) ← readChars rest
    return (c :: cs, ⟨rest', Nat.lt_trans h' h⟩)
termination_by s.length

def readString (s : List Char) : Option (String × Rest s) :=
  match s with
  | '"' :: rest => do
    let (cs, ⟨rest', h⟩) ← readChars rest
    return (String.ofList cs, ⟨rest', Nat.lt_succ_of_lt h⟩)
  | _ => none

/-! ## Values -/

namespace Literal

def readNumber (s : List Char) : Option (Literal × Rest s) :=
  match h : Numeral.read s with
  | some (x, rest) => some (.number x, ⟨rest, Numeral.length_read h⟩)
  | none => none

mutual

/-- A value with at most `room` levels of containers. -/
def readValue (room : Nat) (s : List Char) : Option (Literal × Rest s) :=
  match s with
  | 'n' :: 'u' :: 'l' :: 'l' :: rest =>
    some (.null, ⟨rest, by simp only [List.length_cons]; omega⟩)
  | 't' :: 'r' :: 'u' :: 'e' :: rest =>
    some (.bool true, ⟨rest, by simp only [List.length_cons]; omega⟩)
  | 'f' :: 'a' :: 'l' :: 's' :: 'e' :: rest =>
    some (.bool false, ⟨rest, by simp only [List.length_cons]; omega⟩)
  | '"' :: rest => do
    let (text, rest') ← readString ('"' :: rest)
    return (.string text, rest')
  | '[' :: rest =>
    match room with
    | 0 => none
    | room + 1 =>
      match h : skipBlank rest with
      | ']' :: rest' => some (.array [], ⟨rest', by
          have := length_skipBlank_le rest
          simp only [h, List.length_cons] at *
          omega⟩)
      | _ => do
        let (items, ⟨rest', h'⟩) ← readItems room rest
        return (.array items, ⟨rest', Nat.lt_succ_of_lt h'⟩)
  | '{' :: rest =>
    match room with
    | 0 => none
    | room + 1 =>
      match h : skipBlank rest with
      | '}' :: rest' => some (.object [], ⟨rest', by
          have := length_skipBlank_le rest
          simp only [h, List.length_cons] at *
          omega⟩)
      | _ => do
        let (members, ⟨rest', h'⟩) ← readMembers room rest
        return (.object members, ⟨rest', Nat.lt_succ_of_lt h'⟩)
  | s => readNumber s
termination_by 2 * s.length

def readItems (room : Nat) (s : List Char) : Option (List Literal × Rest s) := do
  have h₀ := length_skipBlank_le s
  let (x, ⟨rest, h₁⟩) ← readValue room (skipBlank s)
  have h₂ := length_skipBlank_le rest
  match h : skipBlank rest with
  | ']' :: rest' => some ([x], ⟨rest', by simp only [h, List.length_cons] at *; omega⟩)
  | ',' :: rest' =>
    have h₃ : rest'.length < s.length := by simp only [h, List.length_cons] at *; omega
    let (xs, ⟨rest'', h₄⟩) ← readItems room rest'
    return (x :: xs, ⟨rest'', Nat.lt_trans h₄ h₃⟩)
  | _ => none
termination_by 2 * s.length + 1

def readMembers (room : Nat) (s : List Char) : Option (List (String × Literal) × Rest s) := do
  have h₀ := length_skipBlank_le s
  let (name, ⟨rest, h₁⟩) ← readString (skipBlank s)
  have h₂ := length_skipBlank_le rest
  match h : skipBlank rest with
  | ':' :: rest =>
    have h₃ := length_skipBlank_le rest
    have h₄ : rest.length < s.length := by simp only [h, List.length_cons] at *; omega
    let (x, ⟨rest, h₅⟩) ← readValue room (skipBlank rest)
    have h₆ := length_skipBlank_le rest
    match h : skipBlank rest with
    | '}' :: rest' =>
      some ([(name, x)], ⟨rest', by simp only [h, List.length_cons] at *; omega⟩)
    | ',' :: rest' =>
      have h₇ : rest'.length < s.length := by simp only [h, List.length_cons] at *; omega
      let (members, ⟨rest'', h₈⟩) ← readMembers room rest'
      return ((name, x) :: members, ⟨rest'', Nat.lt_trans h₈ h₇⟩)
    | _ => none
  | _ => none
termination_by 2 * s.length + 1

end

def maxDepth : Nat := 127

def read? (text : String) : Option Literal := do
  let (x, ⟨rest, _⟩) ← readValue maxDepth (skipBlank text.toList)
  if skipBlank rest = [] then some x else none

end Literal

def Json.read? (text : String) : Option Json := do (← Literal.read? text).json?

end QueryFilter
