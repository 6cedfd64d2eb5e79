import QueryFilter.Proofs.Decoding
import QueryFilter.Proofs.Placeholders

/-!
# Layouts

A text is laid out in pieces: words, each perhaps with a place behind it where an operand stands.
Conditions have their layout whatever their operands are (`Condition.pieces`), and their text is the
layout with placeholders in the places (`Condition.text_chars`); so have statements (`build_chars`).
In a `Readable` layout every mark belongs to a place and every number ends where its place ends, so
a mark in the text leads back to the place (`exists_place`).
-/

namespace QueryFilter
open Scanning Placeholders

structure Piece (α : Type) where
  word : String
  place : Option α := none

namespace Piece

def map {α β : Type} (f : α → β) (p : Piece α) : Piece β := ⟨p.word, p.place.map f⟩

def chars (d : Dialect) : Piece Nat → List Char
  | ⟨word, none⟩ => word.toList
  | ⟨word, some k⟩ => word.toList ++ d.mark :: Nat.toDigits 10 k

@[simp] theorem chars_word (d : Dialect) (word : String) : chars d ⟨word, none⟩ = word.toList := rfl

@[simp] theorem chars_place (d : Dialect) (word : String) (k : Nat) :
    chars d ⟨word, some k⟩ = word.toList ++ d.mark :: Nat.toDigits 10 k := rfl

end Piece

def layoutChars (d : Dialect) (ps : List (Piece Nat)) : List Char := ps.flatMap (Piece.chars d)

@[simp] theorem layoutChars_nil (d : Dialect) : layoutChars d [] = [] := rfl

@[simp] theorem layoutChars_cons (d : Dialect) (p : Piece Nat) (ps : List (Piece Nat)) :
    layoutChars d (p :: ps) = p.chars d ++ layoutChars d ps := rfl

@[simp] theorem layoutChars_append (d : Dialect) (ps qs : List (Piece Nat)) :
    layoutChars d (ps ++ qs) = layoutChars d ps ++ layoutChars d qs := List.flatMap_append

/-! ## Layouts of conditions -/

section Pieces

variable {α : Type}

def Test.pieces (column : String) : Test α → List (Piece α)
  | .compare .startsWith x => [⟨column ++ " LIKE ", some x⟩, ⟨" || '%'", none⟩]
  | .compare .endsWith x => [⟨column ++ " LIKE '%' || ", some x⟩]
  | .compare .contains x => [⟨column ++ " LIKE '%' || ", some x⟩, ⟨" || '%'", none⟩]
  | .compare op x => [⟨column ++ (" " ++ op.symbol ++ " "), some x⟩]
  | .null false => [⟨column ++ " IS NULL", none⟩]
  | .null true => [⟨column ++ " IS NOT NULL", none⟩]

def separated (separator : String) : List (List (Piece α)) → List (Piece α)
  | [] => []
  | [row] => row
  | row :: next :: rest => row ++ ⟨separator, none⟩ :: separated separator (next :: rest)

def Predicate.pieces (column : String) : Predicate α → List (Piece α)
  | .test t => t.pieces column
  | .anyOf t u rest =>
    ⟨"(", none⟩ :: separated " OR " ((t :: u :: rest).map (Test.pieces column)) ++ [⟨")", none⟩]
  | .between low high => [⟨column ++ " BETWEEN ", some low⟩, ⟨" AND ", some high⟩]
  | .inArray set false => [⟨column ++ " = ANY(", some set⟩, ⟨")", none⟩]
  | .inArray set true => [⟨column ++ " != ALL(", some set⟩, ⟨")", none⟩]
  | .inList members false =>
    ⟨column ++ " IN (", none⟩ :: separated ", " (members.map fun x => [⟨"", some x⟩]) ++
      [⟨")", none⟩]
  | .inList members true =>
    ⟨column ++ " NOT IN (", none⟩ :: separated ", " (members.map fun x => [⟨"", some x⟩]) ++
      [⟨")", none⟩]

def Condition.pieces : Condition α → List (Piece α)
  | .noRows => [⟨"1=0", none⟩]
  | .allRows => [⟨"1=1", none⟩]
  | .on column predicate => predicate.pieces column.text

end Pieces

/-! ## Texts of layouts -/

section Texts

variable {α : Type} (d : Dialect)

theorem layoutChars_separated (separator : String) (rows : List (List (Piece Nat))) :
    layoutChars d (separated separator rows) =
      separator.toList.intercalate (rows.map (layoutChars d)) := by
  induction rows with
  | nil => rfl
  | cons row rest ih =>
      cases rest with
      | nil => rw [separated, List.map_singleton, List.intercalate_singleton]
      | cons next rest =>
          rw [separated, layoutChars_append, layoutChars_cons, Piece.chars_word, ih, List.map_cons,
            List.map_cons, List.map_cons, List.intercalate_cons_cons, List.append_assoc]

/-- A text in words and placeholders is laid out word by word. -/
theorem toList_intercalate_map {text : α → String} {pieces : α → List (Piece Nat)}
    (each : ∀ x, (text x).toList = layoutChars d (pieces x)) (separator : String) (xs : List α) :
    (separator.intercalate (xs.map text)).toList =
      layoutChars d (separated separator (xs.map pieces)) := by
  have rows : (xs.map text).map String.toList = (xs.map pieces).map (layoutChars d) := by
    rw [List.map_map, List.map_map]
    exact List.map_congr_left fun x _ => each x
  rw [String.toList_intercalate, layoutChars_separated, rows]

theorem Test.text_chars (column : String) (t : Test Nat) :
    (t.text d column).toList = layoutChars d (t.pieces column) := by
  cases t with
  | null negated => cases negated <;> simp [Test.text, Test.pieces]
  | compare op k => cases op <;> simp [Test.text, Test.pieces, Dialect.placeholder]

theorem Predicate.text_chars (column : String) (p : Predicate Nat) :
    (p.text d column).toList = layoutChars d (p.pieces column) := by
  cases p with
  | test t => exact t.text_chars d column
  | anyOf t u rest =>
      have group := toList_intercalate_map d (fun v => v.text_chars d column) " OR "
        (t :: u :: rest)
      rw [Predicate.text, String.toList_append, String.toList_append, group]
      simp [Predicate.pieces]
  | between low high => simp [Predicate.text, Predicate.pieces, Dialect.placeholder]
  | inArray set negated =>
      cases negated <;> simp [Predicate.text, Predicate.pieces, Dialect.placeholder]
  | inList members negated =>
      have place (k : Nat) : (d.placeholder k).toList = layoutChars d [⟨"", some k⟩] := by
        simp [Dialect.placeholder]
      have list := toList_intercalate_map d place ", " members
      cases negated <;> simp only [Predicate.text, String.toList_append, list] <;>
        simp [Predicate.pieces]

theorem Condition.text_chars (c : Condition Nat) :
    (c.text d).toList = layoutChars d c.pieces := by
  cases c with
  | noRows => simp [Condition.text, Condition.pieces]
  | allRows => simp [Condition.text, Condition.pieces]
  | on column predicate => exact predicate.text_chars d column.text

end Texts

/-! ## Operands of layouts -/

section Mapped

variable {α β : Type} (f : α → β)

theorem separated_map (separator : String) (rows : List (List (Piece α))) :
    (separated separator rows).map (Piece.map f) =
      separated separator (rows.map (List.map (Piece.map f))) := by
  induction rows with
  | nil => rfl
  | cons row rest ih =>
      cases rest with
      | nil => rfl
      | cons next rest =>
          rw [separated, List.map_append, List.map_cons, ih]
          rfl

theorem Test.map_pieces (column : String) (t : Test α) :
    (t.map f).pieces column = (t.pieces column).map (Piece.map f) := by
  cases t with
  | null negated => cases negated <;> rfl
  | compare op x => cases op <;> rfl

theorem Predicate.map_pieces (column : String) (p : Predicate α) :
    (p.map f).pieces column = (p.pieces column).map (Piece.map f) := by
  cases p with
  | test t => exact t.map_pieces f column
  | anyOf t u rest =>
      have tests : (((t :: u :: rest).map (Test.map f)).map (Test.pieces column)) =
          ((t :: u :: rest).map (Test.pieces column)).map (List.map (Piece.map f)) := by
        rw [List.map_map, List.map_map]
        exact List.map_congr_left fun v _ => v.map_pieces f column
      rw [Predicate.pieces, List.map_append, List.map_cons, separated_map, ← tests]
      rfl
  | between low high => rfl
  | inArray set negated => cases negated <;> rfl
  | inList members negated =>
      cases negated <;> rw [Predicate.pieces, List.map_append, List.map_cons, separated_map,
        List.map_map, Predicate.map, Predicate.pieces, List.map_map] <;> rfl

theorem Condition.map_pieces (c : Condition α) : (c.map f).pieces = c.pieces.map (Piece.map f) := by
  cases c with
  | noRows => rfl
  | allRows => rfl
  | on column predicate => exact predicate.map_pieces f column.text

end Mapped

/-! ## Separated layouts -/

section Separated

variable {α : Type} {separator : String} {rows : List (List (Piece α))}

theorem forall_mem_separated {holds : Piece α → Prop} (own : holds ⟨separator, none⟩)
    (each : ∀ row ∈ rows, ∀ p ∈ row, holds p) : ∀ p ∈ separated separator rows, holds p := by
  induction rows with
  | nil => exact List.forall_mem_nil _
  | cons row rest ih =>
      obtain ⟨first, others⟩ := List.forall_mem_cons.1 each
      cases rest with
      | nil => exact first
      | cons next rest =>
          exact List.forall_mem_append.2 ⟨first, List.forall_mem_cons.2 ⟨own, ih others⟩⟩

theorem infix_separated {row : List (Piece α)} (member : row ∈ rows) :
    row <:+: separated separator rows := by
  induction rows with
  | nil => cases member
  | cons first rest ih =>
      cases rest with
      | nil =>
          cases List.mem_singleton.1 member
          exact List.infix_refl _
      | cons next rest =>
          rcases List.mem_cons.1 member with rfl | later
          · exact (List.prefix_append _ _).isInfix
          · exact (ih later).trans
              ((List.suffix_cons _ _).trans (List.suffix_append _ _)).isInfix

end Separated

/-! ## Layouts of statements -/

namespace Select

def wherePieces : List (Condition Nat) → List (Piece Nat)
  | [] => []
  | cs => ⟨" WHERE ", none⟩ :: separated " AND " (cs.map Condition.pieces)

def pieces (q : Select) : List (Piece Nat) :=
  ⟨q.headText, none⟩ :: wherePieces (numbered q.conditions 1)

theorem whereText_chars (d : Dialect) (cs : List (Condition Nat)) :
    (whereText (cs.map (Condition.text d))).toList = layoutChars d (wherePieces cs) := by
  cases cs with
  | nil => rfl
  | cons c rest =>
      have list := toList_intercalate_map d (Condition.text_chars d) " AND " (c :: rest)
      change (" WHERE " ++ " AND ".intercalate ((c :: rest).map (Condition.text d))).toList = _
      rw [String.toList_append, list]
      rfl

theorem build_chars (q : Select) : q.build.sql.toList = layoutChars q.dialect q.pieces := by
  rw [build_eq]
  change (q.headText ++ whereText _).toList = _
  rw [String.toList_append, whereText_chars]
  rfl

end Select

/-! ## Readable layouts -/

section Readable

/-- What stands before `ps` may end in a number. -/
def Closed (d : Dialect) (ps : List (Piece Nat)) : Prop :=
  ∀ c ∈ (layoutChars d ps).head?, c.isDigit = false

/-- Marks stand in places only, and the text behind a place does not continue its number. -/
def Readable (d : Dialect) : List (Piece Nat) → Prop
  | [] => True
  | p :: rest => Unmarked d p.word ∧ (p.place.isSome → Closed d rest) ∧ Readable d rest

/-- A piece that may stand behind any place. -/
structure Piece.Fits (d : Dialect) (p : Piece Nat) : Prop where
  unmarked : Unmarked d p.word
  opens : Closes p.word

variable {d : Dialect} {ps qs : List (Piece Nat)}

theorem Closed.append (front : Closed d ps) (back : Closed d qs) : Closed d (ps ++ qs) := by
  intro c head
  rw [layoutChars_append, List.head?_append] at head
  cases first : (layoutChars d ps).head? with
  | none =>
      rw [first] at head
      exact back c head
  | some x =>
      rw [first] at head
      exact front c (first.trans head)

theorem Readable.append (front : Readable d ps) (back : Readable d qs) (closed : Closed d qs) :
    Readable d (ps ++ qs) := by
  induction ps with
  | nil => exact back
  | cons p rest ih =>
      obtain ⟨unmarked, closes, others⟩ := front
      exact ⟨unmarked, fun place => (closes place).append closed, ih others⟩

theorem Piece.Fits.closed {p : Piece Nat} (fits : p.Fits d) : Closed d [p] := by
  obtain ⟨word, place⟩ := p
  intro c head
  rw [layoutChars_cons, layoutChars_nil, List.append_nil] at head
  cases place with
  | none => exact fits.opens c head
  | some k =>
      rw [Piece.chars_place, List.head?_append] at head
      cases first : word.toList.head? with
      | none =>
          rw [first] at head
          cases head
          cases d <;> rfl
      | some x =>
          rw [first] at head
          exact fits.opens c (first.trans head)

theorem readable_of_fits (fits : ∀ p ∈ ps, p.Fits d) : Readable d ps ∧ Closed d ps := by
  induction ps with
  | nil => exact ⟨trivial, nofun⟩
  | cons p rest ih =>
      obtain ⟨first, others⟩ := List.forall_mem_cons.1 fits
      obtain ⟨readable, closed⟩ := ih others
      exact ⟨⟨first.unmarked, fun _ => closed, readable⟩, first.closed.append closed⟩

theorem fits_word {word : String} (free : '$' ∉ word.toList ∧ '?' ∉ word.toList)
    (opens : Closes word) (place : Option Nat) : Piece.Fits d ⟨word, place⟩ :=
  ⟨.of_both free, opens⟩

theorem fits_column (id : Identifier) {word : String} (unmarked : Unmarked d word)
    (place : Option Nat) : Piece.Fits d ⟨id.text ++ word, place⟩ := by
  have nonempty : id.text ≠ "" := by
    obtain ⟨c, rest, chars, -⟩ := id.toList_eq
    rintro empty
    rw [empty] at chars
    cases chars
  exact ⟨(identifier_unmarked d id).append unmarked, (identifier_closes id).append nonempty word⟩

theorem fits_pair {p q : Piece Nat} (first : p.Fits d) (second : q.Fits d) :
    ∀ r ∈ [p, q], r.Fits d := List.forall_mem_cons.2 ⟨first, List.forall_mem_singleton.2 second⟩

theorem Test.pieces_fit (id : Identifier) (t : Test Nat) : ∀ p ∈ t.pieces id.text, p.Fits d := by
  have openEnd : Piece.Fits d ⟨" || '%'", none⟩ := fits_word (by decide) (by decide) none
  have symbol (op : Comparison) : Unmarked d (" " ++ op.symbol ++ " ") :=
    (Unmarked.append (.of_both (by decide)) (symbol_unmarked d op)).append (.of_both (by decide))
  have column {word : String} (free : '$' ∉ word.toList ∧ '?' ∉ word.toList) (k : Option Nat) :
      Piece.Fits d ⟨id.text ++ word, k⟩ := fits_column id (.of_both free) k
  cases t with
  | null negated =>
      cases negated <;> exact List.forall_mem_singleton.2 (column (by decide) none)
  | compare op k =>
      have single := List.forall_mem_singleton.2 (fits_column id (symbol op) (some k))
      cases op with
      | startsWith => exact fits_pair (column (by decide) _) openEnd
      | endsWith => exact List.forall_mem_singleton.2 (column (by decide) _)
      | contains => exact fits_pair (column (by decide) _) openEnd
      | _ => exact single

theorem Predicate.pieces_fit (id : Identifier) (p : Predicate Nat) :
    ∀ r ∈ p.pieces id.text, r.Fits d := by
  have column {word : String} (free : '$' ∉ word.toList ∧ '?' ∉ word.toList) (k : Option Nat) :
      Piece.Fits d ⟨id.text ++ word, k⟩ := fits_column id (.of_both free) k
  have word {w : String} (free : '$' ∉ w.toList ∧ '?' ∉ w.toList) (opens : Closes w)
      (k : Option Nat) : Piece.Fits d ⟨w, k⟩ := fits_word free opens k
  have last : ∀ r ∈ [(⟨")", none⟩ : Piece Nat)], r.Fits d :=
    List.forall_mem_singleton.2 (word (by decide) (by decide) none)
  cases p with
  | test t => exact t.pieces_fit id
  | anyOf t u rest =>
      have tests : ∀ row ∈ (t :: u :: rest).map (Test.pieces id.text), ∀ r ∈ row, r.Fits d :=
        List.forall_mem_map.2 fun v _ => v.pieces_fit id
      have group := forall_mem_separated (word (w := " OR ") (by decide) (by decide) none) tests
      exact List.forall_mem_append.2
        ⟨List.forall_mem_cons.2 ⟨word (by decide) (by decide) none, group⟩, last⟩
  | between low high => exact fits_pair (column (by decide) _) (word (by decide) (by decide) _)
  | inArray set negated =>
      cases negated <;> exact List.forall_mem_cons.2 ⟨column (by decide) _, last⟩
  | inList members negated =>
      have places : ∀ row ∈ members.map fun k => [(⟨"", some k⟩ : Piece Nat)],
          ∀ r ∈ row, r.Fits d := List.forall_mem_map.2 fun k _ =>
        List.forall_mem_singleton.2 (word (by decide) (by decide) _)
      have list := forall_mem_separated (word (w := ", ") (by decide) (by decide) none) places
      cases negated <;> exact List.forall_mem_append.2
        ⟨List.forall_mem_cons.2 ⟨column (by decide) _, list⟩, last⟩

theorem Condition.pieces_readable (d : Dialect) (c : Condition Nat) : Readable d c.pieces := by
  -- The constants are the only words that start with a digit; nothing stands before them.
  have constant {word : String} (free : '$' ∉ word.toList ∧ '?' ∉ word.toList) :
      Readable d [⟨word, none⟩] := ⟨.of_both free, nofun, trivial⟩
  cases c with
  | noRows => exact constant (by decide)
  | allRows => exact constant (by decide)
  | on column predicate => exact (readable_of_fits (predicate.pieces_fit column)).1

theorem readable_separated {separator : String} {rows : List (List (Piece Nat))}
    (free : '$' ∉ separator.toList ∧ '?' ∉ separator.toList) (opens : Closes separator)
    (nonempty : separator ≠ "") (each : ∀ row ∈ rows, Readable d row) :
    Readable d (separated separator rows) := by
  induction rows with
  | nil => trivial
  | cons row rest ih =>
      obtain ⟨first, others⟩ := List.forall_mem_cons.1 each
      cases rest with
      | nil => exact first
      | cons next rest =>
          refine first.append ⟨.of_both free, nofun, ih others⟩ ?_
          intro c head
          rw [layoutChars_cons, Piece.chars_word, ← String.toList_ofList (l := layoutChars _ _),
            ← String.toList_append] at head
          exact opens.append nonempty _ c head

theorem unmarked_of_carries {text : String} (carries : Carries d text []) : Unmarked d text := by
  unfold Carries at carries
  unfold Unmarked
  generalize text.toList = chars at carries ⊢
  induction chars with
  | nil => exact List.not_mem_nil
  | cons c rest ih =>
      rw [placeholdersIn] at carries
      split at carries
      · cases carries
      · rename_i other
        exact List.not_mem_cons_of_ne_of_not_mem (Ne.symm other) (ih carries)

theorem Select.pieces_readable (q : Select) : Readable q.dialect q.pieces := by
  refine ⟨unmarked_of_carries (headText_carries q), nofun, ?_⟩
  cases numbered q.conditions 1 with
  | nil => trivial
  | cons c rest =>
      refine ⟨.of_both (by decide), nofun,
        readable_separated (by decide) (by decide) (by decide) ?_⟩
      exact List.forall_mem_map.2 fun x _ => x.pieces_readable q.dialect

/-- A number ends where what follows does not continue it. -/
theorem digits_closed (k : Nat) {t : List Char} (closed : ∀ c ∈ t.head?, c.isDigit = false) :
    (Nat.toDigits 10 k ++ t).takeWhile Char.isDigit = Nat.toDigits 10 k ∧
      (Nat.toDigits 10 k ++ t).dropWhile Char.isDigit = t := by
  have digits : ∀ c ∈ Nat.toDigits 10 k, c.isDigit = true := fun _ => isDigit_of_mem
  rw [List.takeWhile_append_of_pos digits, List.dropWhile_append_of_pos digits]
  cases t with
  | nil => simp
  | cons c rest => simp [closed c rfl]

theorem append_eq_of_unmarked {mark : Char} {s t before behind : List Char} (unmarked : mark ∉ s)
    (same : s ++ t = before ++ mark :: behind) :
    ∃ between, before = s ++ between ∧ t = between ++ mark :: behind := by
  rcases List.append_eq_append_iff.1 same with found | ⟨tail, rfl, rest⟩
  · exact found
  · cases tail with
    | nil => exact ⟨[], by simp, rest.symm⟩
    | cons c tail =>
        cases (List.cons.inj rest).1
        exact absurd (List.mem_append_right before List.mem_cons_self) unmarked

/-- A mark in the text stands in a place. -/
theorem exists_place (readable : Readable d ps) {before behind : List Char}
    (text : layoutChars d ps = before ++ d.mark :: behind) :
    ∃ front word k rest, ps = front ++ ⟨word, some k⟩ :: rest ∧
      before = layoutChars d front ++ word.toList ∧
      behind = Nat.toDigits 10 k ++ layoutChars d rest ∧ Closed d rest := by
  induction ps generalizing before with
  | nil => simp at text
  | cons p rest ih =>
      obtain ⟨word, place⟩ := p
      obtain ⟨unmarked, closes, others⟩ := readable
      have later {between : List Char} (text : layoutChars d rest = between ++ d.mark :: behind)
          (whole : before = Piece.chars d ⟨word, place⟩ ++ between) :
          ∃ front word' k rest', (⟨word, place⟩ : Piece Nat) :: rest =
            front ++ ⟨word', some k⟩ :: rest' ∧ before = layoutChars d front ++ word'.toList ∧
            behind = Nat.toDigits 10 k ++ layoutChars d rest' ∧ Closed d rest' := by
        obtain ⟨front, word', k, rest', rfl, rfl, found⟩ := ih others text
        exact ⟨⟨word, place⟩ :: front, word', k, rest', rfl, by simp [whole], found⟩
      cases place with
      | none =>
          obtain ⟨between, rfl, tail⟩ := append_eq_of_unmarked unmarked text
          exact later tail rfl
      | some k =>
          rw [layoutChars_cons, Piece.chars_place, List.append_assoc] at text
          obtain ⟨between, rfl, tail⟩ := append_eq_of_unmarked unmarked text
          cases between with
          | nil =>
              refine ⟨[], word, k, rest, rfl, by simp, ?_, closes rfl⟩
              exact (List.cons.inj tail).2.symm
          | cons c between =>
              obtain ⟨rfl, behindMark⟩ := List.cons.inj tail
              obtain ⟨between, rfl, inRest⟩ :=
                append_eq_of_unmarked (digits_unmarked d k) behindMark
              exact later inRest (by simp)

end Readable
end QueryFilter
