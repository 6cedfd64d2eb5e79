import QueryFilter.Proofs.Layout

/-!
# Renumbered texts

`renumbered` gives every placeholder in a text a new number, and perhaps the mark of another
dialect. A condition that is numbered from elsewhere, for either dialect, has the renumbered text
(`text_renumbered`). Where no number changes, the marks are all that changes (`layoutChars_marks`).
-/

namespace QueryFilter
open Scanning Placeholders

/-! ## Numbers from elsewhere -/

section Shift

variable {α : Type}

theorem Test.number_again (t : Test α) (j k : Nat) : (t.number j).1.number k = t.number k := by
  cases t <;> rfl

theorem numberEach_again {γ δ : Type} {number : γ → Nat → δ × Nat} {again : δ → Nat → δ × Nat}
    (each : ∀ x j k, again (number x j).1 k = number x k) (xs : List γ) (j k : Nat) :
    numberEach again (numberEach number xs j).1 k = numberEach number xs k := by
  induction xs generalizing j k with
  | nil => rfl
  | cons x rest ih => simp only [numberEach, each, ih]

theorem Predicate.number_again (p : Predicate α) (j k : Nat) :
    (p.number j).1.number k = p.number k := by
  cases p with
  | test t => exact congrArg (fun x => (Predicate.test x.1, x.2)) (t.number_again j k)
  | anyOf t u rest =>
      simp only [Predicate.number, Test.number_again, numberEach_again Test.number_again]
  | between low high => rfl
  | inArray set negated => rfl
  | inList members negated =>
      simp only [Predicate.number, numberEach_numberOne, List.length_range']

theorem Condition.number_again (c : Condition α) (j k : Nat) :
    (c.number j).1.number k = c.number k := by
  cases c with
  | noRows => rfl
  | allRows => rfl
  | on column predicate =>
      exact congrArg (fun x => (Condition.on column x.1, x.2)) (predicate.number_again j k)

/-- The number that stands as far behind `k'` as the given one behind `k`. -/
def shifted (k k' j : Nat) : Nat := k' + (j - k)

theorem range'_shifted (k k' n : Nat) :
    (List.range' k n).map (shifted k k') = List.range' k' n := by
  apply List.ext_getElem
  · simp
  · intro i _ _
    simp [shifted]

theorem range'_moved (k m n : Nat) :
    (List.range' k n).map (· + m) = List.range' (k + m) n := by
  rw [Nat.add_comm k m, ← List.map_add_range']
  exact List.map_congr_left fun j _ => Nat.add_comm j m

/-- A change of numbers that moves each row of numbers from `k` on moves a condition. -/
theorem Condition.number_moved (c : Condition α) {f : Nat → Nat} {k k' : Nat}
    (moves : ∀ n, (List.range' k n).map f = List.range' k' n) :
    (c.number k).1.map f = (c.number k').1 := by
  rw [← c.number_again k' k]
  apply Condition.number_map
  rw [moves, (c.number_operands k').1, List.length_range']

end Shift

/-! ## Renumbered texts -/

def renumber (d d' : Dialect) (f : Nat → Nat) : List Char → List Char
  | [] => []
  | c :: rest =>
    if c = d.mark then
      d'.mark :: Nat.toDigits 10 (f (Nat.ofDigitChars 10 (rest.takeWhile Char.isDigit) 0)) ++
        renumber d d' f (rest.dropWhile Char.isDigit)
    else c :: renumber d d' f rest
termination_by s => s.length
decreasing_by
  · exact Nat.lt_succ_of_le (List.dropWhile_suffix Char.isDigit).length_le
  · exact Nat.lt_succ_self _

/-- The text with each placeholder `k` of the first dialect as placeholder `f k` of the second. -/
def renumbered (d d' : Dialect) (f : Nat → Nat) (text : String) : String :=
  String.ofList (renumber d d' f text.toList)

section Texts

variable {d : Dialect} (d' : Dialect) (f : Nat → Nat)

theorem renumber_unmarked {s : List Char} (unmarked : d.mark ∉ s) (t : List Char) :
    renumber d d' f (s ++ t) = s ++ renumber d d' f t := by
  induction s with
  | nil => rfl
  | cons c rest ih =>
      have other : c ≠ d.mark := fun same => unmarked (same ▸ List.mem_cons_self)
      rw [List.cons_append, renumber, if_neg other, List.cons_append,
        ih fun member => unmarked (List.mem_cons_of_mem c member)]

theorem renumber_place (k : Nat) {t : List Char} (closed : ∀ c ∈ t.head?, c.isDigit = false) :
    renumber d d' f (d.mark :: Nat.toDigits 10 k ++ t) =
      d'.mark :: Nat.toDigits 10 (f k) ++ renumber d d' f t := by
  obtain ⟨number, behind⟩ := digits_closed k closed
  rw [List.cons_append, renumber, if_pos rfl, number, behind, Nat.ofDigitChars_ten_toDigits]

theorem renumber_layout {ps : List (Piece Nat)} (readable : Readable d ps) :
    renumber d d' f (layoutChars d ps) = layoutChars d' (ps.map (Piece.map f)) := by
  induction ps with
  | nil => rw [layoutChars_nil, renumber, List.map_nil, layoutChars_nil]
  | cons p rest ih =>
      obtain ⟨word, place⟩ := p
      obtain ⟨unmarked, closes, others⟩ := readable
      cases place with
      | none =>
          rw [layoutChars_cons, Piece.chars_word, renumber_unmarked d' f unmarked, ih others]
          rfl
      | some k =>
          rw [layoutChars_cons, Piece.chars_place, List.append_assoc,
            renumber_unmarked d' f unmarked, renumber_place d' f k (closes rfl), ih others,
            ← List.append_assoc]
          rfl

theorem text_renumbered {α : Type} (c : Condition α) (d : Dialect) {f : Nat → Nat} {k k' : Nat}
    (moves : ∀ n, (List.range' k n).map f = List.range' k' n) :
    renumbered d d' f ((c.number k).1.text d) = (c.number k').1.text d' := by
  rw [← String.toList_inj, renumbered, String.toList_ofList, Condition.text_chars,
    renumber_layout d' _ ((c.number k).1.pieces_readable d), ← Condition.map_pieces,
    c.number_moved moves, Condition.text_chars]

theorem number_renumbered {α : Type} (c : Condition α) (d d' : Dialect) (k k' : Nat) :
    renumbered d d' (shifted k k') ((c.number k).1.text d) = (c.number k').1.text d' :=
  text_renumbered d' c d (range'_shifted k k')

end Texts

/-! ## Changed marks -/

theorem layoutChars_marks {ps : List (Piece Nat)} {d : Dialect} (readable : Readable d ps)
    (d' : Dialect) :
    layoutChars d' ps = (layoutChars d ps).map fun c => if c = d.mark then d'.mark else c := by
  have kept {s : List Char} (unmarked : d.mark ∉ s) :
      s.map (fun c => if c = d.mark then d'.mark else c) = s := by
    refine (List.map_congr_left fun c member => if_neg ?_).trans (List.map_id' s)
    rintro rfl
    exact unmarked member
  induction ps with
  | nil => rfl
  | cons p rest ih =>
      obtain ⟨word, place⟩ := p
      obtain ⟨unmarked, -, others⟩ := readable
      rw [layoutChars_cons, layoutChars_cons, List.map_append, ih others]
      cases place with
      | none => rw [Piece.chars_word, Piece.chars_word, kept unmarked]
      | some k =>
          rw [Piece.chars_place, Piece.chars_place, List.map_append, kept unmarked, List.map_cons,
            kept (digits_unmarked d k), if_pos rfl]

end QueryFilter
