import QueryFilter.Json.Numeral
import QueryFilter.Proofs.Layout

/-!
# Integers as they are spelled

A numeral `Spells` an integer if its text is the decimal representation of it (`spells_iff`); so
`-0`, and whatever has a fraction or an exponent, spells none. `value?_spells` says which of the
integers stand for themselves.
-/

namespace QueryFilter

/-! ## Digits -/

def digitChars (ds : List Digit) : List Char := ds.map fun d => Nat.digitChar d.val

theorem digit?_char {c : Char} {d : Digit} (digit : digit? c = some d) :
    c = Nat.digitChar d.val := by
  unfold digit? at digit
  split at digit
  · rename_i isDigit
    cases digit
    have range : 48 ≤ c.toNat ∧ c.toNat ≤ 57 := Char.isDigit_iff_toNat.1 isDigit
    have zero : '0'.toNat = 48 := rfl
    apply Char.toNat_inj.1
    rw [Nat.toNat_digitChar_of_lt_ten (Fin.isLt _), Fin.val_ofNat, zero]
    omega
  · cases digit

theorem takeDigits_text (s : List Char) : s = digitChars (takeDigits s).1 ++ (takeDigits s).2 := by
  induction s with
  | nil => rfl
  | cons c rest ih =>
      unfold takeDigits
      split
      · rename_i d digit
        exact congrArg₂ List.cons (digit?_char digit) ih
      · rfl

/-- Digits behind a number that has no leading zero are the last digits of a larger one. -/
theorem toDigits_foldl {n : Nat} (positive : 0 < n) (ds : List Digit) :
    Nat.toDigits 10 (ds.foldl (fun n (d : Digit) => 10 * n + d.val) n) =
      Nat.toDigits 10 n ++ digitChars ds := by
  induction ds generalizing n with
  | nil => exact (List.append_nil _).symm
  | cons d rest ih =>
      have last := Nat.toDigits_append_toDigits (b := 10) (by decide) positive d.isLt
      rw [Nat.toDigits_of_lt_base d.isLt] at last
      rw [List.foldl_cons, ih (by omega), ← last, List.append_assoc]
      rfl

theorem toDigits_ofDigits {d : Digit} (ds : List Digit) (leading : d ≠ 0) :
    Nat.toDigits 10 (ofDigits (d :: ds)) = digitChars (d :: ds) := by
  have positive : 0 < 10 * 0 + d.val := by
    have := Fin.val_ne_zero_iff.2 leading
    omega
  rw [ofDigits, List.foldl_cons, toDigits_foldl positive, Nat.mul_zero, Nat.zero_add,
    Nat.toDigits_of_lt_base d.isLt]
  rfl

/-! ## The text of a numeral -/

namespace Numeral

theorem takeSomeDigits?_text {s rest : List Char} {ds : List Digit}
    (read : takeSomeDigits? s = some (ds, rest)) :
    ∃ d ds', ds = d :: ds' ∧ s = digitChars ds ++ rest := by
  have text := takeDigits_text s
  unfold takeSomeDigits? at read
  split at read
  · cases read
  · rename_i d ds' rest' taken
    cases read
    rw [taken] at text
    exact ⟨d, ds', rfl, text⟩

theorem readWhole_text {s rest : List Char} {ds : List Digit}
    (read : readWhole s = some (ds, rest)) : s = Nat.toDigits 10 (ofDigits ds) ++ rest := by
  unfold readWhole at read
  split at read
  · cases read
    rfl
  · -- What is not a zero on its own does not begin with one.
    rename_i unzero
    obtain ⟨d, ds', rfl, text⟩ := takeSomeDigits?_text read
    have leading : d ≠ 0 := by
      rintro rfl
      exact unzero _ text
    rw [toDigits_ofDigits ds' leading]
    exact text

/-- What stands behind the whole part: nothing, or a text that no digit begins. -/
structure Tail (tail : List Char) (absent : Prop) : Prop where
  empty : tail = [] ↔ absent
  closed : ∀ c ∈ tail.head?, c.isDigit = false

theorem readFraction_text {s rest : List Char} {ds : List Digit}
    (read : readFraction s = some (ds, rest)) : ∃ tail, s = tail ++ rest ∧ Tail tail (ds = []) := by
  unfold readFraction at read
  split at read
  · obtain ⟨d, ds', rfl, text⟩ := takeSomeDigits?_text read
    exact ⟨'.' :: digitChars (d :: ds'), congrArg _ text, iff_of_false nofun nofun,
      fun c head => Option.some.inj head ▸ rfl⟩
  · cases read
    exact ⟨[], rfl, iff_of_true rfl rfl, nofun⟩

theorem readPower_text {s rest : List Char} {n : Int} (read : readPower s = some (n, rest)) :
    ∃ power, s = power ++ rest := by
  unfold readPower at read
  split at read
  all_goals
    obtain ⟨⟨ds, rest'⟩, taken, same⟩ := Option.map_eq_some_iff.1 read
    cases same
    obtain ⟨-, -, -, text⟩ := takeSomeDigits?_text taken
  · exact ⟨'-' :: digitChars ds, congrArg _ text⟩
  · exact ⟨'+' :: digitChars ds, congrArg _ text⟩
  · exact ⟨digitChars ds, text⟩

theorem readExponent_text {s rest : List Char} {n : Option Int}
    (read : readExponent s = some (n, rest)) :
    ∃ tail, s = tail ++ rest ∧ Tail tail (n = none) := by
  have marked (mark : Char) (unmarked : mark.isDigit = false) {s : List Char} {m : Int}
      (power : readPower s = some (m, rest)) :
      ∃ tail, mark :: s = tail ++ rest ∧ Tail tail (some m = none) := by
    obtain ⟨tail, rfl⟩ := readPower_text power
    exact ⟨mark :: tail, rfl, iff_of_false nofun nofun,
      fun c head => Option.some.inj head ▸ unmarked⟩
  unfold readExponent at read
  split at read
  · obtain ⟨_, power, same⟩ := Option.map_eq_some_iff.1 read
    cases same
    exact marked 'e' rfl power
  · obtain ⟨_, power, same⟩ := Option.map_eq_some_iff.1 read
    cases same
    exact marked 'E' rfl power
  · cases read
    exact ⟨[], rfl, iff_of_true rfl rfl, nofun⟩

/-- The sign in front of a magnitude. -/
def sign (negative : Bool) : List Char := if negative then ['-'] else []

theorem Tail.append {s t : List Char} {p q : Prop} (front : Tail s p) (back : Tail t q) :
    Tail (s ++ t) (p ∧ q) where
  empty := by rw [List.append_eq_nil_iff, front.empty, back.empty]
  closed := by
    cases s with
    | nil => exact back.closed
    | cons c rest => exact front.closed

theorem readMagnitude_text {negative : Bool} {s rest : List Char} {x : Numeral}
    (read : readMagnitude negative s = some (x, rest)) : x.negative = negative ∧
      ∃ tail, s = Nat.toDigits 10 (ofDigits x.whole) ++ (tail ++ rest) ∧
        Tail tail (x.fraction = [] ∧ x.exponent = none) := by
  unfold readMagnitude at read
  simp only [Option.bind_eq_bind, Option.bind_eq_some_iff, Option.pure_def, Option.some.injEq,
    Prod.mk.injEq, Prod.exists] at read
  obtain ⟨whole, s₁, first, fraction, s₂, second, exponent, s₃, third, rfl, rfl⟩ := read
  obtain ⟨tail, rfl, front⟩ := readFraction_text second
  obtain ⟨tail', rfl, back⟩ := readExponent_text third
  refine ⟨rfl, tail ++ tail', ?_, front.append back⟩
  rw [List.append_assoc]
  exact readWhole_text first

theorem read_text {s rest : List Char} {x : Numeral} (taken : read s = some (x, rest)) :
    ∃ tail, s = sign x.negative ++ Nat.toDigits 10 (ofDigits x.whole) ++ tail ++ rest ∧
      Tail tail (x.fraction = [] ∧ x.exponent = none) := by
  unfold read at taken
  split at taken
  all_goals
    obtain ⟨negative, tail, text, behind⟩ := readMagnitude_text taken
    refine ⟨tail, ?_, behind⟩
    rw [negative, text, List.append_assoc, List.append_assoc]
    rfl

/-! ## Integers -/

/-- Neither fraction nor exponent, and a sign only in front of what is less than zero. -/
structure Spells (x : Numeral) (n : Int) : Prop where
  fraction : x.fraction = []
  exponent : x.exponent = none
  negative : x.negative = decide (n < 0)
  whole : ofDigits x.whole = n.natAbs

theorem toString_signed (n : Int) :
    (toString n).toList = sign (n < 0) ++ Nat.toDigits 10 n.natAbs := by
  have digits (k : Nat) : (toString k).toList = Nat.toDigits 10 k := Nat.toList_repr
  cases n with
  | ofNat k => exact digits k
  | negSucc k =>
      change ("-" ++ toString (k + 1)).toList = _
      rw [String.toList_append, digits, decide_eq_true (Int.negSucc_lt_zero k)]
      rfl

theorem signed_injective {a b : Bool} {k m : Nat} {t : List Char}
    (closed : ∀ c ∈ t.head?, c.isDigit = false)
    (same : sign a ++ Nat.toDigits 10 k ++ t = sign b ++ Nat.toDigits 10 m) :
    a = b ∧ k = m ∧ t = [] := by
  -- A representation begins with a digit, so signs can only meet signs.
  have unsigned {k : Nat} {u v : List Char} : '-' :: u ≠ Nat.toDigits 10 k ++ v := by
    intro same
    obtain ⟨c, cs, whole⟩ := List.exists_cons_of_ne_nil (Nat.toDigits_ne_nil (b := 10) (n := k))
    have digit : c.isDigit = true := Scanning.isDigit_of_mem (whole ▸ List.mem_cons_self)
    rw [whole] at same
    cases (List.cons.inj same).1
    cases digit
  -- Both numbers end where no digit follows.
  have digits (same : Nat.toDigits 10 k ++ t = Nat.toDigits 10 m) : k = m ∧ t = [] := by
    obtain ⟨number, behind⟩ := digits_closed k closed
    obtain ⟨number', behind'⟩ := digits_closed m (t := []) nofun
    rw [same, ← List.append_nil (Nat.toDigits 10 m)] at number behind
    have value := congrArg (Nat.ofDigitChars 10 · 0) (number'.symm.trans number)
    rw [Nat.ofDigitChars_ten_toDigits, Nat.ofDigitChars_ten_toDigits] at value
    exact ⟨value.symm, behind.symm.trans behind'⟩
  cases a <;> cases b
  · exact ⟨rfl, digits same⟩
  · exact absurd same.symm unsigned
  · exact absurd (same.trans (List.append_nil _).symm) unsigned
  · exact ⟨rfl, digits (List.cons.inj same).2⟩

/-- An integer is spelled by its decimal representation, and by nothing else. -/
theorem spells_iff {s rest : List Char} {x : Numeral} {n : Int}
    (taken : read s = some (x, rest)) : x.Spells n ↔ s = (toString n).toList ++ rest := by
  obtain ⟨tail, rfl, behind⟩ := read_text taken
  rw [List.append_cancel_right_eq, toString_signed]
  constructor
  · intro spells
    rw [behind.empty.2 ⟨spells.fraction, spells.exponent⟩, List.append_nil, spells.negative,
      spells.whole]
  · intro same
    obtain ⟨negative, whole, none⟩ := signed_injective behind.closed same
    obtain ⟨fraction, exponent⟩ := behind.empty.1 none
    exact ⟨fraction, exponent, negative, whole⟩

theorem integer?_spells {x : Numeral} {n : Int} (spells : x.Spells n) :
    x.integer? = if -Int.pow 2 63 ≤ n ∧ n < Int.pow 2 64 then some n else none := by
  have bounds : Nat.pow 2 63 = 9223372036854775808 ∧ Nat.pow 2 64 = 18446744073709551616 ∧
      Int.pow 2 63 = 9223372036854775808 ∧ Int.pow 2 64 = 18446744073709551616 :=
    ⟨rfl, rfl, rfl, rfl⟩
  have plain : ¬ (x.fraction ≠ [] ∨ x.exponent.isSome) := by
    rw [spells.fraction, spells.exponent]
    simp
  unfold integer?
  rw [if_neg plain, spells.negative, spells.whole]
  by_cases below : n < 0
  · rw [if_pos (decide_eq_true below), show -(n.natAbs : Int) = n by omega]
    exact if_congr (by omega) rfl rfl
  · rw [if_neg (by simpa using below), show (n.natAbs : Int) = n by omega]
    exact if_congr (by omega) rfl rfl

theorem spells_of_integer? {x : Numeral} {n : Int} (integer : x.integer? = some n) :
    x.Spells n := by
  unfold integer? at integer
  dsimp only at integer
  split at integer
  · cases integer
  · rename_i plain
    obtain ⟨fraction, exponent⟩ := not_or.1 plain
    have fraction : x.fraction = [] := not_not.1 fraction
    have exponent : x.exponent = none := Option.not_isSome_iff_eq_none.1 exponent
    split at integer
    · rename_i negative
      split at integer
      · rename_i range
        cases integer
        exact ⟨fraction, exponent, negative.trans (decide_eq_true (by omega)).symm, by omega⟩
      · cases integer
    · rename_i unsigned
      split at integer
      · cases integer
        have natural : x.negative = false := Bool.eq_false_iff.2 unsigned
        exact ⟨fraction, exponent, natural.trans (decide_eq_false (by omega)).symm, by omega⟩
      · cases integer

/-- An integer stands for itself from the least signed to the greatest unsigned 64-bit word. -/
theorem value?_spells {x : Numeral} {n : Int} (spells : x.Spells n) :
    x.value? = if -Int.pow 2 63 ≤ n ∧ n < Int.pow 2 64 then some (.integer n)
      else x.float?.map .float := by
  unfold value?
  rw [integer?_spells spells]
  by_cases range : -Int.pow 2 63 ≤ n ∧ n < Int.pow 2 64
  · rw [if_pos range, if_pos range]
  · rw [if_neg range, if_neg range]

end Numeral
end QueryFilter
