import QueryFilter.Json

/-!
# Numbers as they are spelled

`Numeral` keeps the digits of a number in a document, `Numeral.read` takes one off a text, and
`Numeral.value?` says which number it stands for:

* without fraction and exponent, an integer that fits an unsigned 64-bit word, or with a minus sign
  a signed one, stands for itself (`Numeral.integer?`); `-0` is left to the floats;
* every other numeral stands for a float. Digits count as long as they fit a 64-bit word; the digits
  after those only move the point. A magnitude out of range stands for nothing.
-/

namespace QueryFilter

abbrev Digit := Fin 10

def digit? (c : Char) : Option Digit :=
  if c.isDigit then some (Fin.ofNat 10 (c.toNat - '0'.toNat)) else none

def takeDigits : List Char → List Digit × List Char
  | [] => ([], [])
  | c :: rest =>
    match digit? c with
    | some d => (d :: (takeDigits rest).1, (takeDigits rest).2)
    | none => ([], c :: rest)

def ofDigits (digits : List Digit) : Nat := digits.foldl (fun n (d : Digit) => 10 * n + d.val) 0

structure Numeral where
  negative : Bool
  whole : List Digit
  fraction : List Digit := []
  exponent : Option Int := none
  deriving DecidableEq

namespace Numeral

/-! ## Reading -/

/-- No digits where at least one has to stand. -/
def takeSomeDigits? (s : List Char) : Option (List Digit × List Char) :=
  match takeDigits s with
  | ([], _) => none
  | (d :: ds, rest) => some (d :: ds, rest)

/-- A zero stands alone in front of the point. -/
def readWhole : List Char → Option (List Digit × List Char)
  | '0' :: rest => some ([0], rest)
  | s => takeSomeDigits? s

def readFraction : List Char → Option (List Digit × List Char)
  | '.' :: rest => takeSomeDigits? rest
  | s => some ([], s)

def readPower (s : List Char) : Option (Int × List Char) :=
  match s with
  | '-' :: rest => (takeSomeDigits? rest).map fun (ds, r) => (-(ofDigits ds : Int), r)
  | '+' :: rest => (takeSomeDigits? rest).map fun (ds, r) => ((ofDigits ds : Int), r)
  | _ => (takeSomeDigits? s).map fun (ds, r) => ((ofDigits ds : Int), r)

def readExponent (s : List Char) : Option (Option Int × List Char) :=
  match s with
  | 'e' :: rest => (readPower rest).map fun (n, r) => (some n, r)
  | 'E' :: rest => (readPower rest).map fun (n, r) => (some n, r)
  | _ => some (none, s)

def readMagnitude (negative : Bool) (s : List Char) : Option (Numeral × List Char) := do
  let (whole, s) ← readWhole s
  let (fraction, s) ← readFraction s
  let (exponent, s) ← readExponent s
  return ({ negative, whole, fraction, exponent }, s)

def read (s : List Char) : Option (Numeral × List Char) :=
  match s with
  | '-' :: rest => readMagnitude true rest
  | _ => readMagnitude false s

/-! ## The number meant -/

/-- Appends digits to a natural as long as it fits 64 bits; also the digits left. -/
def absorb (n : Nat) : List Digit → Nat × List Digit
  | [] => (n, [])
  | d :: ds => if 10 * n + d < Nat.pow 2 64 then absorb (10 * n + d) ds else (n, d :: ds)

/-- The magnitude as a float: the digits that were absorbed, scaled by the exponent and by the
places of the digits that were not. -/
def magnitude? (x : Numeral) : Option Binary64 :=
  let (n, beyond) := absorb 0 x.whole
  let (significand, unused) := absorb n x.fraction
  let places : Int := beyond.length - (x.fraction.length - unused.length : Nat)
  Binary64.scientific? significand (places + x.exponent.getD 0)

def float? (x : Numeral) : Option Binary64 :=
  x.magnitude?.map fun m => if x.negative then m.neg else m

def integer? (x : Numeral) : Option Int :=
  let n := ofDigits x.whole
  if x.fraction ≠ [] ∨ x.exponent.isSome then none
  else if x.negative then if 0 < n ∧ n ≤ Nat.pow 2 63 then some (-n) else none
  else if n < Nat.pow 2 64 then some n else none

def value? (x : Numeral) : Option Json :=
  match x.integer? with
  | some n => some (.integer n)
  | none => x.float?.map .float

/-! ## What reading leaves -/

theorem length_takeDigits_le (s : List Char) : (takeDigits s).2.length ≤ s.length := by
  induction s with
  | nil => simp [takeDigits]
  | cons c rest ih =>
    unfold takeDigits
    split
    · exact Nat.le_succ_of_le ih
    · exact Nat.le_refl _

theorem length_takeSomeDigits {s rest : List Char} {ds : List Digit}
    (h : takeSomeDigits? s = some (ds, rest)) : rest.length < s.length := by
  unfold takeSomeDigits? at h
  split at h
  · cases h
  · rename_i d ds' rest' e
    cases h
    cases s with
    | nil => simp [takeDigits] at e
    | cons c t =>
      unfold takeDigits at e
      split at e
      · cases e
        exact Nat.lt_succ_of_le (length_takeDigits_le t)
      · cases e

theorem length_readWhole {s rest : List Char} {ds : List Digit}
    (h : readWhole s = some (ds, rest)) : rest.length < s.length := by
  unfold readWhole at h
  split at h
  · cases h
    exact Nat.lt_succ_self _
  · exact length_takeSomeDigits h

theorem length_readFraction {s rest : List Char} {ds : List Digit}
    (h : readFraction s = some (ds, rest)) : rest.length ≤ s.length := by
  unfold readFraction at h
  split at h
  · exact Nat.le_of_lt (Nat.lt_succ_of_lt (length_takeSomeDigits h))
  · cases h
    exact Nat.le_refl _

theorem length_readPower {s rest : List Char} {n : Int}
    (h : readPower s = some (n, rest)) : rest.length < s.length := by
  unfold readPower at h
  split at h <;>
  · obtain ⟨⟨ds, r⟩, e, h⟩ := Option.map_eq_some_iff.1 h
    cases h
    have := length_takeSomeDigits e
    simp only [List.length_cons] at *
    omega

theorem length_readExponent {s rest : List Char} {n : Option Int}
    (h : readExponent s = some (n, rest)) : rest.length ≤ s.length := by
  unfold readExponent at h
  split at h
  · obtain ⟨⟨m, r⟩, e, h⟩ := Option.map_eq_some_iff.1 h
    cases h
    exact Nat.le_of_lt (Nat.lt_succ_of_lt (length_readPower e))
  · obtain ⟨⟨m, r⟩, e, h⟩ := Option.map_eq_some_iff.1 h
    cases h
    exact Nat.le_of_lt (Nat.lt_succ_of_lt (length_readPower e))
  · cases h
    exact Nat.le_refl _

theorem length_readMagnitude {negative : Bool} {s rest : List Char} {x : Numeral}
    (h : readMagnitude negative s = some (x, rest)) : rest.length < s.length := by
  unfold readMagnitude at h
  simp only [Option.bind_eq_bind, Option.bind_eq_some_iff, Option.pure_def, Option.some.injEq,
    Prod.mk.injEq, Prod.exists] at h
  obtain ⟨w, s₁, h₁, f, s₂, h₂, e, s₃, h₃, -, rfl⟩ := h
  exact Nat.lt_of_le_of_lt (Nat.le_trans (length_readExponent h₃) (length_readFraction h₂))
    (length_readWhole h₁)

theorem length_read {s rest : List Char} {x : Numeral} (h : read s = some (x, rest)) :
    rest.length < s.length := by
  unfold read at h
  split at h
  · exact Nat.lt_succ_of_lt (length_readMagnitude h)
  · exact length_readMagnitude h

end Numeral
end QueryFilter
