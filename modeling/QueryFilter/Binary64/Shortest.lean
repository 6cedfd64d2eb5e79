import QueryFilter.Binary64

/-!
# The fewest digits that read back

A finite positive value stands for the interval of reals that round to it. `Binary64.shortest` is
the decimal of fewest digits inside that interval; of several, the one nearest to the value, and of
two equally near the one whose last digit is even.
-/

namespace QueryFilter

structure Decimal where
  digits : Nat
  exponent : Int
  deriving DecidableEq

/-- Compares `a * 10 ^ i` with `n` units. -/
def compareUnits (a : Nat) (i : Int) (n : Nat) : Ordering :=
  compare (a * Nat.pow 10 i.toNat * Nat.pow 2 Binary64.unitExponent)
    (n * Nat.pow 10 (-i).toNat)

namespace Binary64

/-- A power of two is nearer to the value below it than to the one above, the least normal value
excepted. -/
def narrowBelow (x : Binary64) : Bool := x.mantissa == Nat.pow 2 52 && 0 < x.shift

/-- The decimal rounds to the value. Bounds are in quarters of the last place, and belong to the
interval exactly when the mantissa is even. -/
def readsBack (x : Binary64) (a : Nat) (i : Int) : Bool :=
  let low := (4 * x.mantissa - if x.narrowBelow then 1 else 2) * Nat.pow 2 x.shift
  let high := (4 * x.mantissa + 2) * Nat.pow 2 x.shift
  let closed := x.mantissa % 2 == 0
  let below := compareUnits (4 * a) i low
  let above := compareUnits (4 * a) i high
  (below == .gt || closed && below == .eq) && (above == .lt || closed && above == .eq)

def digitCount (n : Nat) : Nat := if n = 0 then 0 else (Nat.toDigits 10 n).length

/-- The least `k` for which a positive value is below `10 ^ k`. -/
def decimalScale (x : Binary64) : Int :=
  let one := Nat.pow 2 unitExponent
  if one ≤ x.units then digitCount (x.units / one)
  else
    let zeros := digitCount (one / x.units)
    -- An exact power of ten has its one a place earlier than the quotient says.
    if one < x.units * Nat.pow 10 zeros then 1 - zeros else 2 - zeros

/-- The value on the grid of multiples of `10 ^ i`, rounded down. -/
def gridFloor (x : Binary64) (i : Int) : Nat :=
  x.units * Nat.pow 10 (-i).toNat / (Nat.pow 2 unitExponent * Nat.pow 10 i.toNat)

/-- The neighbour on a grid that reads back, the nearer one if both do. -/
def gridNearest? (x : Binary64) (i : Int) : Option Nat :=
  let a := x.gridFloor i
  match x.readsBack a i, x.readsBack (a + 1) i with
  | false, false => none
  | true, false => some a
  | false, true => some (a + 1)
  | true, true =>
    match compareUnits (2 * a + 1) i (2 * x.units) with
    | .gt => some a
    | .lt => some (a + 1)
    | .eq => some (if a % 2 = 0 then a else a + 1)

def stripZeros : Nat → Nat → Int → Decimal
  | 0, a, i => ⟨a, i⟩
  | fuel + 1, a, i => if a % 10 = 0 then stripZeros fuel (a / 10) (i + 1) else ⟨a, i⟩

/-- Seventeen digits tell any two values apart. -/
def maxDigits : Nat := 17

def shortest (x : Binary64) : Decimal :=
  let scale := x.decimalScale
  let hit := (List.range' 1 maxDigits).findSome? fun (n : Nat) =>
    let i := scale - n
    (x.gridNearest? i).map fun a => stripZeros maxDigits a i
  hit.getD ⟨x.units * Nat.pow 5 unitExponent, -unitExponent⟩

end Binary64
end QueryFilter
