/-!
# Double-precision numbers as bit patterns

`Binary64` is the word of a double-precision number: a sign bit, eleven bits of exponent, and 52 of
the mantissa, whose leading one is left out. Equality of words (`=`) tells the two zeros and all
NaNs apart; `Binary64.equal` is the comparison of numbers, where the zeros agree and a NaN agrees
with nothing. Rounding is to nearest, ties to even, by exact arithmetic on naturals: `ofRatio`
rounds a quotient, and `ofNat`, `mul` and `div` are roundings of exact results.
-/

namespace QueryFilter

structure Binary64 where
  bits : UInt64
  deriving DecidableEq

namespace Binary64

/-! ## Fields of the word -/

def signBit : Nat := Nat.pow 2 63

/-- Magnitudes from here on are infinite or no number. -/
def infinityBits : Nat := 0x7ff * Nat.pow 2 52

def negative (x : Binary64) : Bool := signBit ≤ x.bits.toNat

def magnitude (x : Binary64) : Nat := x.bits.toNat % signBit

def isNaN (x : Binary64) : Bool := infinityBits < x.magnitude

def isInfinite (x : Binary64) : Bool := x.magnitude == infinityBits

def isZero (x : Binary64) : Bool := x.magnitude == 0

def neg (x : Binary64) : Binary64 :=
  ⟨UInt64.ofNat (if x.negative then x.magnitude else signBit + x.magnitude)⟩

def equal (x y : Binary64) : Bool :=
  !x.isNaN && !y.isNaN && (x == y || x.isZero && y.isZero)

/-! ## Exact values

A finite magnitude is `mantissa * 2 ^ shift` units, a unit being the least positive value,
`2 ^ (-1074)`. -/

def unitExponent : Nat := 1074

/-- The binary exponent of a finite magnitude, counted from the least. -/
def shift (x : Binary64) : Nat := x.magnitude / Nat.pow 2 52 - 1

/-- The mantissa of a finite magnitude, with the leading one that the word leaves out. -/
def mantissa (x : Binary64) : Nat :=
  if x.magnitude / Nat.pow 2 52 = 0 then x.magnitude
  else x.magnitude % Nat.pow 2 52 + Nat.pow 2 52

def units (x : Binary64) : Nat := x.mantissa * Nat.pow 2 x.shift

/-! ## Rounding -/

/-- The natural nearest to `num / den`; halfway between two, the even one. -/
def divNearest (num den : Nat) : Nat :=
  let q := num / den
  let r := num % den
  if 2 * r < den then q
  else if den < 2 * r then q + 1
  else q + q % 2

/-- The value nearest to `num / den`, or infinity where that is out of range. The mantissa, with its
leading one, is added to the exponent field, so that a mantissa rounded up to the next power of two
carries into it. -/
def ofRatio (num den : Nat) : Binary64 :=
  let scaled := num * Nat.pow 2 unitExponent
  let shift := (scaled / den).log2 - 52
  let word := shift * Nat.pow 2 52 + divNearest scaled (den * Nat.pow 2 shift)
  ⟨UInt64.ofNat (min word infinityBits)⟩

def ofNat (n : Nat) : Binary64 := ofRatio n 1

def mul (x y : Binary64) : Binary64 :=
  ofRatio (x.units * y.units) (Nat.pow 2 (2 * unitExponent))

def div (x y : Binary64) : Binary64 := ofRatio x.units y.units

/-! ## Powers of ten

A number in scientific notation is read by rounding its digits first and scaling them after that,
which may differ from rounding once in the last bit. -/

/-- The largest power of ten that is a finite value. -/
def maxTen : Nat := 308

/-- Divides by `10 ^ n`, in steps of `maxTen`, until nothing is left to divide. -/
def divTen (x : Binary64) (n : Nat) : Binary64 :=
  if n ≤ maxTen then x.div (ofNat (Nat.pow 10 n))
  else if x.isZero then x
  else divTen (x.div (ofNat (Nat.pow 10 maxTen))) (n - maxTen)
termination_by n
decreasing_by simp only [maxTen] at *; omega

def mulTen? (x : Binary64) (n : Nat) : Option Binary64 :=
  if n ≤ maxTen then
    let product := x.mul (ofNat (Nat.pow 10 n))
    if product.isInfinite then none else some product
  else if x.isZero then some x
  else none

def scientific? (significand : Nat) (exponent : Int) : Option Binary64 :=
  match exponent with
  | .ofNat n => (ofNat significand).mulTen? n
  | .negSucc n => some ((ofNat significand).divTen (n + 1))

end Binary64
end QueryFilter
