/-!
# Reading from the front of a text

`Rest s` is what a reader leaves of `s`: it is shorter, so reading on comes to an end. `hex?` and
`scalar?` spell a character by its code point.
-/

namespace QueryFilter

variable {α : Type}

/-- A row that is left of `s` after something was taken off its front. -/
abbrev Rest (s : List α) := { rest : List α // rest.length < s.length }

theorem length_lt_cons (x : α) (s : List α) : s.length < (x :: s).length := Nat.lt_succ_self _

theorem length_lt_cons_of_lt {x : α} {rest s : List α} (h : rest.length < s.length) :
    rest.length < (x :: s).length := Nat.lt_succ_of_lt h

def hexDigit? (c : Char) : Option Nat :=
  if '0' ≤ c ∧ c ≤ '9' then some (c.toNat - '0'.toNat)
  else if 'a' ≤ c ∧ c ≤ 'f' then some (c.toNat - 'a'.toNat + 10)
  else if 'A' ≤ c ∧ c ≤ 'F' then some (c.toNat - 'A'.toNat + 10)
  else none

def hex? (digits : List Char) : Option Nat :=
  digits.foldlM (fun n c => (hexDigit? c).map (16 * n + ·)) 0

def scalar? (n : Nat) : Option Char :=
  if h : n.isValidChar then some ⟨n.toUInt32, by
    have : n < 2 ^ 32 := by rcases h with h | h <;> omega
    simpa [UInt32.isValidChar, Nat.toUInt32, UInt32.toNat_ofNat_of_lt' this] using h⟩ else none

end QueryFilter
