import QueryFilter.Json
import QueryFilter.Binary64.Shortest

/-!
# Writing documents

`Json.text` is the compact form: no blanks, entries in their order. Strings escape quotes,
backslashes and control characters only. Floats have the fewest digits that read back
(`Binary64.shortest`) and always a point or an exponent, so that they read back as floats.
-/

namespace QueryFilter

/-! ## Strings -/

def escapeChar (c : Char) : List Char :=
  match c with
  | '"' => ['\\', '"']
  | '\\' => ['\\', '\\']
  | '\x08' => ['\\', 'b']
  | '\x0c' => ['\\', 'f']
  | '\n' => ['\\', 'n']
  | '\r' => ['\\', 'r']
  | '\t' => ['\\', 't']
  | c =>
    if c.toNat < 0x20 then
      ['\\', 'u', '0', '0', Nat.digitChar (c.toNat / 16), Nat.digitChar (c.toNat % 16)]
    else [c]

def stringText (s : String) : String :=
  "\"" ++ String.ofList (s.toList.flatMap escapeChar) ++ "\""

/-! ## Floats -/

/-- Numbers with at most this many places before the point are written out. -/
def writtenPlaces : Int := 16

/-- Numbers with at most this many zeros behind the point are written out. -/
def writtenZeros : Int := 4

/-- A decimal: written out within the limits above, and with an exponent outside. The point stands
behind `point` of the digits. -/
def Decimal.text (d : Decimal) : String :=
  let digits := Nat.toDigits 10 d.digits
  let point := digits.length + d.exponent
  let chars :=
    if 0 ≤ d.exponent ∧ point ≤ writtenPlaces then
      digits ++ List.replicate d.exponent.toNat '0' ++ ['.', '0']
    else if 0 < point ∧ point ≤ writtenPlaces then
      digits.take point.toNat ++ '.' :: digits.drop point.toNat
    else if -writtenZeros ≤ point ∧ point ≤ 0 then
      '0' :: '.' :: List.replicate (-point).toNat '0' ++ digits
    else
      let sign := if 0 < point then '+' else '-'
      let power := sign :: Nat.toDigits 10 (point - 1).natAbs
      match digits with
      | [d] => d :: 'e' :: power
      | d :: rest => d :: '.' :: rest ++ 'e' :: power
      | [] => []
  String.ofList chars

def Binary64.text (x : Binary64) : String :=
  let sign := if x.negative then "-" else ""
  let size : Binary64 := ⟨UInt64.ofNat x.magnitude⟩
  if x.isZero then sign ++ "0.0"
  else if x.isNaN || x.isInfinite then "null"
  else sign ++ size.shortest.text

/-! ## Documents -/

namespace Json

mutual

def text : Json → String
  | .null => "null"
  | .bool b => if b then "true" else "false"
  | .integer n => toString n
  | .float x => x.text
  | .string s => stringText s
  | .array items => "[" ++ ",".intercalate (itemTexts items) ++ "]"
  | .object fields => "\x7b" ++ ",".intercalate (fieldTexts fields) ++ "\x7d"

def itemTexts : List Json → List String
  | [] => []
  | x :: rest => x.text :: itemTexts rest

def fieldTexts : List (String × Json) → List String
  | [] => []
  | (name, x) :: rest => (stringText name ++ ":" ++ x.text) :: fieldTexts rest

end

end Json
end QueryFilter
