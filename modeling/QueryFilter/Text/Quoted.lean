import QueryFilter.Text.Visible

/-!
# Texts in diagnostics

A text is shown between double quotes on one line. Quotes, backslashes and the usual controls have
short escapes; any other character that does not show (`isVisible`) is given by its code point.
-/

namespace QueryFilter

def shownChar (c : Char) : List Char :=
  match c with
  | '\x00' => ['\\', '0']
  | '\t' => ['\\', 't']
  | '\n' => ['\\', 'n']
  | '\r' => ['\\', 'r']
  | '"' => ['\\', '"']
  | '\\' => ['\\', '\\']
  | c =>
    if isVisible c then [c]
    else ['\\', 'u', '\x7b'] ++ Nat.toDigits 16 c.toNat ++ ['\x7d']

def shown (s : String) : String := "\"" ++ String.ofList (s.toList.flatMap shownChar) ++ "\""

def shownAll (opening closing : String) (texts : List String) : String :=
  opening ++ ", ".intercalate (texts.map shown) ++ closing

def shownList (texts : List String) : String := shownAll "[" "]" texts

def shownSet (texts : List String) : String := shownAll "\x7b" "\x7d" texts

def shownOption : Option (List String) → String
  | some texts => "Some(" ++ shownList texts ++ ")"
  | none => "None"

end QueryFilter
