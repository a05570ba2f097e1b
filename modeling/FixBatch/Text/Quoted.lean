import FixBatch.Text.Hidden

/-!
# FixBatch.Text.Quoted

Texts between double quotes, as messages show them.  A quote, a backslash and the common controls
have a backslash form, every other hidden character is written by its code point in braces, and all
else, the single quote included, stands for itself.
-/

namespace FixBatch.Text

/-- The digits of a number in base sixteen, in lower case. -/
def hexDigits (n : Nat) : List Char := Nat.toDigits 16 n

/-- One character between double quotes. -/
def escaped (c : Char) : List Char :=
  match c with
  | '\x00' => ['\\', '0']
  | '\t' => ['\\', 't']
  | '\r' => ['\\', 'r']
  | '\n' => ['\\', 'n']
  | '"' => ['\\', '"']
  | '\\' => ['\\', '\\']
  | c => if isHidden c then ['\\', 'u', '{'] ++ hexDigits c.toNat ++ ['}'] else [c]

/-- A text between double quotes. -/
def quoted (s : List Char) : List Char := '"' :: s.flatMap escaped ++ ['"']

/-- A string between double quotes. -/
def quotedString (s : String) : String := String.ofList (quoted s.toList)

/-- Texts in brackets, parted by a comma and a blank. -/
def bracketed (items : List String) : String := "[" ++ String.intercalate ", " items ++ "]"

end FixBatch.Text
