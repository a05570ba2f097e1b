/-!
# FixBatch.Text.Digit

Digits of texts in other formats.  Only the characters of ASCII count as digits here.
-/

namespace FixBatch.Text

/-- Whether a character is a digit in base ten. -/
def isDigit (c : Char) : Bool := '0' ≤ c && c ≤ '9'

/-- The value of a digit in base ten. -/
def digitValue (c : Char) : Nat := c.toNat - 48

/-- The value of a digit in base sixteen, in letters of either case. -/
def hexValue? (c : Char) : Option Nat :=
  if '0' ≤ c ∧ c ≤ '9' then some (c.toNat - 48)
  else if 'a' ≤ c ∧ c ≤ 'f' then some (c.toNat - 87)
  else if 'A' ≤ c ∧ c ≤ 'F' then some (c.toNat - 55)
  else none

/-- The number that digits write in a base. -/
def ofDigits (base : Nat) (digits : List Char) : Nat :=
  digits.foldl (fun n c => n * base + (hexValue? c).getD 0) 0

/-- The digits a text starts with, and what follows them. -/
def spanDigits (s : List Char) : List Char × List Char := (s.takeWhile isDigit, s.dropWhile isDigit)

end FixBatch.Text
