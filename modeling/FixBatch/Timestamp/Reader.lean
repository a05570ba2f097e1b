import FixBatch.Text.Blank
import FixBatch.Text.Digit
import FixBatch.Timestamp

/-!
# FixBatch.Timestamp.Reader

Reading instants.  The written form is read back, and so are local times with their distance from
UTC, blanks around numbers, and numbers with fewer digits.  A field that is out of range is reported
before anything behind it is looked at.
-/

namespace FixBatch.Timestamp

open Text (isDigit digitValue ofDigits)

/-- Why a text is no instant. -/
inductive ReadError where
  | tooShort
  | tooLong
  | invalid
  | outOfRange
  | impossible
deriving DecidableEq, Repr

/-- The text of a reading error. -/
def ReadError.message : ReadError → String
  | tooShort => "premature end of input"
  | tooLong => "trailing input"
  | invalid => "input contains invalid characters"
  | outOfRange => "input is out of range"
  | impossible => "no possible date and time matching input"

/-- A step of the reader: a value and what follows it. -/
abbrev Step (α : Type) := List Char → Except ReadError (α × List Char)

/-- Reads a number of at least one digit, and of at most `width` if that is given. -/
def number (width : Option Nat) : Step Nat := fun s =>
  let digits := (match width with | some w => s.take w | none => s).takeWhile isDigit
  if s.isEmpty then .error .tooShort
  else if digits.isEmpty then .error .invalid
  else if Nat.pow 2 63 ≤ ofDigits 10 digits then .error .outOfRange
  else .ok (ofDigits 10 digits, s.drop digits.length)

/-- Reads a number of at most two digits, blanks before it, within bounds. -/
def field (low high : Nat) : Step Nat := fun s => do
  let (n, r) ← number (some 2) (Text.trimStart s)
  if low ≤ n ∧ n ≤ high then return (n, r) else throw .outOfRange

/-- Reads a year: any digits after a sign, at most four without one. -/
def signedYear : Step Int := fun s => do
  let s := Text.trimStart s
  let (y, r) ← match s with
    | '-' :: r => (number none r).map fun (n, r) => (-(n : Int), r)
    | '+' :: r => (number none r).map fun (n, r) => ((n : Int), r)
    | _ => (number (some 4) s).map fun (n, r) => ((n : Int), r)
  if -(Nat.pow 2 31 : Int) ≤ y ∧ y < (Nat.pow 2 31 : Int) then return (y, r) else throw .outOfRange

/-- Reads a mark, blanks before it. -/
def mark (c : Char) : Step Unit := fun s =>
  match Text.trimStart s with
  | [] => .error .tooShort
  | d :: r => if d = c then .ok ((), r) else .error .invalid

/-- Reads the places of a second, if there are any; after nine they no longer count. -/
def fraction : Step Nat := fun s =>
  match s with
  | '.' :: r => do
    let (n, rest) ← number (some 9) r
    return (n * Nat.pow 10 (9 - (r.length - rest.length)), rest.dropWhile isDigit)
  | _ => .ok (0, s)

/-- Reads two digits. -/
def twoDigits : Step (Nat × Nat) := fun s =>
  match s with
  | [] => .error .tooShort
  | [c] => if c.utf8Size < 2 then .error .tooShort else .error .invalid
  | a :: b :: r =>
    if isDigit a && isDigit b then .ok ((digitValue a, digitValue b), r)
    else .error .invalid

/-- Reads hours and minutes, which colons and blanks may part. -/
def hoursAndMinutes : Step Nat := fun s => do
  let ((h1, h2), r) ← twoDigits s
  let ((m1, m2), r) ← twoDigits (r.dropWhile fun c => c == ':' || Text.isBlank c)
  if 6 ≤ m1 then throw .outOfRange
  return ((h1 * 10 + h2) * 60 + m1 * 10 + m2, r)

/-- Reads a distance from UTC in minutes. -/
def offset : Step Int := fun s =>
  if (s.take 3).map Char.toUpper == ['U', 'T', 'C'] then .ok (0, s.drop 3)
  else match s with
  | 'Z' :: r | 'z' :: r => .ok (0, r)
  | '+' :: r => (hoursAndMinutes r).map fun (n, r) => ((n : Int), r)
  | '-' :: r | '\u2212' :: r => (hoursAndMinutes r).map fun (n, r) => (-(n : Int), r)
  | [] => .error .tooShort
  | _ => .error .invalid

/-- Reads what parts a date from a time. -/
def separator : Step Unit := fun s =>
  match s with
  | 'T' :: r | 't' :: r | ' ' :: r => .ok ((), r)
  | [] => .error .tooShort
  | _ => .error .invalid

/-- Reads an instant. -/
def read (s : List Char) : Except ReadError Timestamp := do
  let (y, s) ← signedYear s
  let (_, s) ← mark '-' s
  let (month, s) ← field 1 12 s
  let (_, s) ← mark '-' s
  let (day, s) ← field 1 31 s
  let (_, s) ← separator s
  let (hour, s) ← field 0 23 s
  let (_, s) ← mark ':' s
  let (minute, s) ← field 0 59 s
  let (_, s) ← mark ':' s
  let (second, s) ← field 0 60 s
  let (nanos, s) ← fraction s
  let (minutes, s) ← offset (Text.trimStart s)
  if !(Text.trimStart s).isEmpty then throw .tooLong
  if !isDate y month day || 1440 ≤ minutes.natAbs then throw .outOfRange
  match shift ⟨y, month, day, hour, minute, second, nanos⟩ minutes with
  | some t => return t
  | none => throw .impossible

end FixBatch.Timestamp
