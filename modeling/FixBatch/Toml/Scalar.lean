import FixBatch.Text.Segments
import FixBatch.Timestamp
import FixBatch.Toml.Text
import FixBatch.Toml.Value

/-!
# FixBatch.Toml.Scalar

Numbers, truth values, dates and times of TOML texts.  Only as much of a number is checked as its
kind demands: its digits are read when its value is asked for, so a number may stand in a document
and have no value.
-/

namespace FixBatch.Toml

open FixBatch.Text (isDigit hexValue? ofDigits)

/-! ## Underscores -/

/-- Whether the underscores of a number stand between digits.  A sign alone before an underscore
passes.  `first` says that the number starts with the stretch that is looked at. -/
def underscoresFit (isDigitHere : Char → Bool) (first : Bool) : List (List Char) → Bool
  | [] => true
  | [part] => first || part.head?.all isDigitHere
  | part :: rest =>
    (first || (!part.isEmpty && part.head?.all isDigitHere)) &&
      (part.length ≤ 1 || part.getLast?.all isDigitHere) && underscoresFit isDigitHere false rest

/-- Whether a number neither starts nor ends with an underscore, unless it is all of it. -/
def endsFit (s : List Char) : Bool :=
  s.head? != some '_' && (s.length ≤ 1 || s.getLast? != some '_')

/-- A number without its underscores, if they stand where they may; `first` says that nothing stands
before it. -/
def withoutUnderscores? (isDigitHere : Char → Bool) (first : Bool) (s : List Char) :
    Option (List Char) :=
  if s.contains '_' then
    if endsFit s && underscoresFit isDigitHere first (Text.segments (· == '_') s) then
      some (s.filter (· != '_'))
    else none
  else some s

/-! ## Integers -/

/-- The sign of a number, and the rest. -/
def splitSign : List Char → Bool × List Char
  | '+' :: r => (false, r)
  | '-' :: r => (true, r)
  | s => (false, s)

/-- Whether a character is a digit in base sixteen. -/
def isHexDigit (c : Char) : Bool := (hexValue? c).isSome

/-- Whether a digit belongs to a base. -/
def isDigitOf (base : Nat) (c : Char) : Bool := (hexValue? c).any (· < base)

/-- The value of some digits; no digits have none. -/
def valueOf? (base : Nat) (digits : List Char) : Option Nat :=
  if digits.isEmpty || !digits.all (isDigitOf base) then none else some (ofDigits base digits)

/-- An integer in base ten, with its sign. -/
def decimalInteger? (s : List Char) : Option Value :=
  (withoutUnderscores? isHexDigit true s).map fun s =>
    let (negative, digits) := splitSign s
    .integer ((valueOf? 10 digits).map fun n => if negative then -(n : Int) else (n : Int))

/-- An integer in another base, after the mark of its base. -/
def basedInteger? (base : Nat) (s : List Char) : Option Value :=
  if s.all fun c => isDigitOf base c || c == '_' then
    (withoutUnderscores? isHexDigit false s).map fun digits =>
      .integer ((valueOf? base digits).map fun n => (n : Int))
  else none

/-! ## Floats -/

/-- The decimal `digits * 10 ^ exponent` as a float. -/
def toFloat (digits : Nat) (exponent : Int) : Float :=
  if digits = 0 then 0
  else
    -- beyond these exponents every float is infinite or zero, whatever the digits are
    let size := (Nat.toDigits 10 digits).length
    if 400 < exponent + size then 1 / 0
    else if exponent + size < -400 then 0
    else if exponent < 0 then Float.ofScientific digits true exponent.natAbs
    else Float.ofScientific digits false exponent.toNat

/-- A float from the digits before and after its point and its exponent. -/
def makeFloat (negative : Bool) (whole fraction : List Char) (exponent : Int) : Value :=
  let x := toFloat (ofDigits 10 (whole ++ fraction)) (exponent - fraction.length)
  .float (if x.isInf then none else some (if negative then -x else x))

/-- The digits and underscores that a text starts with, at least one digit among them, and what
follows. -/
def spanNumber? (s : List Char) : Option (List Char × List Char) :=
  let isPart (c : Char) : Bool := isDigit c || c == '_'
  let digits := (s.takeWhile isPart).filter (· != '_')
  if digits.isEmpty then none else some (digits, s.dropWhile isPart)

/-- Reads the exponent of a float, which ends it. -/
def readExponent? : List Char → Option Int
  | [] => some 0
  | c :: r =>
    if c == 'e' || c == 'E' then
      let (minus, r) := splitSign r
      match spanNumber? r with
      | some (digits, []) =>
        some (if minus then -(ofDigits 10 digits : Int) else (ofDigits 10 digits : Int))
      | _ => none
    else none

/-- A float without its sign: its digits before and after the point, and its exponent. -/
def floatParts? (s : List Char) : Option (List Char × List Char × Int) := do
  let (whole, r) ← spanNumber? s
  if s.head? = some '0' && 1 < whole.length then none
  else match r with
    | '.' :: r =>
      let (fraction, r) ← spanNumber? r
      return (whole, fraction, ← readExponent? r)
    | r => return (whole, [], ← readExponent? r)

/-- A float of digits, with its sign. -/
def decimalFloat? (s : List Char) : Option Value := do
  let (negative, r) := splitSign s
  let (whole, fraction, exponent) ← floatParts? r
  let _ ← withoutUnderscores? isDigit true s
  return makeFloat negative whole fraction exponent

/-- An infinite float, or one that is no number. -/
def namedFloat? (s : List Char) : Option Value :=
  let (negative, r) := splitSign s
  if r == ['i', 'n', 'f'] then some (.float (some (if negative then -(1 / 0) else 1 / 0)))
  else if r == ['n', 'a', 'n'] then some (.float (some (0 / 0)))
  else none

/-! ## Numbers -/

/-- A number that starts with a digit or an underscore, after its sign. -/
def number? (s : List Char) : Option Value :=
  let (_, r) := splitSign s
  match r, r.dropWhile isDigit with
  | ['0'], _ => decimalInteger? s
  | '0' :: 'x' :: digits, _ => if r.length = s.length then basedInteger? 16 digits else none
  | '0' :: 'o' :: digits, _ => if r.length = s.length then basedInteger? 8 digits else none
  | '0' :: 'b' :: digits, _ => if r.length = s.length then basedInteger? 2 digits else none
  | _, rest =>
    if rest.any fun c => c == '.' || c == 'e' || c == 'E' then decimalFloat? s
    else if r.head? != some '0' && rest.head?.all (· == '_') then decimalInteger? s
    else none

/-! ## Dates and times -/

/-- A number of exactly so many digits, within bounds. -/
def fixed (width low high : Nat) : Step Nat := fun s =>
  let d := s.take width
  let n := ofDigits 10 d
  if d.length = width ∧ d.all isDigit ∧ low ≤ n ∧ n ≤ high then some (n, s.drop width) else none

/-- What follows a date. -/
def date? (s : List Char) : Option (List Char) := do
  let (year, s) ← fixed 4 0 9999 s
  let (month, s) ← fixed 2 1 12 (← expect '-' s)
  let (_, s) ← fixed 2 1 (Timestamp.daysInMonth year month) (← expect '-' s)
  return s

/-- What follows a time of day; its seconds may be left out. -/
def time? (s : List Char) : Option (List Char) := do
  let (_, s) ← fixed 2 0 23 s
  let (_, s) ← fixed 2 0 59 (← expect ':' s)
  match s with
  | ':' :: r =>
    let (_, s) ← fixed 2 0 60 r
    match s with
    | '.' :: r => if (r.takeWhile isDigit).isEmpty then none else return r.dropWhile isDigit
    | _ => return s
  | _ => return s

/-- What follows the distance from UTC. -/
def offset? (s : List Char) : Option (List Char) :=
  match s with
  | 'Z' :: r | 'z' :: r => some r
  | '+' :: r | '-' :: r => do
    let (_, s) ← fixed 2 0 23 r
    let (_, s) ← fixed 2 0 59 (← expect ':' s)
    return s
  | s => some s

/-- Whether a text is a date, a time of day, or both. -/
def isDatetime (s : List Char) : Bool :=
  match date? s with
  | some [] => true
  | some (c :: r) =>
    (c == 'T' || c == 't' || c == ' ') && (time? r >>= offset?) == some []
  | none => time? s == some []

/-! ## Scalars -/

/-- Whether a text goes on with a word that belongs to the scalar before it. -/
def goesOn (s : List Char) : Bool :=
  s.head?.any fun c => c == '.' || !(endsWord c || c == '"' || c == '\'')

/-- The text of a scalar and what follows it: words and dots, and the blanks between them. -/
def spanScalar : List Char → List Char × List Char
  | [] => ([], [])
  | c :: r =>
    if c == '.' || !endsWord c || (isBlank c && goesOn (skipBlanks r)) then
      let (scalar, rest) := spanScalar r
      (c :: scalar, rest)
    else ([], c :: r)

/-- The scalar that a text writes. -/
def scalar? (s : List Char) : Option Value :=
  if s == ['t', 'r', 'u', 'e'] then some (.bool true)
  else if s == ['f', 'a', 'l', 's', 'e'] then some (.bool false)
  else if isDatetime s then some .datetime
  else match s, (splitSign s).2 with
    | _, c :: _ =>
      if isDigit c || c == '_' then
        if s.any isBlank then none else number? s
      else namedFloat? s
    | _, [] => none

/-- Reads a scalar, which may have a fault; there has to be one. -/
def readScalar : Step (Option Value) := fun s =>
  match spanScalar s with
  | ([], _) => none
  | (scalar, rest) => some (scalar? scalar, rest)

end FixBatch.Toml
