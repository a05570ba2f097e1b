/-!
# FixBatch.Timestamp

Instants as civil dates and times of day in UTC, to the nanosecond.  A second may be the sixtieth of
its minute, a leap second.  An instant is written as `2024-05-06T07:08:09.5Z` would be, with no,
three, six or nine places of a second.

* `Timestamp.text` — the written form;
* `Timestamp.shift` — the same instant, told from a local time and its distance from UTC.
-/

namespace FixBatch

/-- A date and a time of day in UTC. -/
structure Timestamp where
  year : Int
  month : Nat
  day : Nat
  hour : Nat
  minute : Nat
  second : Nat
  nanos : Nat
deriving DecidableEq, Repr

namespace Timestamp

/-! ## Dates -/

def isLeapYear (year : Int) : Bool := year % 4 == 0 && (year % 100 != 0 || year % 400 == 0)

/-- How many days a month has. -/
def daysInMonth (year : Int) (month : Nat) : Nat :=
  if month == 2 then if isLeapYear year then 29 else 28
  else if month == 4 || month == 6 || month == 9 || month == 11 then 30
  else 31

/-- The first and the last year that dates reach. -/
def firstYear : Int := -262143

/-- The last year that dates reach. -/
def lastYear : Int := 262142

/-- Whether there is such a day. -/
def isDate (year : Int) (month day : Nat) : Bool :=
  firstYear ≤ year && year ≤ lastYear && 1 ≤ month && month ≤ 12 && 1 ≤ day &&
    day ≤ daysInMonth year month

/-- The day after, unless dates end here. -/
def nextDay (t : Timestamp) : Option Timestamp :=
  if t.day < daysInMonth t.year t.month then some { t with day := t.day + 1 }
  else if t.month < 12 then some { t with month := t.month + 1, day := 1 }
  else if t.year < lastYear then some { t with year := t.year + 1, month := 1, day := 1 }
  else none

/-- The day before, unless dates begin here. -/
def previousDay (t : Timestamp) : Option Timestamp :=
  if 1 < t.day then some { t with day := t.day - 1 }
  else if 1 < t.month then
    some { t with month := t.month - 1, day := daysInMonth t.year (t.month - 1) }
  else if firstYear < t.year then some { t with year := t.year - 1, month := 12, day := 31 }
  else none

/-- The instant of a local time that is `offset` minutes, less than a day, ahead of UTC. -/
def shift (local' : Timestamp) (offset : Int) : Option Timestamp :=
  let minutes : Int := local'.hour * 60 + local'.minute - offset
  let timed (t : Timestamp) (m : Int) : Timestamp :=
    { t with hour := m.toNat / 60, minute := m.toNat % 60 }
  if minutes < 0 then local'.previousDay.map (timed · (minutes + 1440))
  else if 1440 ≤ minutes then local'.nextDay.map (timed · (minutes - 1440))
  else some (timed local' minutes)

/-! ## Seconds since 1970 -/

/-- The year, month and day a number of days after the first of January 1970. -/
def civilOfDays (days : Int) : Int × Nat × Nat :=
  -- years begin in March here, so that the leap day is the last of its year
  let shifted := days + 719468
  let era := Int.fdiv shifted 146097
  let dayOfEra := (shifted - era * 146097).toNat
  let yearOfEra := (dayOfEra - dayOfEra / 1460 + dayOfEra / 36524 - dayOfEra / 146096) / 365
  let dayOfYear := dayOfEra - (365 * yearOfEra + yearOfEra / 4 - yearOfEra / 100)
  let m := (5 * dayOfYear + 2) / 153
  let month := if m < 10 then m + 3 else m - 9
  let year := era * 400 + yearOfEra + if month ≤ 2 then 1 else 0
  (year, month, dayOfYear - (153 * m + 2) / 5 + 1)

/-- The instant some seconds and nanoseconds after the beginning of 1970. -/
def ofUnix (seconds : Int) (nanos : Nat) : Timestamp :=
  let days := Int.fdiv seconds 86400
  let rest := (seconds - days * 86400).toNat
  let (year, month, day) := civilOfDays days
  ⟨year, month, day, rest / 3600, rest / 60 % 60, rest % 60, nanos⟩

/-! ## The written form -/

/-- A number with zeros before it, to a width. -/
def padded (width n : Nat) : List Char :=
  let digits := Nat.toDigits 10 n
  List.replicate (width - digits.length) '0' ++ digits

/-- A year has four digits; one that needs more, or is before the year zero, has a sign as well. -/
def yearText (year : Int) : List Char :=
  if 0 ≤ year && year ≤ 9999 then padded 4 year.toNat
  else (if year < 0 then '-' else '+') :: padded 4 year.natAbs

/-- The places of a second: none, three, six or nine, as few as will do. -/
def fractionText (nanos : Nat) : List Char :=
  if nanos == 0 then []
  else if nanos % 1000000 == 0 then '.' :: padded 3 (nanos / 1000000)
  else if nanos % 1000 == 0 then '.' :: padded 6 (nanos / 1000)
  else '.' :: padded 9 nanos

/-- The written form of an instant. -/
def chars (t : Timestamp) : List Char :=
  yearText t.year ++ '-' :: padded 2 t.month ++ '-' :: padded 2 t.day ++ 'T' :: padded 2 t.hour ++
    ':' :: padded 2 t.minute ++ ':' :: padded 2 t.second ++ fractionText t.nanos ++ ['Z']

/-- The written form of an instant. -/
def text (t : Timestamp) : String := String.ofList t.chars

end Timestamp

end FixBatch
