/-!
# FixBatch.Decimal.Shortest

The shortest decimal that reads back as a given float.  A finite float is `m * 2 ^ q`; the reals
that round to it form an interval, whose ends belong to it when `m` is even.  Powers of ten are
tried from the largest down, and the first whose multiples hit the interval next to the float gives
the digits; of two hits the nearer is taken, and of two equally near ones the even one.

* `shortest` — the digits and the power of ten of a float above zero;
* `Form.render` — digits and a power of ten in a written form.
-/

namespace FixBatch.Decimal

/-- `digits * 10 ^ exponent`. -/
structure Scientific where
  digits : Nat
  exponent : Int
deriving DecidableEq, Repr

/-- A float above zero as `m * 2 ^ q`; `lowest` says that the float below is only half as far as the
one above. -/
structure Binary where
  m : Nat
  q : Int
  lowest : Bool

/-- The parts of a float, its sign put aside. -/
def Binary.ofFloat (x : Float) : Binary :=
  let bits := x.toBits.toNat
  let fraction : Nat := bits % Nat.pow 2 52
  let exponent : Nat := bits / Nat.pow 2 52 % Nat.pow 2 11
  if exponent = 0 then ⟨fraction, -1074, false⟩
  else ⟨Nat.pow 2 52 + fraction, (exponent : Int) - 1075, fraction = 0 && exponent != 1⟩

/-- `num / den`, with a quarter of the last binary place as the unit of `num`. -/
structure Scaled where
  low : Nat
  value : Nat
  high : Nat
  den : Nat
  closed : Bool

/-- The interval of the reals that round to a float. -/
def Binary.interval (b : Binary) : Scaled :=
  let up := Nat.pow 2 (b.q - 2).toNat
  ⟨(4 * b.m - if b.lowest then 1 else 2) * up, 4 * b.m * up, (4 * b.m + 2) * up,
    Nat.pow 2 (2 - b.q).toNat, b.m % 2 == 0⟩

/-- Whether a multiple of a power of ten lies in an interval, both given over one denominator. -/
def Scaled.holds (s : Scaled) (n : Nat) : Bool :=
  if s.closed then s.low ≤ n && n ≤ s.high else s.low < n && n < s.high

/-- The multiple of `10 ^ k` that stands for an interval, if one next to its value lies in it. -/
def Scaled.hit? (s : Scaled) (k : Int) : Option Nat :=
  -- both sides over one denominator: a digit is worth `unit`, the interval is stretched to match
  let unit := s.den * Nat.pow 10 k.toNat
  let stretch := Nat.pow 10 (-k).toNat
  let t : Scaled := ⟨s.low * stretch, s.value * stretch, s.high * stretch, 1, s.closed⟩
  let d := t.value / unit
  let below := t.holds (d * unit)
  let above := t.holds ((d + 1) * unit)
  if below && above then
    let toBelow := t.value - d * unit
    let toAbove := (d + 1) * unit - t.value
    if toBelow < toAbove || (toBelow == toAbove && d % 2 == 0) then some d else some (d + 1)
  else if below then some d
  else if above then some (d + 1)
  else none

/-- Tries powers of ten downwards. -/
def Scaled.search (s : Scaled) : Nat → Int → Scientific
  | 0, k => ⟨0, k⟩
  | fuel + 1, k =>
    match s.hit? k with
    | some d => ⟨d, k⟩
    | none => s.search fuel (k - 1)

/-- The shortest decimal that reads back as a float above zero. -/
def shortest (x : Float) : Scientific := (Binary.ofFloat x).interval.search 660 309

/-! ## Written forms -/

/-- How a float is written. -/
structure Form where
  /-- The exponents of the first digit for which the point stands in its place. -/
  positional : Int → Bool
  notANumber : String
  infinite : String

/-- The text of a nonnegative number below one or not, the point in its place; an integer keeps a
zero after the point. -/
def positionalText (digits : List Char) (exponent : Int) : List Char :=
  if 0 ≤ exponent then digits ++ List.replicate exponent.toNat '0' ++ ['.', '0']
  else
    let places := exponent.natAbs
    if places < digits.length then
      digits.take (digits.length - places) ++ '.' :: digits.drop (digits.length - places)
    else ['0', '.'] ++ List.replicate (places - digits.length) '0' ++ digits

/-- The text of a number with one digit before the point and the power of ten it is to be multiplied
by, which has a sign. -/
def scientificText (digits : List Char) (first : Int) : List Char :=
  digits.take 1 ++ (if digits.length ≤ 1 then [] else '.' :: digits.drop 1) ++
    ['e', if first < 0 then '-' else '+'] ++ Nat.toDigits 10 first.natAbs

/-- A float in a written form. -/
def Form.render (form : Form) (x : Float) : String :=
  if x.isNaN then form.notANumber
  else
    let sign := if x.toBits.toNat / Nat.pow 2 63 = 1 then "-" else ""
    if x.isInf then sign ++ form.infinite
    else if x == 0 then sign ++ "0.0"
    else
      let d := shortest x
      let digits := Nat.toDigits 10 d.digits
      let first := d.exponent + digits.length - 1
      sign ++ String.ofList
        (if form.positional first then positionalText digits d.exponent
         else scientificText digits first)

end FixBatch.Decimal
