import FixBatch.Json.Doc
import FixBatch.Text.Digit

/-!
# FixBatch.Json.Reader

Reading JSON texts.  The readers for values, items and members call each other on shorter and
shorter rests of the text.  At most three calls pass between two characters, so a count of three
calls for each character of the text is never used up.

* `readString` and `scanString` — the same token, read and scanned;
* `Doc.read` — the document of a text, and what follows it.
-/

namespace FixBatch.Json

open Text (isDigit digitValue hexValue? spanDigits)

/-- The blanks between tokens. -/
def isBlank (c : Char) : Bool := c == ' ' || c == '\n' || c == '\t' || c == '\r'

/-- A text without the blanks it starts with. -/
def skipBlanks (s : List Char) : List Char := s.dropWhile isBlank

/-! ## Strings -/

/-- The value of four digits in base sixteen. -/
def hexValue4? (a b c d : Char) : Option Nat := do
  let a ← hexValue? a
  let b ← hexValue? b
  let c ← hexValue? c
  let d ← hexValue? d
  return ((a * 16 + b) * 16 + c) * 16 + d

/-- What is wrong with a text of fewer than four characters where four digits should stand: the text
is too short only if it lacks the bytes of four digits. -/
def shortEscapeFault (s : List Char) : Fault :=
  if 4 ≤ (String.ofList s).utf8ByteSize then .malformed else .endOfText

/-- The character that an escape of one letter stands for. -/
def simpleEscape? : Char → Option Char
  | '"' => some '"'
  | '\\' => some '\\'
  | '/' => some '/'
  | 'b' => some '\x08'
  | 'f' => some '\x0c'
  | 'n' => some '\n'
  | 'r' => some '\r'
  | 't' => some '\t'
  | _ => none

/-- Whether a number is the first half of a pair that stands for one character. -/
def isLeading (n : Nat) : Bool := 0xd800 ≤ n && n ≤ 0xdbff

/-- Whether a number is the second half of such a pair. -/
def isTrailing (n : Nat) : Bool := 0xdc00 ≤ n && n ≤ 0xdfff

/-- The character that a pair stands for. -/
def pairChar (lead trail : Nat) : Char :=
  Char.ofNat (0x10000 + (lead - 0xd800) * 0x400 + (trail - 0xdc00))

/-- Puts a character before the string read after it. -/
def prepend (c : Char) (r : Except Fault (List Char × List Char)) :
    Except Fault (List Char × List Char) :=
  r.map fun (s, rest) => (c :: s, rest)

/-- Reads a string after its opening quote, and what follows its closing quote. -/
def readString : List Char → Except Fault (List Char × List Char)
  | [] => .error .endOfText
  | '"' :: r => .ok ([], r)
  | '\\' :: 'u' :: a :: b :: c :: d :: r =>
    match hexValue4? a b c d with
    | none => .error .malformed
    | some n =>
      if isTrailing n then .error .malformed
      else if isLeading n then
        match r with
        | '\\' :: 'u' :: e :: f :: g :: h :: r' =>
          match hexValue4? e f g h with
          | none => .error .malformed
          | some m =>
            if isTrailing m then prepend (pairChar n m) (readString r') else .error .malformed
        | '\\' :: 'u' :: r' => .error (shortEscapeFault r')
        | ['\\'] | [] => .error .endOfText
        | _ => .error .malformed
      else prepend (Char.ofNat n) (readString r)
  | '\\' :: 'u' :: r => .error (shortEscapeFault r)
  | ['\\'] => .error .endOfText
  | '\\' :: c :: r =>
    match simpleEscape? c with
    | none => .error .malformed
    | some e => prepend e (readString r)
  | c :: r => if c.toNat < 0x20 then .error .malformed else prepend c (readString r)

/-- Scans a string after its opening quote for what follows its closing quote.  Halves of pairs pass
unseen. -/
def scanString : List Char → Except Fault (List Char)
  | [] => .error .endOfText
  | '"' :: r => .ok r
  | '\\' :: 'u' :: a :: b :: c :: d :: r =>
    if (hexValue4? a b c d).isSome then scanString r else .error .malformed
  | '\\' :: 'u' :: r => .error (shortEscapeFault r)
  | ['\\'] => .error .endOfText
  | '\\' :: c :: r => if (simpleEscape? c).isSome then scanString r else .error .malformed
  | c :: r => if c.toNat < 0x20 then .error .malformed else scanString r

/-- A string after its opening quote, and what follows it. -/
def stringToken (s : List Char) : Reading (List Char) × Option (List Char) :=
  let value := (readString s).map Prod.fst
  match scanString s with
  | .ok rest => (⟨value, none⟩, some rest)
  | .error f => (⟨value, some f⟩, none)

/-! ## Numbers -/

/-- The parts of a number: its digits before and after the point, and the sign and the digits of its
exponent. -/
structure Numeral where
  negative : Bool
  whole : List Char
  fraction : List Char
  exponent : Option (Bool × List Char)

/-- The digits of a significand as they are gathered: no more than 64 bits take, and how often the
gathered value is still to be multiplied by ten. -/
structure Significand where
  value : Nat
  scale : Int
  full : Bool

namespace Significand

/-- Whether another digit would take the value past 64 bits. -/
def overflows (s : Significand) (c : Char) : Bool :=
  s.full || Nat.pow 2 64 ≤ s.value * 10 + digitValue c

/-- Takes a digit before the point; once one does not fit, all that follow only scale. -/
def pushWhole (s : Significand) (c : Char) : Significand :=
  if s.overflows c then { s with scale := s.scale + 1, full := true }
  else { s with value := s.value * 10 + digitValue c }

/-- Takes a digit after the point; once one does not fit, all that follow are dropped. -/
def pushFraction (s : Significand) (c : Char) : Significand :=
  if s.overflows c then { s with full := true }
  else { s with value := s.value * 10 + digitValue c, scale := s.scale - 1 }

end Significand

/-- The steps of 10^308 by which a number is divided until the rest of its scale is in reach. -/
def divideDown : Nat → Float → Nat → Float
  | 0, x, _ => x
  | fuel + 1, x, k =>
    if k ≤ 308 then x / Float.ofScientific 1 false k
    else if x == 0 then x
    else divideDown fuel (x / Float.ofScientific 1 false 308) (k - 308)

/-- A significand times a power of ten, unless that is out of reach. -/
def scaled? (significand : Nat) (scale : Int) : Option Float :=
  let x := (UInt64.ofNat significand).toFloat
  if scale < 0 then some (divideDown scale.natAbs x scale.natAbs)
  else if 308 < scale then (if x == 0 then some x else none)
  else
    let y := x * Float.ofScientific 1 false scale.toNat
    if y.isInf then none else some y

/-- The exponent that digits write, unless it is too large to be counted. -/
def exponent? (digits : List Char) : Option Nat :=
  digits.foldl (fun e c => e.bind fun e =>
    let e := e * 10 + digitValue c
    if e < Nat.pow 2 31 then some e else none) (some 0)

namespace Numeral

/-- A number that is no integer of 64 bits, unless it is out of reach. -/
def toReal? (n : Numeral) (s : Significand) : Option Float :=
  let magnitude := match n.exponent with
    | none => scaled? s.value s.scale
    | some (minus, digits) =>
      match exponent? digits with
      | some e =>
        let reach : Int := Nat.pow 2 31
        let scale := if minus then max (s.scale - e) (-reach) else min (s.scale + e) (reach - 1)
        scaled? s.value scale
      | none => if s.value == 0 || minus then some 0 else none
  magnitude.map fun x => if n.negative then -x else x

/-- The value of a number; one that is out of reach is malformed. -/
def value (n : Numeral) : Except Fault Number :=
  let whole := n.whole.foldl Significand.pushWhole ⟨0, 0, false⟩
  if n.fraction.isEmpty && n.exponent.isNone && !whole.full then
    if !n.negative then .ok (.natural whole.value)
    else if whole.value == 0 || Nat.pow 2 63 < whole.value then
      .ok (.real (-(UInt64.ofNat whole.value).toFloat))
    else .ok (.negative (-(whole.value : Int)))
  else
    match n.toReal? (n.fraction.foldl Significand.pushFraction { whole with full := false }) with
    | some x => .ok (.real x)
    | none => .error .malformed

end Numeral

/-- A number that lacks a digit where a text goes on as given. -/
def missingDigit (rest : List Char) : Reading Number × Option (List Char) :=
  match rest with
  | [] => (⟨.error .endOfText, some .malformed⟩, none)
  | _ => (⟨.error .malformed, some .malformed⟩, none)

/-- Finishes a number whose parts are known. -/
def finishNumber (n : Numeral) (rest : List Char) : Reading Number × Option (List Char) :=
  (⟨n.value, none⟩, some rest)

/-- Reads the exponent of a number, if it has one. -/
def readExponent (negative : Bool) (whole fraction s : List Char) :
    Reading Number × Option (List Char) :=
  match s with
  | c :: r =>
    if c == 'e' || c == 'E' then
      let (minus, r) := match r with
        | '+' :: r => (false, r)
        | '-' :: r => (true, r)
        | _ => (false, r)
      match spanDigits r with
      | ([], rest) => missingDigit rest
      | (digits, rest) => finishNumber ⟨negative, whole, fraction, some (minus, digits)⟩ rest
    else finishNumber ⟨negative, whole, fraction, none⟩ s
  | [] => finishNumber ⟨negative, whole, fraction, none⟩ s

/-- Reads a number after its sign. -/
def readNumber (negative : Bool) (s : List Char) : Reading Number × Option (List Char) :=
  match spanDigits s with
  | ([], rest) => missingDigit rest
  | ('0' :: _ :: _, _) => (⟨.error .malformed, some .malformed⟩, none)
  | (whole, '.' :: r) =>
    match spanDigits r with
    | ([], rest) => missingDigit rest
    | (fraction, rest) => readExponent negative whole fraction rest
  | (whole, rest) => readExponent negative whole [] rest

/-! ## Documents -/

/-- Reads the rest of a word: the document it stands for, or where it breaks off. -/
def readWord (d : Doc) : List Char → List Char → Doc × Option (List Char)
  | [], s => (d, some s)
  | _ :: _, [] => (.broken .endOfText, none)
  | c :: word, d' :: s => if c = d' then readWord d word s else (.broken .malformed, none)

mutual

/-- Reads a value, and what follows it unless it breaks off. -/
def readDoc : Nat → List Char → Doc × Option (List Char)
  | 0, _ => (.absent .malformed, none)
  | fuel + 1, s =>
    match skipBlanks s with
    | [] => (.absent .endOfText, none)
    | '"' :: r => (stringToken r).map .text id
    | '[' :: r => (readItems fuel true r).map .array id
    | '{' :: r => (readMembers fuel true r).map .object id
    | 'n' :: r => readWord .null ['u', 'l', 'l'] r
    | 't' :: r => readWord (.bool true) ['r', 'u', 'e'] r
    | 'f' :: r => readWord (.bool false) ['a', 'l', 's', 'e'] r
    | '-' :: r => (readNumber true r).map .number id
    | c :: r =>
      if isDigit c then (readNumber false (c :: r)).map .number id else (.absent .malformed, none)

/-- Reads an item and the items after it. -/
def readItem : Nat → List Char → Items × Option (List Char)
  | 0, _ => (.broken .malformed, none)
  | fuel + 1, s =>
    match readDoc fuel s with
    | (d, none) => (.item d .closed, none)
    | (d, some r) => (readItems fuel false r).map (.item d) id

/-- Reads the items of an array that are left; before all but the first there is a comma. -/
def readItems : Nat → Bool → List Char → Items × Option (List Char)
  | 0, _, _ => (.broken .malformed, none)
  | fuel + 1, first, s =>
    match skipBlanks s with
    | [] => (.broken .endOfText, none)
    | ']' :: r => (.closed, some r)
    | c :: r =>
      if first then readItem fuel (c :: r)
      else if c == ',' then readItem fuel r
      else (.broken .malformed, none)

/-- Reads a member and the members after it. -/
def readMember : Nat → List Char → Members × Option (List Char)
  | 0, _ => (.broken .malformed, none)
  | fuel + 1, s =>
    match skipBlanks s with
    | '"' :: r =>
      match stringToken r with
      | (key, none) => (.member key (.absent .malformed) .closed, none)
      | (key, some r) =>
        match skipBlanks r with
        | [] => (.member key (.absent .endOfText) .closed, none)
        | ':' :: r =>
          match readDoc fuel r with
          | (d, none) => (.member key d .closed, none)
          | (d, some r) => (readMembers fuel false r).map (.member key d) id
        | _ => (.member key (.absent .malformed) .closed, none)
    | s => (.stray (readDoc fuel s).1, none)

/-- Reads the members of an object that are left; before all but the first there is a comma. -/
def readMembers : Nat → Bool → List Char → Members × Option (List Char)
  | 0, _, _ => (.broken .malformed, none)
  | fuel + 1, first, s =>
    match skipBlanks s with
    | [] => (.broken .endOfText, none)
    | '}' :: r => (.closed, some r)
    | c :: r =>
      if first then readMember fuel (c :: r)
      else if c == ',' then readMember fuel r
      else (.broken .malformed, none)

end

/-- The document a text starts with, and what follows it unless it breaks off. -/
def Doc.read (s : List Char) : Doc × Option (List Char) := readDoc (3 * s.length + 3) s

end FixBatch.Json
