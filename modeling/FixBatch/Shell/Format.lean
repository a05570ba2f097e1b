import FixBatch.Shell.Pattern
import FixBatch.Text.Digit

/-!
# FixBatch.Shell.Format

Backslash escapes, and formats with directives.  The shells and the program differ in the escapes
that they know, and in what they say about arguments that are no numbers.

* `unescape` — a text with escapes in it;
* `formatted` — what a format makes of some arguments.
-/

namespace FixBatch.Shell

/-- Who writes a text: one of the shells by itself, or a program. -/
inductive Provider where
  | plain
  | extended
  | program
deriving DecidableEq, Repr

/-! ## Escapes -/

/-- The byte of a backslash and one letter. -/
def letterEscape? : Char → Option Char
  | '\\' => some '\\'
  | 'a' => some '\x07'
  | 'b' => some '\x08'
  | 'e' => some '\x1b'
  | 'f' => some '\x0c'
  | 'n' => some '\n'
  | 'r' => some '\r'
  | 't' => some '\t'
  | 'v' => some '\x0b'
  | _ => none

/-- Which escapes a text may have. -/
structure EscapeStyle where
  /-- Bytes in base sixteen, and characters by their code points. -/
  hex : Bool
  /-- Three octal digits may follow a zero, and not only the backslash. -/
  zero : Bool
  /-- Octal digits may follow the backslash. -/
  octal : Bool
  /-- A quotation mark may follow the backslash. -/
  quotes : Bool
  /-- An escape may end the text. -/
  stop : Bool

/-- The digits of a base that a text starts with, so many at most. -/
def digitsUpTo (base count : Nat) (cs : List Char) : List Char :=
  (cs.take count).takeWhile fun c => (Text.hexValue? c).any (· < base)

/-- The byte of a number, of which the lowest eight bits count. -/
def byteChar (n : Nat) : Char := Char.ofNat (n % 256)

/-- One escape after its backslash: its bytes, how many characters it has, and whether the text ends
here.  Unknown escapes stand for themselves. -/
def escape (style : EscapeStyle) (cs : List Char) : List Char × Nat × Bool :=
  let code (letter : Char) (count : Nat) (r : List Char) : List Char × Nat × Bool :=
    let digits := digitsUpTo 16 count r
    if digits.isEmpty then (['\\', letter], 1, false)
    else
      ((Bytes.ofText (String.ofList [Char.ofNat (Text.ofDigits 16 digits)])).toList,
        1 + digits.length, false)
  match cs with
  | [] => (['\\'], 0, false)
  | c :: r =>
    let octal := digitsUpTo 8 3 cs
    if c = 'c' && style.stop then ([], 1, true)
    else if c = '0' && style.zero then
      let digits := digitsUpTo 8 3 r
      ([byteChar (Text.ofDigits 8 digits)], 1 + digits.length, false)
    else if !octal.isEmpty && style.octal then
      ([byteChar (Text.ofDigits 8 octal)], octal.length, false)
    else if c = 'x' && style.hex then
      let digits := digitsUpTo 16 2 r
      if digits.isEmpty then (['\\', 'x'], 1, false)
      else ([byteChar (Text.ofDigits 16 digits)], 1 + digits.length, false)
    else if c = 'u' && style.hex then code 'u' 4 r
    else if c = 'U' && style.hex then code 'U' 8 r
    else if (c = '"' || c = '\'') && style.quotes then ([c], 1, false)
    else match letterEscape? c with
      | some b => ([b], 1, false)
      | none => (['\\', c], 1, false)

/-- The bytes of a text with escapes, and whether it ends early. -/
def unescape (style : EscapeStyle) (cs : List Char) : List Char × Bool :=
  match cs with
  | [] => ([], false)
  | '\\' :: rest =>
    let (bytes, taken, stops) := escape style rest
    if stops then (bytes, true)
    else
      let (more, stops) := unescape style (rest.drop taken)
      (bytes ++ more, stops)
  | c :: rest =>
    let (more, stops) := unescape style rest
    (c :: more, stops)
termination_by cs.length
decreasing_by all_goals simp +arith

/-- The escapes of an echo that the plain shell carries out. -/
def plainEchoStyle : EscapeStyle := ⟨false, true, true, false, true⟩

/-- The escapes of any other echo. -/
def echoStyle : EscapeStyle := ⟨true, true, false, false, true⟩

/-- The escapes of formats. -/
def formatStyle (by_ : Provider) : EscapeStyle :=
  ⟨by_ != .plain, false, true, true, by_ == .program⟩

/-- The escapes of arguments that are asked for with escapes. -/
def argumentStyle (by_ : Provider) : EscapeStyle := ⟨by_ != .plain, true, true, by_ != .plain, true⟩

/-! ## Directives -/

/-- A number in a directive: one that it has, or one that an argument gives. -/
inductive Extent where
  | absent
  | fixed (n : Nat)
  | asked
deriving DecidableEq, Repr

/-- A directive: its flags, its width, its precision, and what it converts. -/
structure Directive where
  flags : List Char
  width : Extent
  precision : Extent
  conversion : Char
  source : Bytes
deriving DecidableEq, Repr

/-- A part of a format. -/
inductive FormatPart where
  | text (s : Bytes)
  | directive (d : Directive)
  /-- The output ends here. -/
  | stop
  /-- The format is faulty from here on. -/
  | fault (complaint : Bytes)
deriving DecidableEq, Repr

/-- The number or the asterisk that a text starts with, and what follows. -/
def extent (s : List Char) : Extent × List Char :=
  match s with
  | '*' :: r => (.asked, r)
  | s =>
    let digits := s.takeWhile Char.isDigit
    (if digits.isEmpty then .absent else .fixed (Text.ofDigits 10 digits), s.drop digits.length)

/-- The conversions there are. -/
def conversions : List Char := "diouxXcsb".toList

/-- What is said of a directive that is none. -/
def directiveFault (by_ : Provider) (source : List Char) (next : Option Char) : Bytes :=
  match by_, next with
  | .plain, none => "missing format character"
  | .plain, some c => String.ofList (source ++ [c]) ++ ": invalid directive"
  | .extended, none => "`" ++ String.ofList source ++ "': missing format character"
  | .extended, some c => "`" ++ String.ofList [c] ++ "': invalid format character"
  | .program, next =>
    String.ofList (source ++ next.toList) ++ ": invalid conversion specification"

/-- The part of a format after a percent sign, and what follows. -/
def directive (by_ : Provider) (s : List Char) : FormatPart × List Char :=
  let flags := s.takeWhile fun c => "#-+ 0".toList.contains c
  let r := s.drop flags.length
  let (width, r) := extent r
  let (precision, r) : Extent × List Char := match r with
    | '.' :: r =>
      let (e, r) := extent r
      (if e = .absent then .fixed 0 else e, r)
    | r => (.absent, r)
  let r := if by_ = .plain then r else r.dropWhile fun c => "hlLjzt".toList.contains c
  let source := '%' :: s.take (s.length - r.length)
  match r with
  | c :: r =>
    if conversions.contains c then
      (.directive ⟨flags, width, precision, c, String.ofList (source ++ [c])⟩, r)
    else (.fault (directiveFault by_ source (some c)), [])
  | [] => (.fault (directiveFault by_ source none), [])

/-- The parts of a format; the count is no smaller than its length. -/
def formatParts (by_ : Provider) : Nat → List Char → List FormatPart
  | 0, _ => []
  | _ + 1, [] => []
  | fuel + 1, '%' :: '%' :: rest => .text "%" :: formatParts by_ fuel rest
  | fuel + 1, '%' :: rest =>
    let (part, rest) := directive by_ rest
    part :: formatParts by_ fuel rest
  | fuel + 1, '\\' :: rest =>
    let (bytes, taken, stops) := escape (formatStyle by_) rest
    if stops then [.stop]
    else .text (String.ofList bytes) :: formatParts by_ fuel (rest.drop taken)
  | fuel + 1, c :: rest => .text (String.ofList [c]) :: formatParts by_ fuel rest

/-! ## Padding -/

/-- A text with blanks before or after it, as wide as asked for. -/
def padTo (left : Bool) (width : Nat) (s : Bytes) : Bytes :=
  let blanks := String.ofList (List.replicate (width - s.length) ' ')
  if left then s ++ blanks else blanks ++ s

/-- A number that consists of a sign and digits, as wide as asked for. -/
def padNumber (flags : List Char) (width : Nat) (zeros : Bool) (sign digits : Bytes) : Bytes :=
  if flags.contains '-' then padTo true width (sign ++ digits)
  else if zeros && flags.contains '0' then
    sign ++ String.ofList (List.replicate (width - sign.length - digits.length) '0') ++ digits
  else padTo false width (sign ++ digits)

/-- The sign of a number. -/
def signOf (flags : List Char) (negative : Bool) : Bytes :=
  if negative then "-" else if flags.contains '+' then "+" else if flags.contains ' ' then " " else ""

/-- The digits of a number in a base. -/
def digitsOf (base n : Nat) (capital : Bool) : Bytes :=
  let s := String.ofList (Nat.toDigits base n)
  if capital then s.map Char.toUpper else s

/-- An integer as a directive writes it. -/
def writeInteger (d : Directive) (width : Nat) (precision : Option Nat) (n : Int) : Bytes :=
  let signed := d.conversion == 'd' || d.conversion == 'i'
  let size : Nat := if signed then n.natAbs else (n.emod (Nat.pow 2 64)).toNat
  let base := match d.conversion with
    | 'o' => 8
    | 'x' | 'X' => 16
    | _ => 10
  let digits := if precision = some 0 && size = 0 then "" else digitsOf base size (d.conversion == 'X')
  let digits := String.ofList (List.replicate (precision.getD 0 - digits.length) '0') ++ digits
  let digits := if base = 8 && d.flags.contains '#' && digits.toList.head? != some '0' then
    "0" ++ digits else digits
  let mark := if base = 16 && d.flags.contains '#' && size != 0 then
    (if d.conversion = 'X' then "0X" else "0x") else ""
  let sign := if signed then signOf d.flags (n < 0) else mark
  padNumber d.flags width precision.isNone sign digits

/-! ## Reading arguments -/

/-- What an argument comes to, and what is wrong with it. -/
structure Read where
  value : Int
  complaint : Option Bytes

/-- What is said of an argument that is no number, or not as a whole. -/
def numberFault (by_ : Provider) (arg : Bytes) (partly : Bool) : Bytes :=
  match by_ with
  | .plain => arg ++ if partly then ": not completely converted" else ": expected numeric value"
  | .extended => arg ++ ": invalid number"
  | .program =>
    "'" ++ arg ++ if partly then "': value not completely converted"
      else "': expected a numeric value"

/-- Whether a character is a blank. -/
def isSpace (c : Char) : Bool := inClass "space" c

/-- The sign that a text starts with, and what follows it and the blanks before it. -/
def signed (s : List Char) : Bool × List Char :=
  match s.dropWhile isSpace with
  | '-' :: r => (true, r)
  | '+' :: r => (false, r)
  | r => (false, r)

/-- The byte that an argument asks for after a quotation mark. -/
def quotedByte? (arg : Bytes) : Option Nat :=
  match arg.toList with
  | '"' :: c :: _ | '\'' :: c :: _ => some c.toNat
  | ['"'] | ['\''] => some 0
  | _ => none

/-- The integer of an argument. -/
def readInteger (by_ : Provider) (unsigned : Bool) (arg : Bytes) : Read :=
  match quotedByte? arg with
  | some n => ⟨n, none⟩
  | none =>
    let (negative, s) := signed arg.toList
    let (base, digits, rest) : Nat × List Char × List Char := match s with
      | '0' :: x :: r =>
        if (x == 'x' || x == 'X') && (r.head?.bind Text.hexValue?).isSome then
          let digits := r.takeWhile fun c => (Text.hexValue? c).isSome
          (16, digits, r.drop digits.length)
        else
          let digits := s.takeWhile fun c => '0' ≤ c && c ≤ '7'
          (8, digits, s.drop digits.length)
      | s => let digits := s.takeWhile Char.isDigit; (10, digits, s.drop digits.length)
    let size := Text.ofDigits base digits
    let tooBig := if unsigned then Nat.pow 2 64 ≤ size
      else if negative then Nat.pow 2 63 < size else Nat.pow 2 63 ≤ size
    let limit : Int := if unsigned then Nat.pow 2 64 - 1 else if negative then -(Nat.pow 2 63)
      else Nat.pow 2 63 - 1
    let value : Int := if tooBig then limit else if negative then -(size : Int) else size
    if arg.isEmpty then ⟨0, if by_ = .program then some (numberFault by_ arg false) else none⟩
    else if digits.isEmpty then ⟨0, some (numberFault by_ arg false)⟩
    else if !rest.isEmpty then ⟨value, some (numberFault by_ arg true)⟩
    else if tooBig then
      ⟨value, some (match by_ with
        | .plain => arg ++ ": Numerical result out of range"
        | .extended => "warning: " ++ arg ++ ": Numerical result out of range"
        | .program => "'" ++ arg ++ "': Numerical result out of range")⟩
    else ⟨value, none⟩

/-! ## Formats -/

/-- What a format has made so far. -/
structure Formatted where
  out : Bytes
  /-- What is said. -/
  complaints : List Bytes
  args : List Bytes
  used : Bool
  stopped : Bool

namespace Formatted

/-- Writes something. -/
def write (f : Formatted) (s : Bytes) : Formatted := { f with out := f.out ++ s }

/-- Says something. -/
def complain (f : Formatted) : Option Bytes → Formatted
  | some c => { f with complaints := f.complaints ++ [c] }
  | none => f

/-- The next argument; one that is missing is empty. -/
def next (f : Formatted) : Option Bytes × Formatted :=
  (f.args.head?, { f with args := f.args.drop 1, used := true })

/-- The number of a directive. -/
def extentOf (f : Formatted) (by_ : Provider) : Extent → Option Int × Formatted
  | .absent => (none, f)
  | .fixed n => (some n, f)
  | .asked =>
    let (arg, f) := f.next
    let r := readInteger by_ false (arg.getD "0")
    (some r.value, f.complain r.complaint)

/-- Carries out a directive. -/
def convert (f : Formatted) (by_ : Provider) (d : Directive) : Formatted :=
  let (width, f) := f.extentOf by_ d.width
  let (precision, f) := f.extentOf by_ d.precision
  let left := d.flags.contains '-' || width.any (· < 0)
  let d := if left then { d with flags := '-' :: d.flags } else d
  let width := (width.getD 0).natAbs
  let precision : Option Nat := precision.bind fun p => if p < 0 then none else some p.toNat
  let (given, f) := f.next
  let arg := given.getD ""
  let clipped (s : Bytes) : Bytes := match precision with
    | some p => String.ofList (s.toList.take p)
    | none => s
  match d.conversion with
  | 's' => f.write (padTo left width (clipped arg))
  | 'b' =>
    let (bytes, stops) := unescape (argumentStyle by_) arg.toList
    { f.write (padTo left width (clipped (String.ofList bytes))) with stopped := stops }
  | 'c' =>
    f.write (padTo left width (if arg.isEmpty then "\x00" else String.ofList (arg.toList.take 1)))
  | _ =>
    let unsigned := d.conversion != 'd' && d.conversion != 'i'
    let r := readInteger (if given.isNone then .plain else by_) unsigned arg
    (f.complain r.complaint).write (writeInteger d width precision r.value)

/-- Carries out the parts of a format; the answer also tells of a fault. -/
def run (by_ : Provider) : List FormatPart → Formatted → Formatted × Option Bytes
  | [], f => (f, none)
  | .text s :: rest, f => run by_ rest (f.write s)
  | .stop :: _, f => ({ f with stopped := true }, none)
  | .fault complaint :: _, f => ({ f with stopped := true }, some complaint)
  | .directive d :: rest, f =>
    let f := f.convert by_ d
    if f.stopped then (f, none) else run by_ rest f

/-- Carries out a format as often as there are arguments left; the count bounds how often. -/
def rounds (by_ : Provider) (parts : List FormatPart) : Nat → Formatted → Formatted × Option Bytes
  | 0, f => (f, none)
  | fuel + 1, f =>
    match run by_ parts { f with used := false } with
    | (f, some fault) => (f, some fault)
    | (f, none) =>
      if f.stopped || f.args.isEmpty || !f.used then (f, none) else rounds by_ parts fuel f

end Formatted

/-- What a format makes of some arguments, and what is wrong with it. -/
def formatted (by_ : Provider) (format : Bytes) (args : List Bytes) : Formatted × Option Bytes :=
  let parts := formatParts by_ (format.length + 1) format.toList
  Formatted.rounds by_ parts (args.length + 1) ⟨"", [], args, false, false⟩

end FixBatch.Shell
