import FixBatch.Text.Digit

/-!
# FixBatch.Toml.Text

The gaps, strings and keys of TOML texts.  Where a string ends is found before its escapes are read:
a string whose escapes are faulty is a string all the same, and what is wrong with it is told only
once the whole document has been read.

* `skipGaps` — what follows blanks, line ends and comments;
* `RawText.read` and `RawText.decode` — a string as it stands, and the text it stands for;
* `readKey` — the parts of a key.
-/

namespace FixBatch.Toml

open FixBatch.Text (hexValue? ofDigits)

/-- A step of the reader: what it reads, and what follows. -/
abbrev Step (α : Type) := List Char → Option (α × List Char)

/-! ## Gaps -/

/-- Blanks within a line. -/
def isBlank (c : Char) : Bool := c == ' ' || c == '\t'

def skipBlanks (s : List Char) : List Char := s.dropWhile isBlank

/-- The characters of comments and strings: all but controls; the tab is none here. -/
def isPlain (c : Char) : Bool := c == '\t' || (0x20 ≤ c.toNat && c.toNat != 0x7f)

/-- Skips blanks, line ends and comments; `inComment` says that a comment is open. -/
def skipGapsFrom : Bool → List Char → Option (List Char)
  | _, [] => some []
  | _, '\n' :: r => skipGapsFrom false r
  | _, '\r' :: '\n' :: r => skipGapsFrom false r
  | true, c :: r => if isPlain c then skipGapsFrom true r else none
  | false, '#' :: r => skipGapsFrom true r
  | false, c :: r => if isBlank c then skipGapsFrom false r else some (c :: r)

/-- Skips blanks, line ends and comments. -/
def skipGaps (s : List Char) : Option (List Char) := skipGapsFrom false s

/-- What follows the end of a line, once its comment is over. -/
def endComment : List Char → Option (List Char)
  | [] => some []
  | '\n' :: r => some r
  | '\r' :: '\n' :: r => some r
  | c :: r => if isPlain c then endComment r else none

/-- What follows a line of which nothing but blanks and a comment are left. -/
def endLine (s : List Char) : Option (List Char) :=
  match skipBlanks s with
  | [] => some []
  | '\n' :: r => some r
  | '\r' :: '\n' :: r => some r
  | '#' :: r => endComment r
  | _ => none

/-- What follows a character that must stand here. -/
def expect (c : Char) (s : List Char) : Option (List Char) :=
  match s with
  | d :: r => if d = c then some r else none
  | [] => none

/-! ## Strings as they stand -/

/-- How a string is quoted. -/
inductive Quoting where
  | basic
  | literal
  | multiBasic
  | multiLiteral
deriving DecidableEq, Repr

/-- A string as it stands: what is between its quotes, and whether it has closing ones. -/
structure RawText where
  quoting : Quoting
  body : List Char
  closed : Bool
deriving DecidableEq, Repr

/-- A stretch of a text, whether a quote closes it, and what follows. -/
abbrev Span := List Char × Bool × List Char

/-- Puts characters before a stretch. -/
def Span.prepend (cs : List Char) : Span → Span
  | (body, closed, rest) => (cs ++ body, closed, rest)

/-- The rest of a string between double quotes; it ends before a line end in any case. -/
def spanBasic : List Char → Span
  | [] => ([], false, [])
  | '"' :: r => ([], true, r)
  | '\\' :: '\\' :: r => (spanBasic r).prepend ['\\', '\\']
  | '\\' :: '"' :: r => (spanBasic r).prepend ['\\', '"']
  | '\n' :: r => ([], false, '\n' :: r)
  | c :: r => (spanBasic r).prepend [c]

/-- The rest of a string between single quotes; it ends before a line end in any case. -/
def spanLiteral : List Char → Span
  | [] => ([], false, [])
  | '\'' :: r => ([], true, r)
  | '\n' :: r => ([], false, '\n' :: r)
  | c :: r => (spanLiteral r).prepend [c]

/-- Ends a string of several lines: one or two quotes after three belong to it. -/
def closeQuotes (quote : Char) : List Char → Span
  | a :: b :: r =>
    if a = quote then if b = quote then ([quote, quote], true, r) else ([quote], true, b :: r)
    else ([], true, a :: b :: r)
  | [a] => if a = quote then ([quote], true, []) else ([], true, [a])
  | [] => ([], true, [])

/-- The rest of a string of several lines between double quotes. -/
def spanMultiBasic : List Char → Span
  | [] => ([], false, [])
  | '"' :: '"' :: '"' :: r => closeQuotes '"' r
  | '\\' :: '\\' :: r => (spanMultiBasic r).prepend ['\\', '\\']
  | '\\' :: '"' :: r => (spanMultiBasic r).prepend ['\\', '"']
  | c :: r => (spanMultiBasic r).prepend [c]

/-- The rest of a string of several lines between single quotes. -/
def spanMultiLiteral : List Char → Span
  | [] => ([], false, [])
  | '\'' :: '\'' :: '\'' :: r => closeQuotes '\'' r
  | c :: r => (spanMultiLiteral r).prepend [c]

namespace RawText

/-- Makes a string of a stretch. -/
def ofSpan (quoting : Quoting) : Span → RawText × List Char
  | (body, closed, rest) => (⟨quoting, body, closed⟩, rest)

/-- Reads a string on one line. -/
def readLine : Step RawText
  | '"' :: r => some (ofSpan .basic (spanBasic r))
  | '\'' :: r => some (ofSpan .literal (spanLiteral r))
  | _ => none

/-- Reads a string of any kind. -/
def read : Step RawText
  | '"' :: '"' :: '"' :: r => some (ofSpan .multiBasic (spanMultiBasic r))
  | '\'' :: '\'' :: '\'' :: r => some (ofSpan .multiLiteral (spanMultiLiteral r))
  | s => readLine s

end RawText

/-! ## What strings stand for -/

/-- The character that an escape of one letter stands for. -/
def simpleEscape? : Char → Option Char
  | 'b' => some '\x08'
  | 't' => some '\t'
  | 'n' => some '\n'
  | 'f' => some '\x0c'
  | 'r' => some '\r'
  | 'e' => some '\x1b'
  | '"' => some '"'
  | '\\' => some '\\'
  | _ => none

/-- How many digits an escape by code point has. -/
def codeEscape? : Char → Option Nat
  | 'x' => some 2
  | 'u' => some 4
  | 'U' => some 8
  | _ => none

/-- The character of a code point in digits of base sixteen. -/
def ofCode (digits : List Char) : Option Char :=
  if digits.all (fun c => (hexValue? c).isSome) then
    let n := ofDigits 16 digits
    if n < 0xd800 ∨ (0xdfff < n ∧ n < 0x110000) then some (Char.ofNat n) else none
  else none

/-- What a reader of strings does next: it reads on, it gathers the digits of an escape, it waits
for the line end after a backslash, or it skips the blanks after that. -/
inductive Mode where
  | plain
  | code (left : Nat) (digits : List Char)
  | beforeBreak
  | afterBreak

/-- The text of a string between double quotes. -/
def decodeBasic : Mode → List Char → Option (List Char)
  | .code .., [] => none
  | _, [] => some []
  | .code left digits, c :: r =>
    if left ≤ 1 then (ofCode (digits ++ [c])).bind fun d => (decodeBasic .plain r).map (d :: ·)
    else decodeBasic (.code (left - 1) (digits ++ [c])) r
  | _, '\\' :: c :: r =>
    match codeEscape? c, simpleEscape? c with
    | some n, _ => decodeBasic (.code n []) r
    | none, some d => (decodeBasic .plain r).map (d :: ·)
    | none, none => none
  | _, c :: r => if isPlain c && c != '\\' then (decodeBasic .plain r).map (c :: ·) else none

/-- The text of a string of several lines between double quotes. -/
def decodeMultiBasic : Mode → List Char → Option (List Char)
  | .code .., [] | .beforeBreak, [] => none
  | _, [] => some []
  | .code left digits, c :: r =>
    if left ≤ 1 then
      (ofCode (digits ++ [c])).bind fun d => (decodeMultiBasic .plain r).map (d :: ·)
    else decodeMultiBasic (.code (left - 1) (digits ++ [c])) r
  | .beforeBreak, '\n' :: r => decodeMultiBasic .afterBreak r
  | .beforeBreak, '\r' :: '\n' :: r => decodeMultiBasic .afterBreak r
  | .beforeBreak, c :: r => if isBlank c then decodeMultiBasic .beforeBreak r else none
  | .afterBreak, ' ' :: r => decodeMultiBasic .afterBreak r
  | .afterBreak, '\t' :: r => decodeMultiBasic .afterBreak r
  | .afterBreak, '\n' :: r => decodeMultiBasic .afterBreak r
  | .afterBreak, '\r' :: '\n' :: r => decodeMultiBasic .afterBreak r
  | _, '\r' :: '\n' :: r => (decodeMultiBasic .plain r).map (['\r', '\n'] ++ ·)
  | _, '\\' :: '\r' :: '\n' :: r => decodeMultiBasic .afterBreak r
  | _, '\\' :: c :: r =>
    if c = '\n' then decodeMultiBasic .afterBreak r
    else if isBlank c then decodeMultiBasic .beforeBreak r
    else match codeEscape? c, simpleEscape? c with
      | some n, _ => decodeMultiBasic (.code n []) r
      | none, some d => (decodeMultiBasic .plain r).map (d :: ·)
      | none, none => none
  | _, c :: r =>
    if (isPlain c && c != '\\') || c == '\n' then (decodeMultiBasic .plain r).map (c :: ·) else none

/-- The text of a string of several lines between single quotes. -/
def decodeMultiLiteral : List Char → Option (List Char)
  | [] => some []
  | '\r' :: '\n' :: r => (decodeMultiLiteral r).map (['\r', '\n'] ++ ·)
  | c :: r => if isPlain c || c == '\n' then (decodeMultiLiteral r).map (c :: ·) else none

/-- A text without the line end it starts with. -/
def dropLineEnd : List Char → List Char
  | '\n' :: r => r
  | '\r' :: '\n' :: r => r
  | s => s

/-- The text that a string stands for, unless something is wrong with it. -/
def RawText.decode (t : RawText) : Option String :=
  if t.closed then
    (match t.quoting with
      | .basic => decodeBasic .plain t.body
      | .literal => if t.body.all isPlain then some t.body else none
      | .multiBasic => decodeMultiBasic .plain (dropLineEnd t.body)
      | .multiLiteral => decodeMultiLiteral (dropLineEnd t.body)).map String.ofList
  else none

/-! ## Keys -/

/-- Whether a character ends a word without quotes. -/
def endsWord (c : Char) : Bool := ".=,[]{} \t#\r\n".toList.contains c

/-- The characters of keys without quotes. -/
def isKeyChar (c : Char) : Bool := c.isAlphanum || c == '_' || c == '-'

/-- The parts of a key, the last one last; a part with a fault has no text. -/
abbrev Parts := List (Option String)

/-- Reads one part of a key. -/
def readPart : Step (Option String) := fun s =>
  match RawText.readLine s with
  | some (t, rest) => some (t.decode, rest)
  | none =>
    match s.takeWhile (!endsWord ·) with
    | [] => none
    | name =>
      some (if name.all isKeyChar then some (String.ofList name) else none,
        s.dropWhile (!endsWord ·))

/-- Reads a key of parts between dots, and the blanks after it. -/
def readKey : Nat → Step Parts
  | 0, _ => none
  | fuel + 1, s => do
    let (part, r) ← readPart (skipBlanks s)
    match skipBlanks r with
    | '.' :: r =>
      let (parts, r) ← readKey fuel r
      return (part :: parts, r)
    | r => return ([part], r)

end FixBatch.Toml
