/-!
# FixBatch.Json.Value

JSON values as this library writes them, and their texts.  A text is laid out on one line without
blanks or over several lines with two blanks a level; both come from one writer, which differs in
what it puts between tokens.

* `Value.write` — the text of a value in a layout, at a depth;
* `escaped` — a character inside a string.
-/

namespace FixBatch.Json

/-- A value to write. -/
inductive Value where
  | null
  | bool (b : Bool)
  | number (n : Nat)
  | text (s : String)
  | array (items : List Value)
  | object (members : List (String × Value))
deriving Repr

/-- How a text is laid out: on one line, or over several. -/
inductive Layout where
  | compact
  | pretty
deriving DecidableEq, Repr

namespace Layout

/-- What stands before an item at a depth. -/
def lineBreak : Layout → Nat → List Char
  | compact, _ => []
  | pretty, depth => '\n' :: List.replicate (2 * depth) ' '

/-- What stands between a key and its value. -/
def colon : Layout → List Char
  | compact => [':']
  | pretty => [':', ' ']

end Layout

/-! ## Strings -/

/-- The digit of a number below sixteen, in lower case. -/
def hexDigit (n : Nat) : Char := if n < 10 then Char.ofNat (48 + n) else Char.ofNat (87 + n)

/-- A character inside a string: quotes, backslashes and controls are escaped, all else stands. -/
def escaped (c : Char) : List Char :=
  match c with
  | '"' => ['\\', '"']
  | '\\' => ['\\', '\\']
  | '\x08' => ['\\', 'b']
  | '\t' => ['\\', 't']
  | '\n' => ['\\', 'n']
  | '\x0c' => ['\\', 'f']
  | '\r' => ['\\', 'r']
  | c =>
    if c.toNat < 0x20 then ['\\', 'u', '0', '0', hexDigit (c.toNat / 16), hexDigit (c.toNat % 16)]
    else [c]

/-- A string between quotes. -/
def writeString (s : String) : List Char := '"' :: s.toList.flatMap escaped ++ ['"']

/-! ## Values -/

mutual

/-- The text of a value in a layout, at a depth. -/
def Value.write (layout : Layout) (depth : Nat) : Value → List Char
  | .null => ['n', 'u', 'l', 'l']
  | .bool true => ['t', 'r', 'u', 'e']
  | .bool false => ['f', 'a', 'l', 's', 'e']
  | .number n => Nat.toDigits 10 n
  | .text s => writeString s
  | .array [] => ['[', ']']
  | .array (v :: vs) =>
    '[' :: layout.lineBreak (depth + 1) ++ v.write layout (depth + 1) ++
      writeItems layout (depth + 1) vs ++ layout.lineBreak depth ++ [']']
  | .object [] => ['{', '}']
  | .object ((k, v) :: ms) =>
    '{' :: layout.lineBreak (depth + 1) ++ writeString k ++ layout.colon ++
      v.write layout (depth + 1) ++ writeMembers layout (depth + 1) ms ++
      layout.lineBreak depth ++ ['}']

/-- The items of an array after the first. -/
def writeItems (layout : Layout) (depth : Nat) : List Value → List Char
  | [] => []
  | v :: vs =>
    ',' :: layout.lineBreak depth ++ v.write layout depth ++ writeItems layout depth vs

/-- The members of an object after the first. -/
def writeMembers (layout : Layout) (depth : Nat) : List (String × Value) → List Char
  | [] => []
  | (k, v) :: ms =>
    ',' :: layout.lineBreak depth ++ writeString k ++ layout.colon ++ v.write layout depth ++
      writeMembers layout depth ms

end

/-- The text of a value on one line. -/
def Value.compact (v : Value) : String := String.ofList (v.write .compact 0)

/-- The text of a value over several lines. -/
def Value.pretty (v : Value) : String := String.ofList (v.write .pretty 0)

/-- An array of strings. -/
def Value.texts (l : List String) : Value := .array (l.map .text)

end FixBatch.Json
