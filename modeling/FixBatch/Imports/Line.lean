import FixBatch.Text.Blank
import FixBatch.Text.Segments

/-!
# FixBatch.Imports.Line

Import lines.  A line is an import line when its trimmed text is the word `import`, alone or before
a blank; a well-formed one holds statements that each end in a semicolon and nothing else:

```
blanks (`import` blanks target blanks `;` blanks)+
```

* `targets?` — the targets of an import line, or what is wrong with it;
* `rebuilt` — the line with some of its statements only, in its own indentation and line end.
-/

namespace FixBatch.Imports

open Text

/-- What is wrong with an import line. -/
inductive Fault where
  | unterminated (text : String)
  | empty
  | trailingCode
deriving DecidableEq, Repr

/-- A faulty import line, by its number from one. -/
structure Malformed where
  line : Nat
  fault : Fault
deriving DecidableEq, Repr

/-- The text of an error about an import line. -/
def Malformed.message (m : Malformed) : String :=
  "line " ++ toString m.line ++ ": " ++
    match m.fault with
    | .unterminated text => "unterminated import `" ++ text ++ "`"
    | .empty => "empty import"
    | .trailingCode => "code after an import on the same line"

/-! ## Reading -/

/-- The text after the word `import`, which must stand alone or before a blank. -/
def afterKeyword? : List Char → Option (List Char)
  | 'i' :: 'm' :: 'p' :: 'o' :: 'r' :: 't' :: rest =>
    match rest with
    | [] => some rest
    | c :: _ => if isBlank c then some rest else none
  | _ => none

/-- Whether a line is an import line. -/
def isImportLine (line : List Char) : Bool := (afterKeyword? (trim line)).isSome

/-- The target of a statement without its semicolon. -/
def statementTarget (statement : List Char) : Except Fault (List Char) :=
  match afterKeyword? (trim statement) with
  | none => .error .trailingCode
  | some rest => if (trim rest).isEmpty then .error .empty else .ok (trim rest)

/-- The targets of the statements of an import line, left to right. -/
def targets? (line : List Char) : Except Fault (List (List Char)) :=
  let text := trim line
  if text.getLast? = some ';' then (segments (· == ';') text.dropLast).mapM statementTarget
  else .error (.unterminated (String.ofList text))

/-! ## Writing -/

/-- The statement that imports a target. -/
def statement (target : List Char) : List Char :=
  ['i', 'm', 'p', 'o', 'r', 't', ' '] ++ target ++ [';']

/-- A line with the statements for some targets in place of its own. -/
def rebuilt (line : List Char) (targets : List (List Char)) : List Char :=
  leading line ++ [' '].intercalate (targets.map statement) ++ trailing line

end FixBatch.Imports
