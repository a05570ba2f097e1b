import FixBatch.Toml.Scalar

/-!
# FixBatch.Toml.Statement

The statements of TOML documents: headers, and keys with their values.  Reading them settles whether
a text has the form of a document; what its keys and strings stand for, and whether its tables go
together, is a question about the statements.

The counts that the readers carry are at least as large as the text is long, so no run uses them up.

* `readStatements` — the statements of a text.
-/

namespace FixBatch.Toml

/-- A value as it is written.  A scalar with a fault has no value. -/
inductive Node where
  | scalar (v : Option Value)
  | array (items : List Node)
  | table (entries : List (Parts × Node))

/-- A statement: the header of a table, the header of an element of an array of tables, or a key
with its value. -/
inductive Statement where
  | table (key : Parts)
  | element (key : Parts)
  | pair (key : Parts) (value : Node)

/-- How deep values may nest. -/
def maxDepth : Nat := 80

mutual

/-- Reads a value that stands in so many brackets. -/
def readNode : Nat → Nat → Step Node
  | 0, _, _ => none
  | fuel + 1, depth, s =>
    match s with
    | '"' :: _ | '\'' :: _ =>
      (RawText.read s).map fun (t, r) => (.scalar (t.decode.map .text), r)
    | '[' :: r =>
      if maxDepth ≤ depth then none
      else (readItems fuel (depth + 1) r).map fun (items, r) => (.array items, r)
    | '{' :: r =>
      if maxDepth ≤ depth then none
      else (readEntries fuel (depth + 1) r).map fun (entries, r) => (.table entries, r)
    | _ => (readScalar s).map fun (v, r) => (.scalar v, r)

/-- Reads the items of an array that are left. -/
def readItems : Nat → Nat → Step (List Node)
  | 0, _, _ => none
  | fuel + 1, depth, s => do
    match ← skipGaps s with
    | ']' :: r => return ([], r)
    | s =>
      let (v, r) ← readNode fuel depth s
      match ← skipGaps r with
      | ']' :: r => return ([v], r)
      | ',' :: r =>
        let (vs, r) ← readItems fuel depth r
        return (v :: vs, r)
      | _ => none

/-- Reads the entries of a table between braces that are left. -/
def readEntries : Nat → Nat → Step (List (Parts × Node))
  | 0, _, _ => none
  | fuel + 1, depth, s => do
    match ← skipGaps s with
    | '}' :: r => return ([], r)
    | s =>
      let (key, r) ← readKey fuel s
      let (v, r) ← readNode fuel depth (skipBlanks (← expect '=' r))
      match ← skipGaps r with
      | '}' :: r => return ([(key, v)], r)
      | ',' :: r =>
        let (entries, r) ← readEntries fuel depth r
        return ((key, v) :: entries, r)
      | _ => none

end

/-- Reads the key of a header, which ends in the given brackets, and the rest of its line. -/
def readHeader (fuel : Nat) (closing : List Char) : Step Parts := fun s => do
  let (key, r) ← readKey fuel s
  if closing.isPrefixOf r then return (key, ← endLine (r.drop closing.length)) else none

/-- Reads a statement and the rest of its line. -/
def readStatement (fuel : Nat) : Step Statement
  | '[' :: '[' :: r => (readHeader fuel [']', ']'] r).map fun (key, r) => (.element key, r)
  | '[' :: r => (readHeader fuel [']'] r).map fun (key, r) => (.table key, r)
  | s => do
    let (key, r) ← readKey fuel s
    let (v, r) ← readNode fuel 0 (skipBlanks (← expect '=' r))
    return (.pair key v, ← endLine r)

/-- Reads the statements that are left. -/
def readStatementsFrom : Nat → List Char → Option (List Statement)
  | 0, _ => none
  | fuel + 1, s => do
    match ← skipGaps s with
    | [] => return []
    | s =>
      let (statement, r) ← readStatement fuel s
      return statement :: (← readStatementsFrom fuel r)

/-- A text without the byte order mark it may start with. -/
def dropByteOrderMark : List Char → List Char
  | '\ufeff' :: r => r
  | s => s

/-- The statements of a text, unless it has not the form of a document. -/
def readStatements (s : List Char) : Option (List Statement) :=
  readStatementsFrom (2 * s.length + 2) (dropByteOrderMark s)

end FixBatch.Toml
