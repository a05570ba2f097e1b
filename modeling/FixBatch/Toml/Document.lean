import FixBatch.Toml.Statement
import FixBatch.Toml.Table

/-!
# FixBatch.Toml.Document

The tables of TOML documents.  The statements of a document are carried out in their order, each on
the table that those before it have made; the first fault ends the reading.

* `read` — the table of a text.
-/

namespace FixBatch.Toml

/-- Why a text has no table: something is wrong at a place of it, or a key has too many parts. -/
inductive Fault where
  | malformed
  | keyTooLong
deriving DecidableEq, Repr

/-- What has to be there, or the text is malformed. -/
def orMalformed (a : Option α) : Except Fault α := a.elim (.error .malformed) .ok

/-! ## Keys -/

/-- A key: the names on the way, and the last one. -/
structure Key where
  path : List String
  last : String
deriving DecidableEq, Repr

/-- How many names may stand on the way of a key. -/
def maxPath : Nat := 79

/-- A key from its parts.  The parts are looked at before they are counted. -/
def Key.ofParts (parts : Parts) : Except Fault Key := do
  let names ← parts.mapM orMalformed
  let last ← orMalformed names.getLast?
  if maxPath < names.dropLast.length then throw .keyTooLong
  return ⟨names.dropLast, last⟩

/-- All names of a key. -/
def Key.names (key : Key) : List String := key.path ++ [key.last]

/-! ## Values -/

mutual

/-- The value of a node. -/
def Node.value : Node → Except Fault Value
  | .scalar v => orMalformed v
  | .array items => do return .array (← valuesOf items)
  | .table entries => do return .table .inline (← entriesOf [] entries)

/-- The values of nodes, in their order. -/
def valuesOf : List Node → Except Fault (List Value)
  | [] => return []
  | n :: rest => do
    let v ← n.value
    return v :: (← valuesOf rest)

/-- The entries of a table between braces, after those before them. -/
def entriesOf (before : Entries) : List (Parts × Node) → Except Fault Entries
  | [] => return before
  | (parts, n) :: rest => do
    let key ← Key.ofParts parts
    let v ← n.value
    entriesOf (← orMalformed (before.add v key.last key.path)) rest

end

/-! ## Documents -/

/-- A document as far as it has been carried out: its table, and the path of the open header. -/
structure Open where
  table : Entries
  path : List String

namespace Open

/-- Carries out a statement. -/
def carryOut (d : Open) : Statement → Except Fault Open
  | .table parts => do
    let key ← Key.ofParts parts
    return ⟨← orMalformed (d.table.openTable key.path key.last), key.names⟩
  | .element parts => do
    let key ← Key.ofParts parts
    return ⟨← orMalformed (d.table.openElement key.path key.last), key.names⟩
  | .pair parts n => do
    let key ← Key.ofParts parts
    let v ← n.value
    let table ← orMalformed (d.table.descend (Entries.add v key.last key.path) d.path)
    return { d with table }

end Open

/-- The table of a document. -/
def read (s : List Char) : Except Fault Entries := do
  let statements ← orMalformed (readStatements s)
  return (← statements.foldlM Open.carryOut ⟨[], []⟩).table

end FixBatch.Toml
