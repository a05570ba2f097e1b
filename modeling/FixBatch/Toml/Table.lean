import FixBatch.Toml.Value

/-!
# FixBatch.Toml.Table

Building the table of a document.  A header opens a table that no header has opened before, through
tables and the last elements of arrays of tables; a dotted key goes through tables that only dotted
keys have made; no key is given twice.
-/

namespace FixBatch.Toml

namespace Entries

/-- Gives a key a value, in its old place if it has one. -/
def set (entries : Entries) (key : String) (v : Value) : Entries :=
  if (entries.lookup key).isSome then entries.map fun e => if e.1 == key then (key, v) else e
  else entries ++ [(key, v)]

/-- Changes the table at the end of the path of a header; tables on the way that are not there come
to be. -/
def descend (f : Entries → Option Entries) : List String → Entries → Option Entries
  | [], entries => f entries
  | key :: path, entries =>
    match entries.lookup key with
    | none => do return entries.set key (.table .implied (← descend f path []))
    | some (.table .inline _) => none
    | some (.table origin inner) => do
      return entries.set key (.table origin (← descend f path inner))
    | some (.tables (last :: before)) => do
      return entries.set key (.tables ((← descend f path last) :: before))
    | some _ => none

/-- Opens a table under a header. -/
def openTable (path : List String) (key : String) : Entries → Option Entries :=
  descend (fun entries =>
    match entries.lookup key with
    | none => some (entries.set key (.table .header []))
    | some (.table .implied inner) => some (entries.set key (.table .header inner))
    | some _ => none) path

/-- Opens the next element of an array of tables under a header. -/
def openElement (path : List String) (key : String) : Entries → Option Entries :=
  descend (fun entries =>
    match entries.lookup key with
    | none => some (entries.set key (.tables [[]]))
    | some (.tables elements) => some (entries.set key (.tables ([] :: elements)))
    | some _ => none) path

/-- Gives a dotted key a value.  Under a name that the way to a header has brought about, at least
one more part has to follow before the last one; so it has to under an array of tables, where the
key belongs to its last element. -/
def add (v : Value) (key : String) : List String → Entries → Option Entries
  | [], entries => if (entries.lookup key).isSome then none else some (entries.set key v)
  | step :: path, entries =>
    match entries.lookup step with
    | none => do return entries.set step (.table .dotted (← add v key path []))
    | some (.table .dotted inner) => do
      return entries.set step (.table .dotted (← add v key path inner))
    | some (.table .implied inner) =>
      if path.isEmpty then none
      else do return entries.set step (.table .implied (← add v key path inner))
    | some (.tables (last :: before)) =>
      if path.isEmpty then none
      else do return entries.set step (.tables ((← add v key path last) :: before))
    | some _ => none

end Entries

end FixBatch.Toml
