import FixBatch.Decimal.Shortest
import FixBatch.Schema
import FixBatch.Text.Quoted

/-!
# FixBatch.Toml.Value

The values of TOML documents.  A table remembers how it came to be, since that decides who may add
to it; what it holds does not depend on that.
-/

namespace FixBatch.Toml

/-- How a table came to be: between braces, under a header of its own, on the way to the table of a
header, or on the way to a dotted key. -/
inductive Origin where
  | inline
  | header
  | implied
  | dotted
deriving DecidableEq, Repr

/-- A value.  The elements of an array of tables stand last first. -/
inductive Value where
  | text (s : String)
  /-- An integer; one whose digits cannot be read has no value. -/
  | integer (i : Option Int)
  /-- A float; one that is out of reach has no value. -/
  | float (x : Option Float)
  | bool (b : Bool)
  | datetime
  | array (items : List Value)
  | tables (elements : List (List (String × Value)))
  | table (origin : Origin) (entries : List (String × Value))

/-- The entries of a table, in the order of the text. -/
abbrev Entries := List (String × Value)

/-- Numbers in messages have their point in its place, however long they grow. -/
def numberForm : Decimal.Form where
  positional _ := true
  notANumber := "NaN"
  infinite := "inf"

/-- An integer in messages; one of more than 128 bits cannot be described. -/
def integerDescribed (i : Int) : Option String :=
  let named (suffix : String) := some ("integer " ++ Schema.ticked (toString i) ++ suffix)
  let power (n : Nat) : Int := Nat.pow 2 n
  if -power 63 ≤ i ∧ i < power 64 then named ""
  else if -power 127 ≤ i ∧ i < power 127 then named " as i128"
  else if 0 ≤ i ∧ i < power 128 then named " as u128"
  else none

/-- A value in messages; numbers without a value cannot be described. -/
def Value.described : Value → Option String
  | .text s => some ("string " ++ Text.quotedString s)
  | .integer i => i.bind integerDescribed
  | .float x => x.map fun x => "floating point " ++ Schema.ticked (numberForm.render x)
  | .bool b => some ("boolean " ++ Schema.ticked (toString b))
  | .array _ | .tables _ => some "sequence"
  | .datetime | .table .. => some "map"

end FixBatch.Toml
