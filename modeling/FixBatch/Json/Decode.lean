import FixBatch.Decimal.Shortest
import FixBatch.Json.Reader
import FixBatch.Schema
import FixBatch.Text.Quoted

/-!
# FixBatch.Json.Decode

From documents to values of the domain.  A decoder looks at a document in reading order, so of two
faults it reports the one that comes first in the text.  Records are objects, or arrays of their
fields in order; unknown fields are scanned and left out, and a known one may not come twice.

* `Record.read` — the documents of a record's fields;
* `words` — a value that is written as one of several words;
* `decode` — the value of a whole text.
-/

namespace FixBatch.Json

/-- Why a text does not stand for a value. -/
inductive Error where
  | endOfText
  | malformed
  | data (message : String)
deriving DecidableEq, Repr

/-- The error that a fault of the text makes. -/
def Fault.toError : Fault → Error
  | .endOfText => .endOfText
  | .malformed => .malformed

/-- What a document becomes. -/
abbrev Decoder (α : Type) := Doc → Except Error α

/-- A token's value, or the fault that reading it meets. -/
def Reading.get (r : Reading α) : Except Error α := r.value.mapError Fault.toError

/-- Passes unless there is a fault. -/
def noFault : Option Fault → Except Error Unit
  | none => .ok ()
  | some f => .error f.toError

/-! ## Values in messages -/

/-- Numbers in messages have their point in its place for exponents from −5 to 15. -/
def numberForm : Decimal.Form where
  positional e := -5 ≤ e && e ≤ 15
  notANumber := "NaN"
  infinite := "inf"

/-- A number in messages. -/
def Number.described : Number → String
  | .natural n => "integer " ++ Schema.ticked (toString n)
  | .negative i => "integer " ++ Schema.ticked (toString i)
  | .real x => "floating point " ++ Schema.ticked (numberForm.render x)

/-- Refuses a document of the wrong type, once its own text has been read. -/
def wrongType (d : Doc) (expected : String) : Except Error α :=
  let refuse (found : String) : Except Error α := .error (.data (Schema.invalidType found expected))
  match d with
  | .absent f | .broken f => .error f.toError
  | .null => refuse "null"
  | .bool b => refuse ("boolean " ++ Schema.ticked (toString b))
  | .number n => n.get >>= fun n => refuse n.described
  | .text s => s.get >>= fun s => refuse ("string " ++ String.ofList (Text.quoted s))
  | .array _ => refuse "sequence"
  | .object _ => refuse "map"

/-! ## Plain values -/

/-- A string; `expected` says what it should be. -/
def string (expected : String) : Decoder String
  | .text s => s.get.map String.ofList
  | d => wrongType d expected

def truth : Decoder Bool
  | .bool b => .ok b
  | d => wrongType d "a boolean"

/-- A natural number of 64 bits. -/
def natural : Decoder Nat
  | .number n => n.get >>= fun
    | .natural n => .ok n
    | .negative i =>
      .error (.data (Schema.invalidValue ("integer " ++ Schema.ticked (toString i)) "u64"))
    | .real x => .error (.data (Schema.invalidType (Number.real x).described "u64"))
  | d => wrongType d "u64"

/-- Nothing but null; `expected` says what null stands for. -/
def unit (expected : String) : Decoder Unit
  | .null => .ok ()
  | d => wrongType d expected

/-- A value that null leaves out. -/
def nullable (decode : Decoder α) : Decoder (Option α)
  | .null => .ok none
  | d => (decode d).map some

/-- Items, one decoder for all. -/
def items (decode : Decoder α) : Items → Except Error (List α)
  | .closed => .ok []
  | .broken f => .error f.toError
  | .item d rest => do
    let a ← decode d
    return a :: (← items decode rest)

/-- An array, one decoder for all items. -/
def array (decode : Decoder α) : Decoder (List α)
  | .array is => items decode is
  | d => wrongType d "a sequence"

/-! ## Words -/

/-- The value of a word, if it is one of several. -/
def ofWord (known : List (String × α)) (word : List Char) : Except Error α :=
  match known.find? fun k => k.1.toList == word with
  | some (_, a) => .ok a
  | none => .error (.data (Schema.unknownVariant (String.ofList word) (known.map Prod.fst)))

/-- One of several words, or an object with that word as its only key and null under it. -/
def words (known : List (String × α)) : Decoder α
  | .text s => s.get >>= ofWord known
  | .object (.member key value rest) => do
    let a ← key.get >>= ofWord known
    unit "unit" value
    match rest with
    | .closed => return a
    | .broken f => throw f.toError
    | .stray _ | .member .. => throw .malformed
  | .object (.stray d) => .error (strayFault d).toError
  | .object (.broken f) | .absent f => .error f.toError
  | _ => .error .malformed

/-! ## Records -/

/-- A field of a record: what its value must be, and whether the record needs it. -/
structure Field where
  name : String
  check : Decoder Unit
  needed : Bool

/-- A field that a record needs. -/
def Field.of (name : String) (decode : Decoder α) : Field :=
  ⟨name, fun d => (decode d).map fun _ => (), true⟩

/-- A field that a record can do without. -/
def Field.optional (f : Field) : Field := { f with needed := false }

/-- A record: its name in messages, and its fields in order. -/
structure Record where
  name : String
  fields : List Field

/-- The documents of some fields. -/
abbrev Found := List (String × Doc)

namespace Record

/-- Gathers the fields of an object. -/
def readMembers (fields : List Field) (found : Found) : Members → Except Error Found
  | .closed => .ok found
  | .broken f => .error f.toError
  | .stray d => .error (strayFault d).toError
  | .member key value rest => do
    let name ← key.get
    match fields.find? fun f => f.name.toList == name with
    | none =>
      noFault value.scan
      readMembers fields found rest
    | some field =>
      if (found.lookup field.name).isSome then throw (.data (Schema.duplicateField field.name))
      field.check value
      readMembers fields ((field.name, value) :: found) rest

/-- The first field that a record needs and an object lacks. -/
def missing? (fields : List Field) (found : Found) : Option Field :=
  fields.find? fun f => f.needed && (found.lookup f.name).isNone

/-- Gathers the fields of an array, the first of which is the one at `place`. -/
def readItems (expected : String) (place : Nat) (found : Found) :
    List Field → Items → Except Error Found
  | _, .broken f => .error f.toError
  | [], .closed => .ok found
  | [], .item .. => .error .malformed
  | field :: fields, .closed =>
    if field.needed then .error (.data (Schema.invalidLength place expected))
    else readItems expected (place + 1) found fields .closed
  | field :: fields, .item value rest => do
    field.check value
    readItems expected (place + 1) ((field.name, value) :: found) fields rest

/-- What a record is in messages. -/
def expected (r : Record) : String := "struct " ++ r.name

/-- The documents of a record's fields; all that it needs are there, and all pass their checks. -/
def read (r : Record) : Decoder Found
  | .object members => do
    let found ← readMembers r.fields [] members
    match missing? r.fields found with
    | some f => throw (.data (Schema.missingField f.name))
    | none => return found
  | .array is =>
    let elements := toString r.fields.length ++
      if r.fields.length = 1 then " element" else " elements"
    readItems (r.expected ++ " with " ++ elements) 0 [] r.fields is
  | d => wrongType d r.expected

end Record

/-- A field's value. -/
def Found.get (found : Found) (name : String) (decode : Decoder α) : Except Error α :=
  match found.lookup name with
  | some d => decode d
  | none => .error (.data (Schema.missingField name))

/-- A field's value, or the one that stands in for it. -/
def Found.getD (found : Found) (name : String) (decode : Decoder α) (absent : α) : Except Error α :=
  match found.lookup name with
  | some d => decode d
  | none => .ok absent

/-! ## Whole texts -/

/-- The value of a text: one document, and nothing but blanks after it. -/
def decode (decoder : Decoder α) (s : List Char) : Except Error α := do
  let (doc, rest) := Doc.read s
  let a ← decoder doc
  if (skipBlanks (rest.getD [])).isEmpty then return a else throw .malformed

end FixBatch.Json
