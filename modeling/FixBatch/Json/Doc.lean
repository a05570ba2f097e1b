/-!
# FixBatch.Json.Doc

A JSON text as a reader meets it.  A text may break off or go wrong at any place, and what a reader
reports depends on how far it had to look: a value nobody asks for is only scanned, one that is
asked for is read.  So a document keeps, in reading order, everything up to the place where even
scanning stops, and at strings and numbers both findings: the value, and how scanning ends.

* `Doc.scan` — the fault that scanning a document meets, if any;
* `Doc.keep` — the fault that reading all of it meets, if any.
-/

namespace FixBatch.Json

/-- Why a text is no JSON: it ends too early, or something else stands where it should not. -/
inductive Fault where
  | endOfText
  | malformed
deriving DecidableEq, Repr

/-- A token, read and scanned.  Reading stops no later than scanning does. -/
structure Reading (α : Type) where
  value : Except Fault α
  scanFault : Option Fault

/-- A number: what fits 64 bits unsigned, what is negative and fits them signed, and the rest. -/
inductive Number where
  | natural (n : Nat)
  | negative (i : Int)
  | real (x : Float)

mutual

/-- A value, up to where it breaks off. -/
inductive Doc where
  /-- No value begins here. -/
  | absent (f : Fault)
  /-- A word begins here and is none of the three known ones. -/
  | broken (f : Fault)
  | null
  | bool (b : Bool)
  | number (n : Reading Number)
  | text (s : Reading (List Char))
  | array (items : Items)
  | object (members : Members)

/-- The items of an array, up to its end or to where it breaks off. -/
inductive Items where
  | closed
  | broken (f : Fault)
  | item (value : Doc) (rest : Items)

/-- The members of an object, up to its end or to where it breaks off. -/
inductive Members where
  | closed
  | broken (f : Fault)
  /-- Something that is no string stands in place of a key. -/
  | stray (key : Doc)
  | member (key : Reading (List Char)) (value : Doc) (rest : Members)

end

/-- The fault that a reading of a token reports. -/
def Reading.fault? (r : Reading α) : Option Fault :=
  match r.value with
  | .ok _ => none
  | .error f => some f

/-- The fault for something that stands in place of a key: it is malformed unless nothing is
there. -/
def strayFault : Doc → Fault
  | .absent f => f
  | _ => .malformed

mutual

/-- The first fault that scanning a value meets. -/
def Doc.scan : Doc → Option Fault
  | .absent f | .broken f => some f
  | .null | .bool _ => none
  | .number n => n.scanFault
  | .text s => s.scanFault
  | .array items => items.scan
  | .object members => members.scan

/-- The first fault that scanning items meets. -/
def Items.scan : Items → Option Fault
  | .closed => none
  | .broken f => some f
  | .item value rest => value.scan.or rest.scan

/-- The first fault that scanning members meets. -/
def Members.scan : Members → Option Fault
  | .closed => none
  | .broken f => some f
  | .stray key => some (strayFault key)
  | .member key value rest => key.scanFault.or (value.scan.or rest.scan)

end

/-- The deepest nesting that may be read for keeps. -/
def maxDepth : Nat := 127

mutual

/-- The first fault that reading a value for keeps meets, below some opened brackets. -/
def Doc.keep (depth : Nat) : Doc → Option Fault
  | .absent f | .broken f => some f
  | .null | .bool _ => none
  | .number n => n.fault?
  | .text s => s.fault?
  | .array items => if maxDepth ≤ depth then some .malformed else items.keep (depth + 1)
  | .object members => if maxDepth ≤ depth then some .malformed else members.keep (depth + 1)

/-- The first fault that reading items for keeps meets. -/
def Items.keep (depth : Nat) : Items → Option Fault
  | .closed => none
  | .broken f => some f
  | .item value rest => (value.keep depth).or (rest.keep depth)

/-- The first fault that reading members for keeps meets. -/
def Members.keep (depth : Nat) : Members → Option Fault
  | .closed => none
  | .broken f => some f
  | .stray key => some (strayFault key)
  | .member key value rest => key.fault?.or ((value.keep depth).or (rest.keep depth))

end

end FixBatch.Json
