import FixBatch.Shell.Running

/-!
# FixBatch.Shell.Assigning

Assignments: what they come to, and how they are carried out.
-/

namespace FixBatch.Shell

variable {m : Type → Type} [Monad m]

/-- What a variable gets. -/
inductive Assigned where
  | text (s : Bytes)
  | elements (items : List Bytes)

/-- An assignment whose words have been filled in. -/
structure Setting where
  name : Bytes
  subscript : Option Bytes
  adds : Bool
  value : Assigned

/-- Fills the words of an assignment in. -/
def Assignment.expand (run : Substitute m) (a : Assignment) : Act m Setting := do
  let subscript ← a.subscript.mapM fun w => expandText run w
  match a.value with
  | [.elements items] => do
    let items ← items.flatMapM (expandFields run)
    return ⟨a.name, subscript, a.adds, .elements items⟩
  | w => return ⟨a.name, subscript, a.adds, .text (← expandValue run w)⟩

/-- Gives a variable elements, after those that it has or instead of them. -/
def assignElements (name : Bytes) (adds : Bool) (items : List Bytes) : Act m Unit :=
  modify fun s =>
    let start := if adds then s.elements name else []
    let next := (start.getLast?.map fun e => e.1 + 1).getD 0
    s.putList name (start ++ (items.zipIdx next).map Prod.swap)

/-- Carries an assignment out. -/
def Setting.apply (a : Setting) : Act m Unit := do
  match a.value, a.subscript with
  | .elements items, none => assignElements a.name a.adds items
  | .elements _, some key =>
    abandon (a.name ++ "[" ++ key ++ "]: cannot assign list to array member")
  | .text text, none =>
    modify fun s => s.assign a.name (if a.adds then (s.parameter? a.name).getD "" ++ text else text)
  | .text text, some key => do
    if key.isEmpty then abandon (a.name ++ "[]: bad array subscript")
    let old ← if a.adds then do pure ((← elementOf? a.name key).getD "") else pure ""
    putElement a.name key (old ++ text)

end FixBatch.Shell
