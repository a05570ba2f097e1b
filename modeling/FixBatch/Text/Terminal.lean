import FixBatch.Text.Utf8

/-!
# FixBatch.Text.Terminal

Texts without the control sequences that steer a terminal.  A reader follows such a sequence byte by
byte from the escape character on; what belongs to it, and every lone control but blanks and line
ends, is left out.

* `step` — where a byte takes the reader, and what the byte is there for;
* `plain` — a text at hand, without its control sequences;
* `passed` — the same for bytes on their way, which differs in one point: a blank or a line end
  inside a sequence shows, but does not end the sequence for the controls that follow.
-/

namespace FixBatch.Text.Terminal

/-! ## Control sequences -/

/-- Where a reader is: between sequences, inside a character of several bytes, or inside a sequence
of one of four kinds. -/
inductive State where
  | ground
  | character (owed : Nat)
  | escape
  | escapeIntermediate
  | controlEntry
  | controlParameter
  | controlIntermediate
  | controlIgnored
  | deviceEntry
  | deviceParameter
  | deviceIntermediate
  | deviceIgnored
  | devicePassing
  | command
  | string
deriving DecidableEq, Repr

/-- What a byte is there for. -/
inductive Effect where
  | nothing
  | show
  | beginCharacter
  | control
deriving DecidableEq, Repr

/-- A byte between sequences. -/
def groundStep (b : Nat) : Option State × Effect :=
  if b < 0x20 then (none, .control)
  else if b < 0x80 then (none, .show)
  else if b ≤ 0x8f ∨ (0x91 ≤ b ∧ b ≤ 0x9a) ∨ b = 0x9c then (none, .control)
  else if 0xc2 ≤ b ∧ b ≤ 0xdf then (some (.character 1), .beginCharacter)
  else if 0xe0 ≤ b ∧ b ≤ 0xef then (some (.character 2), .beginCharacter)
  else if 0xf0 ≤ b ∧ b ≤ 0xf4 then (some (.character 3), .beginCharacter)
  else (none, .nothing)

/-- The state after a byte above the controls inside a sequence, if the byte changes it. -/
def State.next? (s : State) (b : Nat) : Option State :=
  let intermediate := 0x20 ≤ b ∧ b ≤ 0x2f
  let parameter := 0x30 ≤ b ∧ b ≤ 0x3b
  let mark := 0x3c ≤ b ∧ b ≤ 0x3f
  let final := 0x40 ≤ b ∧ b ≤ 0x7e
  match s with
  | .ground | .character _ => none
  | .escape =>
    if intermediate then some .escapeIntermediate
    else if b = 0x5b then some .controlEntry
    else if b = 0x5d then some .command
    else if b = 0x50 then some .deviceEntry
    else if b = 0x58 ∨ b = 0x5e ∨ b = 0x5f then some .string
    else if 0x30 ≤ b ∧ b ≤ 0x7e then some .ground
    else none
  | .escapeIntermediate => if 0x30 ≤ b ∧ b ≤ 0x7e then some .ground else none
  | .controlEntry =>
    if intermediate then some .controlIntermediate
    else if parameter ∨ mark then some .controlParameter
    else if final then some .ground
    else none
  | .controlParameter =>
    if intermediate then some .controlIntermediate
    else if mark then some .controlIgnored
    else if final then some .ground
    else none
  | .controlIntermediate =>
    if parameter ∨ mark then some .controlIgnored else if final then some .ground else none
  | .controlIgnored => if final then some .ground else none
  | .deviceEntry =>
    if intermediate then some .deviceIntermediate
    else if parameter ∨ mark then some .deviceParameter
    else if final then some .devicePassing
    else none
  | .deviceParameter =>
    if intermediate then some .deviceIntermediate
    else if mark then some .deviceIgnored
    else if final then some .devicePassing
    else none
  | .deviceIntermediate =>
    if parameter ∨ mark then some .deviceIgnored else if final then some .devicePassing else none
  | .deviceIgnored | .devicePassing | .string => if b = 0x9c then some .ground else none
  | .command => if b = 0x07 then some .ground else none

/-- Whether controls inside a sequence are carried out, rather than taken for a part of it. -/
def State.obeysControls : State → Bool
  | .ground | .escape | .escapeIntermediate | .controlEntry | .controlParameter
  | .controlIntermediate | .controlIgnored => true
  | _ => false

/-- Where a byte takes the reader, if anywhere, and what it is there for. -/
def step (s : State) (b : Nat) : Option State × Effect :=
  if b = 0x18 ∨ b = 0x1a then (some .ground, .control)
  else if b = 0x1b then (some .escape, .nothing)
  else if s = .ground then groundStep b
  else if b < 0x20 ∧ s.obeysControls then (none, .control)
  else (s.next? b, .nothing)

/-! ## What shows -/

/-- Blanks and line ends. -/
def isBlankByte (b : Nat) : Bool := b = 0x20 || b = 0x09 || b = 0x0a || b = 0x0c || b = 0x0d

/-- Whether a byte shows. -/
def shows (e : Effect) (b : Nat) : Bool :=
  (e == .show && b != 0x7f) || e == .beginCharacter || (e == .control && isBlankByte b)

/-- Whether a byte goes on with a character. -/
def isContinuation (b : Nat) : Bool := 0x80 ≤ b && b ≤ 0xbf

/-- The bytes of a text that show: a byte that shows ends every sequence. -/
def plainBytes : State → List UInt8 → List UInt8
  | _, [] => []
  | s, b :: rest =>
    let (next, effect) := step s b.toNat
    if shows effect b.toNat || isContinuation b.toNat then b :: plainBytes .ground rest
    else plainBytes (next.getD s) rest

/-- The bytes that show of those that pass by.  While bytes show, each is read as if it stood
between sequences; `showing` says that the byte before showed. -/
def passedBytes (showing : Bool) : State → List UInt8 → List UInt8
  | _, [] => []
  | .character owed, b :: rest =>
    b :: passedBytes true (if owed ≤ 1 then .ground else .character (owed - 1)) rest
  | s, b :: rest =>
    let (next, effect) := step (if showing then .ground else s) b.toNat
    let s := next.getD s
    if shows effect b.toNat then b :: passedBytes true s rest
    else if showing then passedBytes false ((step s b.toNat).1.getD s) rest
    else passedBytes false s rest

/-- A text without its control sequences. -/
def plain (s : String) : String :=
  String.ofList (Utf8.lossy (plainBytes .ground s.toUTF8.toList))

/-- What a text comes to when it passes by without its control sequences. -/
def passed (s : String) : String :=
  String.ofList (Utf8.lossy (passedBytes false .ground s.toUTF8.toList))

/-! ## Emphasis -/

/-- A text that a terminal is to show in bold letters. -/
def emphasised (s : String) : String := "\x1b[1m" ++ s ++ "\x1b[0m"

end FixBatch.Text.Terminal
