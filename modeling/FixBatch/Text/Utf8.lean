/-!
# FixBatch.Text.Utf8

Reading bytes as text when some of them may be no text at all.  The reader is a machine that eats
one byte at a time; where the bytes stop being UTF-8 it writes one replacement character for each
longest stretch that could still have begun a character, and starts over.
-/

namespace FixBatch.Text.Utf8

/-- A character of which some bytes are still owed: the value of the bytes read, how many are
missing, and the bounds of the next one. -/
structure Pending where
  value : Nat
  owed : Nat
  low : Nat
  high : Nat

/-- What a byte between two characters does. -/
inductive First where
  | char (c : Char)
  | begins (p : Pending)
  | malformed

/-- The character stands for bytes that are no text. -/
def replacement : Char := '\ufffd'

/-- Reads a byte that stands between two characters. -/
def first (b : Nat) : First :=
  if b < 0x80 then .char (Char.ofNat b)
  else if 0xc2 ≤ b ∧ b ≤ 0xdf then .begins ⟨b - 0xc0, 1, 0x80, 0xbf⟩
  else if 0xe0 ≤ b ∧ b ≤ 0xef then
    .begins ⟨b - 0xe0, 2, if b = 0xe0 then 0xa0 else 0x80, if b = 0xed then 0x9f else 0xbf⟩
  else if 0xf0 ≤ b ∧ b ≤ 0xf4 then
    .begins ⟨b - 0xf0, 3, if b = 0xf0 then 0x90 else 0x80, if b = 0xf4 then 0x8f else 0xbf⟩
  else .malformed

/-- The characters a byte completes, and the character it leaves pending. -/
def restart (b : Nat) : List Char × Option Pending :=
  match first b with
  | .char c => ([c], none)
  | .begins p => ([], some p)
  | .malformed => ([replacement], none)

/-- The characters a byte completes after a pending one, and the character it leaves pending. -/
def step (pending : Option Pending) (b : Nat) : List Char × Option Pending :=
  match pending with
  | none => restart b
  | some p =>
    if p.low ≤ b ∧ b ≤ p.high then
      let value := p.value * 64 + (b - 0x80)
      if p.owed ≤ 1 then ([Char.ofNat value], none)
      else ([], some ⟨value, p.owed - 1, 0x80, 0xbf⟩)
    else
      let (cs, next) := restart b
      (replacement :: cs, next)

/-- The text of the bytes after a pending character. -/
def lossyFrom : Option Pending → List UInt8 → List Char
  | none, [] => []
  | some _, [] => [replacement]
  | pending, b :: bs =>
    let (cs, next) := step pending b.toNat
    cs ++ lossyFrom next bs

/-- The text of some bytes, with a replacement character for each stretch that is no text. -/
def lossy (bytes : List UInt8) : List Char := lossyFrom none bytes

end FixBatch.Text.Utf8
