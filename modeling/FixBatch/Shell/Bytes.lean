import FixBatch.Text.Utf8

/-!
# FixBatch.Shell.Bytes

Strings of bytes.  What processes are given and what they write are bytes, not text: a variable may
hold half a character.  Here each character of a string stands for one byte, so strings can be taken
apart and put together as usual.

* `Bytes.ofText`, `Bytes.toText` — from text, and back as far as the bytes are text;
* `Bytes.ofArray`, `Bytes.toArray` — from what files hold, and back.
-/

namespace FixBatch.Shell

/-- A string of bytes: each of its characters is one of the first 256, and stands for the byte of
its number. -/
abbrev Bytes := String

namespace Bytes

/-- The bytes of an array. -/
def ofArray (a : ByteArray) : Bytes := String.ofList (a.toList.map fun b => Char.ofNat b.toNat)

/-- The array of some bytes. -/
def toArray (s : Bytes) : ByteArray := ⟨(s.toList.map fun c => c.toNat.toUInt8).toArray⟩

/-- The bytes of a text. -/
def ofText (s : String) : Bytes := ofArray s.toUTF8

/-- The text of some bytes; a replacement character stands for what is no text. -/
def toText (s : Bytes) : String := String.ofList (Text.Utf8.lossy s.toArray.toList)

end Bytes

end FixBatch.Shell
