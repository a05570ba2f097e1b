import FixBatch.Text.Alphanumeric
import FixBatch.Text.Segments

/-!
# FixBatch.Text.Word

Identifiers in source text.  An identifier is a maximal run of word characters, so a name inside a
longer identifier is no identifier of its own, whatever stands next to the run.
-/

namespace FixBatch.Text

/-- Letters and digits of all scripts, the underscore and the dollar sign. -/
def isWordChar (c : Char) : Bool := isAlphanumeric c || c == '_' || c == '$'

/-- The maximal runs of word characters of a text, left to right. -/
def words (s : List Char) : List (List Char) :=
  (segments (fun c => !isWordChar c) s).filter fun w => !w.isEmpty

end FixBatch.Text
