import FixBatch.Shell.Pattern
import FixBatch.Shell.Syntax

/-!
# FixBatch.Shell.Field

From words to fields.  Once a word has been filled in, the separators in what was filled in cut it
into fields.

* `fields` — the fields of a word that has been filled in.
-/

namespace FixBatch.Shell

/-! ## Pieces -/

/-- Where a character of a word comes from: from the script, from what was filled in, or from between
quotes. -/
inductive Origin where
  | written
  | filled
  | held
deriving DecidableEq, Repr

/-- A piece of a word that has been filled in. -/
inductive Piece where
  | char (c : Char) (origin : Origin)
  /-- A quoted text stands here, even if it is empty. -/
  | hold
  /-- A field ends here. -/
  | cut
deriving DecidableEq, Repr

namespace Piece

/-- The pieces of a text. -/
def ofBytes (origin : Origin) (s : Bytes) : List Piece := s.toList.map fun c => char c origin

/-- A piece as part of what is filled in, or of what is quoted. -/
def within (quoted : Bool) : Piece → Piece
  | char c origin =>
    if quoted then char c .held else char c (if origin = .held then .held else .filled)
  | piece => piece

/-- The characters of pieces, with a blank between fields. -/
def chars : List Piece → List Mark
  | [] => []
  | char c origin :: rest => ⟨c, origin != .held⟩ :: chars rest
  | hold :: rest => chars rest
  | cut :: rest => ⟨' ', false⟩ :: chars rest

/-- The text of pieces. -/
def text (l : List Piece) : Bytes := String.ofList ((chars l).map Mark.char)

end Piece

/-! ## Fields -/

/-- A field that is being gathered: its characters, last first, whether it is there at all, and
whether blanks have ended the one before it. -/
structure Gathering where
  marks : List Mark
  there : Bool
  afterBlanks : Bool

/-- The fields of pieces, cut at separators in what was filled in.  Blanks among the separators count
only between fields; any other separator ends a field, be it empty. -/
def fieldsFrom (separators : List Char) : Gathering → List Piece → List (List Mark)
  | g, [] => if g.there then [g.marks.reverse] else []
  | g, .hold :: rest => fieldsFrom separators { g with there := true, afterBlanks := false } rest
  | g, .cut :: rest =>
    let rest := fieldsFrom separators ⟨[], false, false⟩ rest
    if g.there then g.marks.reverse :: rest else rest
  | g, .char c origin :: rest =>
    if origin = .filled && separators.contains c then
      if c == ' ' || c == '\t' || c == '\n' then
        if g.there then g.marks.reverse :: fieldsFrom separators ⟨[], false, true⟩ rest
        else fieldsFrom separators g rest
      else if g.there || !g.afterBlanks then
        g.marks.reverse :: fieldsFrom separators ⟨[], false, false⟩ rest
      else fieldsFrom separators ⟨[], false, false⟩ rest
    else fieldsFrom separators ⟨⟨c, origin != .held⟩ :: g.marks, true, false⟩ rest

/-- The fields of pieces. -/
def fields (separators : List Char) (pieces : List Piece) : List (List Mark) :=
  fieldsFrom separators ⟨[], false, false⟩ pieces

end FixBatch.Shell
