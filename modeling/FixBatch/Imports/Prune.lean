import FixBatch.Distinct
import FixBatch.Imports.Line
import FixBatch.Text.Lines
import FixBatch.Text.Word

/-!
# FixBatch.Imports.Prune

Removing the imports that a source file does not use.  An import is used when the last part of its
target is an identifier of some line that is no import line, wherever that line stands; static and
wildcard imports count as used.  Of several imports of one target the first stays.  A line that
keeps all its statements stays as it is, and a line that keeps none goes, line end and all.

* `parse` — the lines of a source, or its first faulty import line;
* `Line.kept` — the targets a line keeps: its first occurrences that are used.
-/

namespace FixBatch.Imports

open Text

/-- A line of source: its text and, if it is an import line, its targets. -/
structure Line where
  text : List Char
  targets : Option (List (List Char))
deriving DecidableEq, Repr

namespace Line

/-- Reads a line. -/
def ofText (text : List Char) : Except Fault Line :=
  if isImportLine text then (targets? text).map fun ts => ⟨text, some ts⟩
  else .ok ⟨text, none⟩

/-- The identifiers of a line that is no import line. -/
def identifiers (line : Line) : List (List Char) :=
  match line.targets with
  | some _ => []
  | none => words line.text

/-- The targets of a line; other lines have none. -/
def imported (line : Line) : List (List Char) := line.targets.getD []

end Line

/-! ## What stays -/

/-- The part of a target after its last dot. -/
def simpleName (target : List Char) : List Char := (target.reverse.takeWhile (· != '.')).reverse

/-- Static and wildcard imports stay whether they are used or not. -/
def alwaysKept (target : List Char) : Bool :=
  ['s', 't', 'a', 't', 'i', 'c', ' '].isPrefixOf target || ['.', '*'].isSuffixOf target

/-- Whether an import may stay, where `used` holds the identifiers of the file. -/
def isUsed (used : List (List Char)) (target : List Char) : Bool :=
  alwaysKept target || used.contains (simpleName target)

/-- The targets that stay of those of a line, where `seen` holds the targets before it. -/
def keptTargets (used seen targets : List (List Char)) : List (List Char) :=
  (firstOccurrencesAfter seen targets).filter (isUsed used)

/-- A line once its superfluous statements are gone. -/
def Line.pruned (used seen : List (List Char)) (line : Line) : List Char :=
  match line.targets with
  | none => line.text
  | some targets =>
    let kept := keptTargets used seen targets
    if kept.length = targets.length then line.text
    else if kept.isEmpty then []
    else rebuilt line.text kept

/-- The lines of a file once their superfluous statements are gone. -/
def prunedLines (used : List (List Char)) : List (List Char) → List Line → List (List Char)
  | _, [] => []
  | seen, line :: rest =>
    line.pruned used seen :: prunedLines used (line.imported ++ seen) rest

/-! ## Whole files -/

/-- Reads lines, the first of which has the given number. -/
def parseLines : Nat → List (List Char) → Except Malformed (List Line)
  | _, [] => .ok []
  | number, text :: rest => do
    let line ← (Line.ofText text).mapError (⟨number, ·⟩)
    return line :: (← parseLines (number + 1) rest)

/-- The lines of a source. -/
def parse (source : List Char) : Except Malformed (List Line) := parseLines 1 (lines source)

/-- The identifiers of a file outside its import lines. -/
def usedNames (file : List Line) : List (List Char) := file.flatMap Line.identifiers

/-- A source without unused and repeated imports, or its first faulty import line. -/
def prune (source : List Char) : Except Malformed (List Char) :=
  (parse source).map fun file => (prunedLines (usedNames file) [] file).flatten

/-- A source text without unused and repeated imports, or its first faulty import line. -/
def pruneText (source : String) : Except Malformed String :=
  (prune source.toList).map String.ofList

end FixBatch.Imports
