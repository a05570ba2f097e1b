import FixBatch.Shell.Syntax.Token
import FixBatch.Text.Lines

/-!
# FixBatch.Shell.Syntax.Cursor

Where a reader of scripts stands: what is left of the script, on which line that begins, and the
documents that stand below the commands.  A document is announced by a redirection and follows the
end of that line; until then it waits.
-/

namespace FixBatch.Shell

/-- A document that has been announced: its number, the line that ends it, whether tabs before its
lines are dropped, whether it is taken as it stands, and where it was announced. -/
structure Announced where
  number : Nat
  delimiter : Bytes
  dropsTabs : Bool
  verbatim : Bool
  line : Nat

/-- Where a reader of scripts stands. -/
structure Cursor where
  dialect : Dialect
  rest : List Char
  line : Nat
  /-- Nothing of the line has been read. -/
  fresh : Bool
  /-- A token that has been looked at. -/
  peeked : Option Token
  waiting : List Announced
  documents : List (Nat × Word)
  count : Nat
  /-- Complaints that do not stop the reading, with their lines. -/
  warnings : List (Nat × Bytes)

/-- A step of the reader. -/
abbrev Reader (α : Type) := StateT Cursor (Except Fault) α

namespace Reader

/-- Gives up. -/
def fail (cause : Fault.Cause) : Reader α := do
  let c ← get
  throw ⟨c.line, c.fresh, cause⟩

/-- What is left of the script. -/
def rest : Reader (List Char) := return (← get).rest

def line : Reader Nat := return (← get).line

def isExtended : Reader Bool := return (← get).dialect == .extended

/-- Passes over a character. -/
def advance : Reader Unit := modify fun c =>
  match c.rest with
  | '\n' :: r => { c with rest := r, line := c.line + 1, fresh := true }
  | _ :: r => { c with rest := r, fresh := false }
  | [] => c

/-- Passes over some characters. -/
def skip (n : Nat) : Reader Unit := modify fun c =>
  let passed := c.rest.take n
  { c with
    rest := c.rest.drop n
    line := c.line + passed.count '\n'
    fresh := (passed.getLast?.map (· == '\n')).getD c.fresh }

/-- Passes over the characters that fit. -/
def takeWhile (p : Char → Bool) : Reader (List Char) := do
  let taken := (← rest).takeWhile p
  skip taken.length
  return taken

/-- Passes over a text, if it stands here. -/
def passes (text : String) : Reader Bool := do
  if text.toList.isPrefixOf (← rest) then
    skip text.length
    return true
  else return false

/-- Passes over the token that has been looked at. -/
def passPeeked : Reader Token := do
  let c ← get
  set { c with peeked := none }
  return c.peeked.getD .finish

/-- The text since an earlier place. -/
def since (before : List Char) : Reader Bytes := do
  return String.ofList (before.take (before.length - (← rest).length))

/-- How many characters of a text are blanks, or a line break after a backslash. -/
def blanks : List Char → Nat
  | ' ' :: r | '\t' :: r => 1 + blanks r
  | '\\' :: '\n' :: r => 2 + blanks r
  | _ => 0

/-- Passes over blanks, and over a comment if it stands behind them. -/
def skipBlanks : Reader Unit := do
  skip (blanks (← rest))
  match ← rest with
  | '#' :: _ =>
    let _ ← takeWhile (· != '\n')
  | _ => return

/-! ## Documents -/

/-- Whether a line of a document that is filled in goes on on the next line. -/
def continues (l : List Char) : Bool :=
  match l.reverse with
  | '\n' :: r => (r.takeWhile (· == '\\')).length % 2 == 1
  | _ => false

/-- The lines of a document, and whether the line that ends it is there. -/
def documentLines (a : Announced) : Bool → List (List Char) → List (List Char) × Nat × Bool
  | _, [] => ([], 0, false)
  | joined, l :: ls =>
    let shown := if a.dropsTabs && !joined then l.dropWhile (· == '\t') else l
    if !joined && String.ofList (shown.filter (· != '\n')) == a.delimiter then ([], l.length, true)
    else
      let (body, size, closed) := documentLines a (!a.verbatim && continues l) ls
      (shown :: body, l.length + size, closed)

/-- Passes over the text of a document. -/
def takeDocument (a : Announced) : Reader (List Char) := do
  let (body, size, closed) := documentLines a false (Text.lines (← rest))
  skip size
  if !closed then
    modify fun c =>
      let last := if c.fresh then c.line - 1 else c.line
      { c with
        warnings := c.warnings ++ [(last, "warning: here-document at line " ++ toString a.line ++
          " delimited by end-of-file (wanted `" ++ a.delimiter ++ "')")] }
  return body.flatten

/-- Numbers a document that a redirection announces. -/
def announce (delimiter : Bytes) (dropsTabs verbatim : Bool) : Reader Nat := do
  let c ← get
  let a : Announced := ⟨c.count, delimiter, dropsTabs, verbatim, c.line⟩
  set { c with count := c.count + 1, waiting := c.waiting ++ [a] }
  return a.number

/-- Gives a document its text. -/
def settle (number : Nat) (text : Word) : Reader Unit :=
  modify fun c => { c with documents := (number, text) :: c.documents }

end Reader

end FixBatch.Shell
