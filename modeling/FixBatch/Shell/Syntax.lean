import FixBatch.Shell.Bytes

/-!
# FixBatch.Shell.Syntax

Scripts as the shells understand them.  There are two shells: the plain one knows what every shell
knows, and the extended one adds arrays, patterns to replace by, conditions between double brackets
and more.  Both read scripts into the same commands.
-/

namespace FixBatch.Shell

/-- The shells. -/
inductive Dialect where
  | plain
  | extended
deriving DecidableEq, Repr

/-- How a redirection opens its target. -/
inductive Opening where
  /-- Opens a file to read. -/
  | read
  /-- Opens a file to write, and empties it. -/
  | write
  /-- Opens a file to write at its end. -/
  | append
  /-- Takes the stream of some number to read, or to write. -/
  | copyIn
  | copyOut
  /-- Opens a file for the output and for errors. -/
  | writeBoth
  | appendBoth
  /-- Reads a text and a line feed. -/
  | text
deriving DecidableEq, Repr

/-- Which of the matches of a pattern are replaced. -/
inductive Reach where
  | first
  | all
  | start
  | finish
deriving DecidableEq, Repr

mutual

/-- A part of a word. -/
inductive Part where
  /-- Text without quotes. -/
  | plain (text : Bytes)
  /-- Text that a quote protects. -/
  | quoted (text : Bytes)
  /-- What is between double quotes. -/
  | double (parts : List Part)
  /-- A parameter, or some elements of one, and what is made of the value. -/
  | parameter (name : Bytes) (index : Index) (form : Form)
  /-- The output of a command. -/
  | script (body : Command)
  /-- The value of an arithmetic expression. -/
  | sum (expression : List Part)
  /-- The elements of an array. -/
  | elements (items : List (List Part))

/-- Which elements of a parameter are meant. -/
inductive Index where
  | whole
  | all
  | joined
  | at (subscript : List Part)

/-- What is made of the value of a parameter.  A flag `ifEmpty` says that an empty value counts as
none. -/
inductive Form where
  | value
  | length
  | orElse (ifEmpty : Bool) (word : List Part)
  | assign (ifEmpty : Bool) (word : List Part)
  | demand (ifEmpty : Bool) (word : List Part)
  | instead (ifEmpty : Bool) (word : List Part)
  | dropStart (longest : Bool) (pattern : List Part)
  | dropEnd (longest : Bool) (pattern : List Part)
  | slice (start : List Part) (length : Option (List Part))
  | replace (reach : Reach) (pattern : List Part) (substitute : List Part)
  | recase (upper : Bool) (all : Bool) (pattern : List Part)
  /-- No form that the shell knows; the text is as it stands in the script. -/
  | unknown (source : Bytes)

/-- A redirection of a stream. -/
inductive Redirection where
  | file (stream : Option Nat) (opening : Opening) (target : List Part)
  /-- Reads the document of some number, which stands below the command in the script. -/
  | document (stream : Nat) (number : Nat)

/-- A condition between double brackets. -/
inductive Judgement where
  | word (w : List Part)
  | unary (op : Bytes) (w : List Part)
  | binary (op : Bytes) (a b : List Part)
  | not (c : Judgement)
  | both (a b : Judgement)
  | either (a b : Judgement)

/-- A command.  A line is that of the script on which the command starts. -/
inductive Command where
  | skip
  | simple (line : Nat) (assignments words : List (List Part)) (redirections : List Redirection)
  | redirected (line : Nat) (body : Command) (redirections : List Redirection)
  | sequence (first second : Command)
  | background (body : Command)
  | andThen (first second : Command)
  | orElse (first second : Command)
  | negated (body : Command)
  | pipeline (stages : List Command)
  | group (body : Command)
  | subshell (line : Nat) (body : Command)
  | branch (test yes no : Command)
  | loop (untilHolds : Bool) (test body : Command)
  | each (line : Nat) (name : Bytes) (items : Option (List (List Part))) (body : Command)
  | choose (line : Nat) (subject : List Part)
      (arms : List (List (List Part) × Command))
  | define (name : Bytes) (body : Command)
  | judge (line : Nat) (condition : Judgement)

end

/-- A word, before anything in it is filled in. -/
abbrev Word := List Part

/-- An arm of a case: its patterns, and its body. -/
abbrev Arm := List Word × Command

namespace Word

/-- The text of a word in which nothing is quoted or filled in. -/
def bare? : Word → Option Bytes
  | [] => some ""
  | .plain text :: rest => (bare? rest).map (text ++ ·)
  | _ :: _ => none

/-- Puts unquoted text before a word. -/
def prepend (text : Bytes) : Word → Word
  | .plain next :: rest => .plain (text ++ next) :: rest
  | w => if text.isEmpty then w else .plain text :: w

end Word

/-! ## Names and assignments -/

/-- The characters that names of parameters start with. -/
def isNameStart (c : Char) : Bool := c.isAlpha || c == '_'

/-- The characters of names of parameters. -/
def isNameChar (c : Char) : Bool := c.isAlphanum || c == '_'

/-- Whether a text can name a parameter that scripts set. -/
def isName (s : Bytes) : Bool :=
  match s.toList with
  | c :: cs => isNameStart c && cs.all isNameChar
  | [] => false

/-- An assignment: a parameter or one of its elements, and what it gets or what is added to it. -/
structure Assignment where
  name : Bytes
  subscript : Option Word
  adds : Bool
  value : Word

namespace Assignment

/-- The text up to the end of a subscript, and what follows; brackets nest. -/
def closeBracket : Nat → Word → Option (Word × Word)
  | depth, .plain text :: rest =>
    match go depth text.toList with
    | (inside, some after) =>
      some ([.plain (String.ofList inside)], Word.prepend (String.ofList after) rest)
    | (inside, none) =>
      let depth := depth + inside.count '[' - inside.count ']'
      (closeBracket depth rest).map fun (w, rest) => (.plain (String.ofList inside) :: w, rest)
  | depth, part :: rest => (closeBracket depth rest).map fun (w, rest) => (part :: w, rest)
  | _, [] => none
where
  /-- The characters before the bracket that closes, and those after it. -/
  go : Nat → List Char → List Char × Option (List Char)
    | _, [] => ([], none)
    | depth, c :: cs =>
      if c = ']' ∧ depth = 0 then ([], some cs)
      else
        let depth := if c = '[' then depth + 1 else if c = ']' then depth - 1 else depth
        let (inside, after) := go depth cs
        (c :: inside, after)

/-- What follows the name and the subscript of an assignment. -/
def finish (name : Bytes) (subscript : Option Word) : Word → Option Assignment
  | .plain text :: rest =>
    match text.toList with
    | '=' :: cs => some ⟨name, subscript, false, Word.prepend (String.ofList cs) rest⟩
    | '+' :: '=' :: cs => some ⟨name, subscript, true, Word.prepend (String.ofList cs) rest⟩
    | _ => none
  | _ => none

/-- The assignment that a word makes, if it has the form of one. -/
def ofWord? (dialect : Dialect) : Word → Option Assignment
  | .plain text :: rest =>
    let name := text.toList.takeWhile isNameChar
    let after := text.toList.dropWhile isNameChar
    if !isName (String.ofList name) then none
    else match dialect, after with
      | .plain, '=' :: cs =>
        some ⟨String.ofList name, none, false, Word.prepend (String.ofList cs) rest⟩
      | .plain, _ => none
      | .extended, '[' :: cs => do
        let (subscript, rest) ← closeBracket 0 (.plain (String.ofList cs) :: rest)
        finish (String.ofList name) (some subscript) rest
      | .extended, cs => finish (String.ofList name) none (.plain (String.ofList cs) :: rest)
  | _ => none

end Assignment

end FixBatch.Shell
