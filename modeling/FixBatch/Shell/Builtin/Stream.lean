import FixBatch.Shell.Builtin.Variables

/-!
# FixBatch.Shell.Builtin.Stream

Builtins that write, the one that reads a line into variables, and those that judge conditions.
-/

namespace FixBatch.Shell.Builtin

variable {m : Type → Type} [Monad m]

/-! ## Writing and judging -/

/-- Writes to the output; what cannot be written is complained about. -/
def write (name : Bytes) (text : Bytes) : Act m Nat := do
  if ← emit 1 text then return 0
  else if ← isExtended then fail name 1 "write error: Bad file descriptor"
  else fail name 1 (name ++ ": I/O error")

/-- Writes its arguments. -/
def echo : Builtin m := fun _ name args => do
  let s ← get
  match s.dialect with
  | .plain =>
    let (bareEnd, words) := match args with
      | "-n" :: rest => (true, rest)
      | rest => (false, rest)
    let (cs, stops) := unescape plainEchoStyle (String.intercalate " " words).toList
    write name (String.ofList cs ++ if bareEnd || stops then "" else "\n")
  | .extended => write name (Tool.echoed ['n', 'e', 'E'] false echoStyle args)

/-- Writes its arguments in a format. -/
def printf : Builtin m := fun _ name args =>
  withOptions name false [] args fun o => do
    let extended ← isExtended
    match o.rest with
    | [] =>
      if extended then
        tellUsage name
        return 2
      else fail name 2 "usage: printf format [arg ...]"
    | format :: args => do
      let (f, fault) := formatted (if extended then .extended else .plain) format args
      let status ← write name f.out
      f.complaints.forM fun complaint => complainAs name complaint
      match fault with
      | some complaint => fail name (if extended then 1 else 2) complaint
      | none => return if f.complaints.isEmpty then status else 1

/-- Judges a condition; the flag says that a bracket has to close it. -/
def test (bracketed : Bool) : Builtin m := fun _ name args => do
  let s ← get
  if bracketed && args.getLast? != some "]" then
    fail name 2 (if s.dialect = .plain then "missing ]" else "missing \x60]'")
  else
    let args := if bracketed then args.dropLast else args
    let facts : Condition.Facts (Act m) :=
      { disk := worldDisk
        path := fun n => ⟨Bytes.toText (s.absolute n)⟩
        isSet := fun n => return (s.parameter? n).isSome }
    match ← Condition.judge facts s.dialect args with
    | .ok holds => return if holds then 0 else 1
    | .error complaint => fail name 2 complaint

/-! ## Reading -/

/-- A character that was read; one behind a backslash does not separate fields. -/
abbrev Letter := Char × Bool

/-- Takes the characters of a line; the answer also says whether the line has an end, and what is
left. -/
def takeRead (raw : Bool) : Nat → List Char → List Letter × Bool × List Char
  | 0, cs => ([], false, cs)
  | _ + 1, [] => ([], false, [])
  | _ + 1, '\n' :: cs => ([], true, cs)
  | fuel + 1, c :: cs =>
    if c = '\\' && !raw then
      match cs with
      | [] => ([], false, [])
      | '\n' :: cs => takeRead raw fuel cs
      | d :: cs =>
        let (more, done, left) := takeRead raw fuel cs
        ((d, true) :: more, done, left)
    else
      let (more, done, left) := takeRead raw fuel cs
      ((c, false) :: more, done, left)

/-- Whether a character that was read separates fields, and is a blank at that. -/
def isSeparator (separators : List Char) (l : Letter) : Bool := !l.2 && separators.contains l.1

def isGap (separators : List Char) (l : Letter) : Bool :=
  isSeparator separators l && (l.1 == ' ' || l.1 == '\t' || l.1 == '\n')

/-- The first field of what was read, and what follows its separator. -/
def takeField (separators : List Char) (ls : List Letter) : List Letter × List Letter :=
  let ls := ls.dropWhile (isGap separators)
  let field := ls.takeWhile (!isSeparator separators ·)
  let rest := (ls.drop field.length).dropWhile (isGap separators)
  match rest with
  | l :: more =>
    if isSeparator separators l then (field, more.dropWhile (isGap separators)) else (field, rest)
  | [] => (field, [])

/-- The text of what was read. -/
def lettersText (ls : List Letter) : Bytes := String.ofList (ls.map Prod.fst)

/-- What was read as so many fields; the last one takes all that is left. -/
def readFields (separators : List Char) : Nat → List Letter → List Bytes
  | 0, _ => []
  | 1, ls =>
    let ls := ls.dropWhile (isGap separators)
    let (field, rest) := takeField separators ls
    if rest.isEmpty then [lettersText field]
    else [lettersText (ls.reverse.dropWhile (isGap separators)).reverse]
  | n + 2, ls =>
    let (field, rest) := takeField separators ls
    lettersText field :: readFields separators (n + 1) rest

/-- Reads a line into variables. -/
def read_ : Builtin m := fun _ name args =>
  withOptions name false ['r'] args fun o => do
    let s ← get
    match o.rest.find? (!isName ·), s.dialect with
    | some n, _ => nameFault name false n
    | none, dialect =>
      if o.rest.isEmpty && dialect = .plain then fail name 2 "arg count"
      else
        let text := (← pendingInput 0).toList
        let (letters, done, left) := takeRead (o.has 'r') (text.length + 1) text
        leaveInput 0 (String.ofList left)
        let letters := letters.filter fun l => l.1 != '\x00'
        if o.rest.isEmpty then assign "REPLY" (lettersText letters)
        else
          (o.rest.zip (readFields s.separators o.rest.length letters)).forM fun (n, v) => assign n v
        return if done then 0 else 1

end FixBatch.Shell.Builtin
