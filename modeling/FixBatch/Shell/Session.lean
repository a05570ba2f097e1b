import FixBatch.Files.Access
import FixBatch.Shell.Process
import FixBatch.Shell.Syntax

/-!
# FixBatch.Shell.Session

What a running shell remembers, and the small steps that everything it does is made of.  A shell
runs on a disk, in whatever world that is; what it writes to its own streams is collected.

* `Session` — variables, streams, functions, options and the rest;
* `Act` — what a shell does: it may leap out of where it is;
* `emit`, `pendingInput`, `complain` — streams;
* `parameter?`, `assign` — parameters.
-/

namespace FixBatch.Shell

/-! ## Variables -/

/-- What a variable holds. -/
inductive Content where
  | text (s : Bytes)
  /-- Elements by number, in ascending order. -/
  | list (items : List (Nat × Bytes))
deriving Repr

/-- A variable; one that has only been declared holds nothing. -/
structure Variable where
  content : Option Content
  exported : Bool := false

namespace Content

/-- The value without a subscript. -/
def text? : Content → Option Bytes
  | text s => some s
  | list items => items.lookup 0

/-- The elements. -/
def values : Content → List Bytes
  | text s => [s]
  | list items => items.map Prod.snd

/-- Gives an element of a list a value. -/
def insertAt (i : Nat) (v : Bytes) : List (Nat × Bytes) → List (Nat × Bytes)
  | [] => [(i, v)]
  | (j, w) :: rest =>
    if i < j then (i, v) :: (j, w) :: rest
    else if i = j then (i, v) :: rest
    else (j, w) :: insertAt i v rest

end Content

/-! ## Streams -/

/-- Where a stream leads. -/
inductive Channel where
  | out
  | err
  /-- Gathers what is written, for a pipe or to take the place of a command. -/
  | buffer (number : Nat)
  | file (path : Path)
  /-- What can be read. -/
  | source (number : Nat)
deriving DecidableEq, Repr

/-- What is left to be read; `rewinds` says that a reader can give back what it has not used.  A
directory can be opened, but not read. -/
structure Source where
  left : Bytes
  rewinds : Bool
  isDirectory : Bool := false

/-- Everything that is read and written while a program runs, whatever shells it consists of. -/
structure Traffic where
  out : Bytes
  err : Bytes
  buffers : List (Nat × Bytes)
  sources : List (Nat × Source)
  fresh : Nat

/-! ## Sessions -/

/-- A function: what complaints in it begin with, and what it does. -/
structure Function where
  source : Bytes
  body : Command

/-- What a running shell remembers. -/
structure Session where
  dialect : Dialect
  /-- Parameter zero. -/
  name : Bytes
  /-- The number of the process. -/
  process : Nat
  /-- The script was given as an argument. -/
  fromArgument : Bool
  /-- What complaints begin with, and the builtin that runs scripts at the time. -/
  source : Bytes
  context : Bytes
  positional : List Bytes
  bindings : List (Bytes × Variable)
  /-- For each function that runs, the variables that it hides. -/
  frames : List (List (Bytes × Option Variable))
  functions : List (Bytes × Function)
  /-- The names of options that are on. -/
  options : List Bytes
  status : Nat
  /-- The status of the last command whose output took its place in the command that runs. -/
  substituted : Option Nat
  directory : Bytes
  streams : List (Nat × Channel)
  /-- What is done at signals, and at the end of the shell. -/
  traps : List (Bytes × Bytes)
  /-- The line of the command that runs. -/
  line : Nat
  documents : List (Nat × Word)
  documentCount : Nat
  /-- How many loops, functions and scripts of other files are being run. -/
  loops : Nat
  calls : Nat
  sourced : Nat
  /-- Failures are looked at, so none of them ends the shell. -/
  lenient : Bool
  /-- The shell is one that another one has split off. -/
  inner : Bool
  /-- Processes and statuses of the commands that have run beside the shell, the last one first. -/
  beside : List (Nat × Nat)
  /-- Faults of builtins do not end the shell. -/
  guarded : Bool
  traffic : Traffic

/-- Why a shell leaves where it is. -/
inductive Leap where
  | exit (status : Nat)
  /-- A signal ends the process of some number. -/
  | killed (process : Nat) (signal : Signal)
  | break_ (levels : Nat)
  | continue_ (levels : Nat)
  | return_ (status : Nat)
  /-- The rest of the line is given up. -/
  | discard (status : Nat)

variable {m : Type → Type} [Monad m]

/-- What a shell does on a disk. -/
abbrev Act (m : Type → Type) := ReaderT (Files.Disk m) (ExceptT Leap (StateT Session m))

/-- Does something with the disk. -/
def onDisk (f : Files.Disk m → m α) : Act m α := do
  let x := f (← read)
  monadLift x

/-! ## Reading and changing the session -/

def isExtended : Act m Bool := return (← get).dialect == .extended

def setStatus (status : Nat) : Act m Unit := modify fun s => { s with status }

/-- Whether an option is on. -/
def Session.has (s : Session) (option : Bytes) : Bool := s.options.contains option

/-- Turns an option on or off. -/
def Session.setOption (s : Session) (option : Bytes) (on : Bool) : Session :=
  let others := s.options.filter (· != option)
  { s with options := if on then others ++ [option] else others }

/-- A number that nothing has had before. -/
def freshNumber : Act m Nat := do
  let n := (← get).traffic.fresh
  modify fun s => { s with traffic := { s.traffic with fresh := n + 1 } }
  return n

/-! ## Paths -/

/-- A path from the root, for one that starts where the shell is. -/
def Session.absolute (s : Session) (path : Bytes) : Bytes :=
  if path.toList.head? = some '/' || path.isEmpty then path
  else if s.directory.toList.getLast? = some '/' then s.directory ++ path
  else s.directory ++ "/" ++ path

/-- The path that some bytes name. -/
def pathOf (path : Bytes) : Act m Path := return ⟨Bytes.toText ((← get).absolute path)⟩

/-! ## Streams -/

/-- Adds to what is kept under a key. -/
def addTo [BEq α] (key : α) (more : Bytes) (l : List (α × Bytes)) : List (α × Bytes) :=
  if (l.lookup key).isSome then l.map fun e => if e.1 == key then (key, e.2 ++ more) else e
  else (key, more) :: l

/-- Writes to a channel; false when that cannot be done. -/
def emitTo (text : Bytes) : Channel → Act m Bool
  | .out => do
    modify fun s => { s with traffic := { s.traffic with out := s.traffic.out ++ text } }
    return true
  | .err => do
    modify fun s => { s with traffic := { s.traffic with err := s.traffic.err ++ text } }
    return true
  | .buffer number => do
    modify fun s =>
      { s with traffic := { s.traffic with buffers := addTo number text s.traffic.buffers } }
    return true
  | .file path => do
    let answer ← onDisk fun disk => disk.append path (Bytes.toArray text)
    return answer.toOption.isSome
  | .source _ => return false

/-- Writes to a stream; false when that cannot be done. -/
def emit (stream : Nat) (text : Bytes) : Act m Bool := do
  match (← get).streams.lookup stream with
  | some channel => if text.isEmpty then return true else emitTo text channel
  | none => return text.isEmpty

/-- Writes to the output. -/
def print (text : Bytes) : Act m Unit := do
  let _ ← emit 1 text

/-- Something to read from. -/
def openSource (source : Source) : Act m Channel := do
  let number ← freshNumber
  modify fun s =>
    { s with traffic := { s.traffic with sources := (number, source) :: s.traffic.sources } }
  return .source number

/-- The source that a stream reads from. -/
def sourceOf (stream : Nat) : Act m (Option (Nat × Source)) := do
  let s ← get
  match s.streams.lookup stream with
  | some (.source number) =>
    return (s.traffic.sources.lookup number).map fun source => (number, source)
  | _ => return none

/-- Leaves a text to be read in a source. -/
def leave (number : Nat) (text : Bytes) : Act m Unit :=
  modify fun s =>
    { s with traffic :=
      { s.traffic with
        sources := s.traffic.sources.map fun e =>
          if e.1 == number then (number, { e.2 with left := text }) else e } }

/-- What is left to be read from a stream. -/
def pendingInput (stream : Nat) : Act m Bytes := do
  return ((← sourceOf stream).map fun (_, source) => source.left).getD ""

/-- Leaves a text to be read from a stream. -/
def leaveInput (stream : Nat) (text : Bytes) : Act m Unit := do
  match ← sourceOf stream with
  | some (number, _) => leave number text
  | none => return

/-- A channel that gathers what is written. -/
def openBuffer : Act m (Nat × Channel) := do
  let number ← freshNumber
  return (number, .buffer number)

/-- What a channel has gathered; it is gone then. -/
def takeBuffer (number : Nat) : Act m Bytes := do
  let text := ((← get).traffic.buffers.lookup number).getD ""
  modify fun s =>
    { s with traffic :=
      { s.traffic with buffers := s.traffic.buffers.filter fun e => e.1 != number } }
  return text

/-- Makes a stream lead somewhere. -/
def Session.connect (s : Session) (stream : Nat) (channel : Channel) : Session :=
  { s with streams := (stream, channel) :: s.streams.filter fun e => e.1 != stream }

/-- Makes a stream lead nowhere. -/
def Session.disconnect (s : Session) (stream : Nat) : Session :=
  { s with streams := s.streams.filter fun e => e.1 != stream }

/-! ## Complaints -/

/-- What complaints begin with. -/
def Session.label (s : Session) : Bytes :=
  match s.dialect with
  | .plain => s.name ++ ": " ++ toString s.line ++ ": "
  | .extended => s.source ++ ": line " ++ toString s.line ++ ": "

/-- Complains. -/
def complain (text : Bytes) : Act m Unit := do
  let s ← get
  let _ ← emit 2 (s.label ++ (if s.dialect = .plain then s.context else "") ++ text ++ "\n")

/-- Complains as a builtin. -/
def complainAs (builtin text : Bytes) : Act m Unit := do
  let _ ← emit 2 ((← get).label ++ builtin ++ ": " ++ text ++ "\n")

/-- Complains about something that the plain shell ends for, and for which the extended shell gives
up the rest of the line. -/
def abandon (text : Bytes) : Act m α := do
  complain text
  if ← isExtended then throw (.discard 1) else throw (.exit 2)

/-- The status with which a shell ends that lacks a value. -/
def Session.lackStatus (s : Session) : Nat :=
  if s.dialect = .plain then 2 else if s.fromArgument && !s.inner then 127 else 1

/-! ## Parameters -/

/-- The number of the first process, which no script can foresee. -/
def processNumber : Nat := 4242

/-- The variable of a name. -/
def Session.find? (s : Session) (name : Bytes) : Option Variable := s.bindings.lookup name

/-- Puts a variable in its place. -/
def Session.put (s : Session) (name : Bytes) (v : Variable) : Session :=
  { s with bindings := (name, v) :: s.bindings.filter fun e => e.1 != name }

/-- Takes a variable away. -/
def Session.drop (s : Session) (name : Bytes) : Session :=
  { s with bindings := s.bindings.filter fun e => e.1 != name }

/-- The character between fields, for those that are joined. -/
def Session.joiner (s : Session) : Bytes :=
  match s.find? "IFS" with
  | some v => String.ofList (((v.content.bind Content.text?).getD "").toList.take 1)
  | none => " "

/-- The value of a parameter of one character that is no letter. -/
def Session.special? (s : Session) (name : Bytes) : Option Bytes :=
  match name with
  | "?" => some (toString s.status)
  | "#" => some (toString s.positional.length)
  | "$" => some (toString s.process)
  | "!" => s.beside.head?.map fun (process, _) => toString process
  | "0" => some s.name
  | "*" | "@" => some (String.intercalate s.joiner s.positional)
  | _ => none

/-- The value of a parameter without a subscript. -/
def Session.parameter? (s : Session) (name : Bytes) : Option Bytes :=
  if name.toList.all Char.isDigit && name != "0" then
    (name.toNat?.bind fun n => s.positional[n - 1]?)
  else match s.special? name with
    | some v => some v
    | none =>
      match s.find? name with
      | some v => v.content.bind Content.text?
      | none => if name = "LINENO" && s.dialect = .extended then some (toString s.line) else none

/-- What a variable becomes that gets a text. -/
def Variable.withText (v : Variable) (text : Bytes) : Variable :=
  match v.content with
  | some (.list items) => { v with content := some (.list (Content.insertAt 0 text items)) }
  | _ => { v with content := some (.text text) }

/-- Gives a variable a text. -/
def Session.assign (s : Session) (name text : Bytes) : Session :=
  s.put name (((s.find? name).getD { content := none }).withText text)

/-- Gives a variable a text. -/
def assign (name text : Bytes) : Act m Unit := modify fun s => s.assign name text

/-- The variables that a program is given, in the order of their names. -/
def Session.environment (s : Session) : List (Bytes × Bytes) :=
  let exported := s.bindings.filterMap fun (name, v) =>
    if v.exported then (v.content.bind Content.text?).map fun text => (name, text) else none
  exported.mergeSort fun a b => decide (a.1 ≤ b.1)

end FixBatch.Shell
