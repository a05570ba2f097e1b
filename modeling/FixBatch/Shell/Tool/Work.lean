import FixBatch.Files.Access
import FixBatch.Shell.Bytes
import FixBatch.Shell.Process
import FixBatch.Text.Lines

/-!
# FixBatch.Shell.Tool.Work

What the programs do their work in: they look at files, read their input, write and complain, and
leave a status behind.

* `Work` — a piece of work;
* `say`, `warn`, `usageFault` — writing and complaining;
* `options` — options among arguments.
-/

namespace FixBatch.Shell

/-- What a program is given. -/
structure Errand where
  /-- The name under which it was called. -/
  name : Bytes
  args : List Bytes
  environment : List (Bytes × Bytes)
  directory : Bytes

/-- What a program has done so far. -/
structure Toil where
  status : Nat
  /-- The signal that has ended it, if one has. -/
  signal : Option Signal
  /-- What is left of its input, and whether it has read any of it. -/
  input : Bytes
  hasRead : Bool
  /-- Whether the input is a file, in which a program can go back, or a directory. -/
  rewinds : Bool
  isDirectory : Bool

variable {m : Type → Type} [Monad m]

/-- What a program works with. -/
structure Workplace (m : Type → Type) where
  disk : Files.Disk m
  errand : Errand
  /-- Writes to the output, or to where errors are told if the flag says so; false when that cannot
  be done. -/
  write : Bool → Bytes → m Bool
  /-- Runs another program in some environment; the flag says that it gets the input. -/
  run : Bool → List (Bytes × Bytes) → List Bytes → m (Except Files.Cause Ending)

/-- A piece of work; it may stop. -/
abbrev Work (m : Type → Type) := ReaderT (Workplace m) (ExceptT Unit (StateT Toil m))

namespace Work

def errand : Work m Errand := return (← read).errand

/-- Stops working. -/
def stop : Work m α := throw ()

def leaveStatus (status : Nat) : Work m Unit := modify fun t => { t with status }

/-- Writes to where errors are told. -/
def tell (text : Bytes) : Work m Unit := do
  let x := (← read).write true text
  let _ ← (monadLift x : Work m Bool)

/-- Writes to the output; a program that cannot write stops. -/
def say (text : Bytes) : Work m Unit := do
  let x := (← read).write false text
  if !(← (monadLift x : Work m Bool)) then
    tell ((← errand).name ++ ": write error: Bad file descriptor\n")
    leaveStatus 1
    stop

/-- Runs another program; the flag says that it gets the input. -/
def run (hasInput : Bool) (environment : List (Bytes × Bytes)) (words : List Bytes) :
    Work m (Except Files.Cause Ending) := do
  let x := (← read).run hasInput environment words
  monadLift x

/-- Ends like another program. -/
def endLike : Ending → Work m Unit
  | .exited status => leaveStatus status.toNat
  | .killed signal => modify fun t => { t with status := 128 + signal.number, signal := some signal }

/-- Complains on a line of its own, which leaves a status behind. -/
def warn (text : Bytes) (status : Nat := 1) : Work m Unit := do
  tell ((← errand).name ++ ": " ++ text ++ "\n")
  leaveStatus status

/-- Complains and stops. -/
def die (text : Bytes) (status : Nat := 1) : Work m α := do
  warn text status
  stop

/-- Complains about how the program was called, and stops. -/
def usageFault (text : Bytes) (status : Nat := 1) : Work m α := do
  let name := (← errand).name
  tell (name ++ ": " ++ text ++ "\nTry '" ++ name ++ " --help' for more information.\n")
  leaveStatus status
  stop

/-- A text between quotes. -/
def quote (s : Bytes) : Bytes := "'" ++ s ++ "'"

/-! ## Files -/

/-- The path that an argument names. -/
def pathNamed (name : Bytes) : Work m Path := do
  let dir := (← errand).directory
  if name.toList.head? = some '/' || name.isEmpty then return ⟨Bytes.toText name⟩
  else return ⟨Bytes.toText (dir ++ "/" ++ name)⟩

/-- Does something with the disk. -/
def atDisk (f : Files.Disk m → m α) : Work m α := do
  let x := f (← read).disk
  monadLift x

/-- Everything that is left of the input. -/
def takeInput : Work m Bytes := do
  let text := (← get).input
  modify fun t => { t with input := "", hasRead := true }
  return text

/-- Leaves a part of the input for others. -/
def leaveRest (text : Bytes) : Work m Unit := modify fun t => { t with input := text }

/-- Whether a name stands for the input. -/
def isInput (name : Bytes) : Bool := name == "-" || name == "/dev/stdin" || name == "/dev/fd/0"

/-- What a file holds, or the input. -/
def contentOf (name : Bytes) : Work m (Except Files.Cause Bytes) := do
  if isInput name then
    if (← get).isDirectory then return .error .isADirectory else return .ok (← takeInput)
  else
    let path ← pathNamed name
    match ← atDisk fun disk => disk.read path with
    | .ok bytes => return .ok (Bytes.ofArray bytes)
    | .error e => return .error e.cause

/-- What stands at a path; a link at its end is followed only if the flag says so. -/
def lookAt (follow : Bool) (name : Bytes) : Work m (Except Files.Cause Files.Look) := do
  let path ← pathNamed name
  return (← atDisk fun disk => disk.look follow path).mapError Files.Error.cause

/-- The names in a directory, in order. -/
def namesIn (name : Bytes) : Work m (Except Files.Cause (List Bytes)) := do
  let path ← pathNamed name
  match ← atDisk fun disk => disk.names path with
  | .ok names => return .ok ((names.map Bytes.ofText).mergeSort fun a b => decide (a ≤ b))
  | .error e => return .error e.cause

/-- A path and a name below it. -/
def below (dir name : Bytes) : Bytes :=
  if dir.toList.getLast? = some '/' then dir ++ name else dir ++ "/" ++ name

/-- A path without the slashes at its end. -/
def dropSlashes (path : Bytes) : Bytes :=
  match path.toList.reverse.dropWhile (· == '/') with
  | [] => if path.isEmpty then "" else "/"
  | r => String.ofList r.reverse

/-- The last step of a path. -/
def lastStep (path : Bytes) : Bytes :=
  let s := dropSlashes path
  if s = "/" then s else String.ofList (s.toList.reverse.takeWhile (· != '/')).reverse

/-! ## Lines -/

/-- The lines of a text, each with its line feed. -/
def linesOf (text : Bytes) : List Bytes := (Text.lines text.toList).map String.ofList

/-! ## Options -/

/-- Whether an option has an argument. -/
inductive Takes where
  | nothing
  | argument
deriving DecidableEq, Repr

/-- An option: its key, which is also its letter if it has one, and its long name if it has one. -/
structure Switch where
  key : Char
  long : Bytes
  takes : Takes
deriving Repr

/-- An option without an argument. -/
def flag (key : Char) (long : Bytes := "") : Switch := ⟨key, long, .nothing⟩

/-- An option with an argument. -/
def taking (key : Char) (long : Bytes := "") : Switch := ⟨key, long, .argument⟩

/-- The options that were given, with their arguments, and the other arguments. -/
structure Given where
  options : List (Char × Bytes)
  operands : List Bytes

namespace Given

/-- Whether an option was given. -/
def has (g : Given) (key : Char) : Bool := g.options.any fun o => o.1 == key

/-- The argument of an option, the last one if there are several. -/
def argument? (g : Given) (key : Char) : Option Bytes :=
  (g.options.reverse.find? fun o => o.1 == key).map Prod.snd

/-- The last option given of some. -/
def last? (g : Given) (keys : List Char) : Option Char :=
  (g.options.reverse.find? fun o => keys.contains o.1).map Prod.fst

end Given

/-- Whether a character can be the letter of an option. -/
def isLetter (c : Char) : Bool := 0x20 < c.toNat && c.toNat < 0x7f

/-- Takes the options among arguments; `permute` says that they may stand behind others, and `bad`
tells of an option that there is not.  The count is no smaller than what is left to read. -/
def optionsFrom (switches : List Switch) (permute : Bool) (bad : Bytes → Work m Unit) :
    Nat → Given → List Bytes → Work m Given
  | 0, g, _ => return g
  | _ + 1, g, [] => return g
  | fuel + 1, g, arg :: args => do
    match arg.toList with
    | ['-', '-'] => return { g with operands := g.operands ++ args }
    | '-' :: '-' :: long => do
      let (name, value) := match long.span (· != '=') with
        | (name, '=' :: value) => (String.ofList name, some (String.ofList value))
        | _ => (String.ofList long, none)
      match switches.find? fun s => s.long == name with
      | some s =>
        match s.takes, value, args with
        | .nothing, some _, _ => do
          bad ("option '--" ++ s.long ++ "' doesn't allow an argument")
          return g
        | .argument, none, [] => do
          bad ("option '--" ++ s.long ++ "' requires an argument")
          return g
        | .argument, none, next :: args =>
          optionsFrom switches permute bad fuel
            { g with options := g.options ++ [(s.key, next)] } args
        | _, value, args =>
          optionsFrom switches permute bad fuel
            { g with options := g.options ++ [(s.key, value.getD "")] } args
      | none => do
        let shown := if value.isSome then "--" ++ String.ofList long else arg
        bad ("unrecognized option '" ++ shown ++ "'")
        return g
    | '-' :: c :: rest =>
      match switches.find? fun s => s.key == c && isLetter c with
      | none => do
        bad ("invalid option -- '" ++ String.ofList [c] ++ "'")
        return g
      | some s =>
        match s.takes, rest, args with
        | .nothing, [], _ =>
          optionsFrom switches permute bad fuel { g with options := g.options ++ [(c, "")] } args
        | .nothing, more, _ =>
          optionsFrom switches permute bad fuel { g with options := g.options ++ [(c, "")] }
            (String.ofList ('-' :: more) :: args)
        | .argument, [], [] => do
          bad ("option requires an argument -- '" ++ String.ofList [c] ++ "'")
          return g
        | .argument, [], next :: args =>
          optionsFrom switches permute bad fuel { g with options := g.options ++ [(c, next)] } args
        | _, more, _ =>
          optionsFrom switches permute bad fuel
            { g with options := g.options ++ [(c, String.ofList more)] } args
    | _ =>
      if permute then
        optionsFrom switches permute bad fuel { g with operands := g.operands ++ [arg] } args
      else return { g with operands := g.operands ++ arg :: args }

/-- The options among the arguments of a program. -/
def options (switches : List Switch) (status : Nat := 1) (permute : Bool := true) :
    Work m Given := do
  let args := (← errand).args
  let size := args.foldl (fun n a => n + a.length + 1) 1
  optionsFrom (switches ++ [flag 'À' "help", flag 'Á' "version"]) permute
    (fun complaint => usageFault complaint status) size ⟨[], []⟩ args

end Work

end FixBatch.Shell
