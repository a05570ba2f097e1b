import FixBatch.Shell.Session
import FixBatch.Shell.Tool

/-!
# FixBatch.Shell.World

The world as the programs of a session see it: the disk, with the files that stand for streams, and
the programs on it.

* `worldDisk` — the disk of a session;
* `work` — carries out the work of a program;
* `programAt`, `locate` — what is run under a name.
-/

namespace FixBatch.Shell

variable {m : Type → Type} [Monad m]

/-! ## The disk -/

/-- The stream that a path stands for, if it names no place on the disk. -/
def streamAt? (path : Path) : Option Nat :=
  match path.text with
  | "/dev/stdin" => some 0
  | "/dev/stdout" => some 1
  | "/dev/stderr" => some 2
  | text => if text.startsWith "/dev/fd/" then (text.drop 8).toNat? else none

/-- Does something with a path: one thing for one that stands for a stream, and another one for the
rest. -/
def throughStream (path : Path) (special : Nat → Act m α) (usual : Files.Disk m → m α) : Act m α :=
  match streamAt? path with
  | some stream => special stream
  | none => onDisk usual

/-- Writes to the stream that a path stands for. -/
def writeStream (path : Path) (bytes : ByteArray) (stream : Nat) :
    Act m (Except Files.Error Unit) := do
  let done ← emit stream (Bytes.ofArray bytes)
  return if done then .ok () else .error ⟨.creating, path, .notFound⟩

/-- The disk of a session. -/
def worldDisk : Files.Disk (Act m) where
  read path :=
    throughStream path
      (fun stream => do
        let text ← pendingInput stream
        leaveInput stream ""
        return .ok (Bytes.toArray text))
      fun disk => disk.read path
  write path bytes :=
    throughStream path (writeStream path bytes) fun disk => disk.write path bytes
  append path bytes :=
    throughStream path (writeStream path bytes) fun disk => disk.append path bytes
  standing path :=
    throughStream path (fun _ => return ⟨some .file, true, true⟩) fun disk => disk.standing path
  remove path := onDisk fun disk => disk.remove path
  removeDirectory path := onDisk fun disk => disk.removeDirectory path
  makeDirectory path := onDisk fun disk => disk.makeDirectory path
  look follow path :=
    throughStream path (fun _ => return .ok ⟨.device, 0, false⟩) fun disk => disk.look follow path
  names path := onDisk fun disk => disk.names path
  rename source target := onDisk fun disk => disk.rename source target
  setRuns path runs := onDisk fun disk => disk.setRuns path runs
  resolve path :=
    throughStream path (fun _ => return .ok path.text) fun disk => disk.resolve path
  home := onDisk fun disk => disk.home

/-! ## Programs -/

/-- How a program is run by another one. -/
abbrev RunProgram (m : Type → Type) :=
  Bool → List (Bytes × Bytes) → List Bytes → Act m (Except Files.Cause Ending)

/-- Carries out the work of a program to its end. -/
def work (run : RunProgram m) (environment : List (Bytes × Bytes)) (name : Bytes)
    (args : List Bytes) (task : Work (Act m) Unit) : Act m Ending := do
  let s ← get
  let source := (← sourceOf 0).map Prod.snd
  let rewinds := (source.map Source.rewinds).getD true
  let place : Workplace (Act m) :=
    ⟨worldDisk, ⟨name, args, environment, s.directory⟩,
      fun isError text => emit (if isError then 2 else 1) text, run⟩
  let (_, toil) ← (ExceptT.run (ReaderT.run task place)).run
    ⟨0, none, (source.map Source.left).getD "", false, rewinds, (source.map Source.isDirectory).getD false⟩
  if toil.hasRead then leaveInput 0 (if rewinds then toil.input else "")
  return (toil.signal.map Ending.killed).getD (.ofStatus toil.status)

/-- A program: one of the tools, a shell, or a script with the words that start its interpreter. -/
inductive Executable (m : Type → Type) where
  | tool (task : Work (Act m) Unit)
  | shell (dialect : Dialect)
  | script (interpreter : List Bytes)
  /-- A file that can be run, but does not say how. -/
  | text (content : Bytes)

/-- The shell of a name. -/
def shell? (name : Bytes) : Option Dialect :=
  match name with
  | "sh" | "dash" => some .plain
  | "bash" => some .extended
  | _ => none

/-- Where the tools stand. -/
def toolDirectories : List Bytes := ["/usr/bin", "/bin", "/usr/local/bin", "/usr/sbin", "/sbin"]

/-- The words that the first line of a script starts its interpreter with. -/
def interpreterOf? (content : Bytes) : Option (List Bytes) :=
  match content.toList with
  | '#' :: '!' :: rest =>
    let isBlank (c : Char) := c == ' ' || c == '\t'
    let line := (rest.takeWhile (· != '\n')).dropWhile isBlank
    let line := (line.reverse.dropWhile isBlank).reverse
    let program := line.takeWhile (!isBlank ·)
    let option := (line.drop program.length).dropWhile isBlank
    if program.isEmpty then none
    else some (String.ofList program :: if option.isEmpty then [] else [String.ofList option])
  | _ => none

/-- The program that stands at a path, or why nothing there can be run. -/
def programAt (path : Bytes) : Act m (Except Files.Cause (Executable m)) := do
  let p ← pathOf path
  match ← onDisk fun disk => disk.look true p with
  | .error e => return .error e.cause
  | .ok l =>
    if l.nature != .file || !l.runs then return .error .permissionDenied
    else
      let place := (← onDisk fun disk => disk.resolve p).toOption.map Bytes.ofText
      let name := Work.lastStep (place.getD "")
      let isTool := place.any fun text => toolDirectories.contains (Tool.directoryOf text)
      match if isTool then shell? name else none, if isTool then Tool.work? name else none with
      | some dialect, _ => return .ok (.shell dialect)
      | _, some task => return .ok (.tool task)
      | none, none =>
        match ← onDisk fun disk => disk.read p with
        | .error e => return .error e.cause
        | .ok bytes =>
          let content := Bytes.ofArray bytes
          return .ok (match interpreterOf? content with
            | some words => .script words
            | none => .text content)

/-- The directories that programs are looked for in. -/
def Session.searchPath (s : Session) : List Bytes :=
  match s.parameter? "PATH" with
  | some text =>
    (Text.segments (· == ':') text.toList).map fun dir =>
      if dir.isEmpty then "." else String.ofList dir
  | none => []

/-- Where the program of a name stands; what cannot be run is found only if nothing else is. -/
def locate (name : Bytes) : Act m (Option Bytes) := do
  if name.isEmpty then return none
  let paths := (← get).searchPath.map fun dir => Work.below dir name
  let looks ← paths.filterMapM fun path => do
    let p ← pathOf path
    match ← onDisk fun disk => disk.look true p with
    | .ok l => return if l.nature == .file then some (path, l.runs) else none
    | .error _ => return none
  return ((looks.find? Prod.snd).orElse fun _ => looks.head?).map Prod.fst

/-- Where a word leads that names a program: itself, if it is a path. -/
def programPath? (word : Bytes) : Act m (Option Bytes) := do
  if word.toList.contains '/' then return some word else locate word

end FixBatch.Shell
