import FixBatch.Engine
import FixBatch.Shell.Interpreter

/-!
# FixBatch.Shell.Launch

Starting programs.  A name without a slash is looked for in the directories of programs; a path has
to lead to a program.
-/

namespace FixBatch.Shell

variable {m : Type → Type} [Monad m]

/-- The directories in which programs are looked for. -/
def programDirectories : List Bytes :=
  ["/usr/local/sbin", "/usr/local/bin", "/usr/sbin", "/usr/bin", "/sbin", "/bin"]

/-- The environment of programs. -/
def programEnvironment : List (Bytes × Bytes) :=
  [("HOME", "/root"), ("PATH", String.intercalate ":" programDirectories)]

/-- What has been read and written before anything is: nothing. -/
def Traffic.start : Traffic :=
  { out := "", err := "", buffers := [], sources := [(0, ⟨"", false, false⟩)], fresh := 1 }

/-- A session in which nothing runs yet. -/
def Session.first (directory : Bytes) : Session :=
  .start .plain "" directory 1 programEnvironment [(0, .source 0), (1, .out), (2, .err)] .start

/-- Why a program cannot be started whose name leads nowhere. -/
def missingCause (program : Bytes) : Act m Files.Cause := do
  if program.toList.contains '/' then return .notFound
  else if Files.nameLimit < program.length then return .nameTooLong
  else
    let inDirectories ← programDirectories.anyM fun dir => do
      let p ← pathOf (Work.below dir program)
      return (← onDisk fun disk => disk.look true p).toOption.isSome
    return if inDirectories && !program.isEmpty then .permissionDenied else .notFound

/-- Runs a program to its end. -/
def runToEnd (words : List Bytes) : Act m (Except Files.Cause Ending) := do
  let answer ←
    try spawn (execute depthLimit) spawnLimit true programEnvironment words
    catch leap =>
      match leap with
      | .killed _ signal => pure (.ok (.killed signal))
      | leap => do pure (.ok (.ofStatus (← leap.status 0)))
  match answer with
  | .error .notFound => return .error (← missingCause (words.headD ""))
  | answer => return answer

/-- Starts a program and waits for its end. -/
def start (disk : Files.Disk m) : Engine.Start m := fun program args => do
  if (program :: args).any fun s => s.toList.contains '\x00' then
    return .error (.other "nul byte found in provided data")
  else
    let home ← disk.home
    let words := (program :: args).map Bytes.ofText
    let (answer, s) ← ((runToEnd words).run disk).run.run (.first (Bytes.ofText home))
    match answer with
    | .ok (.error cause) => return .error cause
    | .ok (.ok ending) => return .ok ⟨ending, s.traffic.out, s.traffic.err⟩
    | .error _ => return .ok ⟨.exited 0, s.traffic.out, s.traffic.err⟩

/-- The names of the programs that there are. -/
def programNames : List String := ["bash", "dash"] ++ Tool.names

end FixBatch.Shell
