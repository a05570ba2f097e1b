import FixBatch.Program
import FixBatch.Shell.Launch
import Std.Time.DateTime.Timestamp

/-!
# FixBatch.Main

The program on the disk of a machine.  Everything it decides is in `FixBatch.Program`; here its
world is put together from the files, the clock, the environment and the streams of the process.
-/

namespace FixBatch.Main

/-! ## Files -/

/-- The number of what went wrong, if it has one. -/
def codeOf : IO.Error → Nat
  | .alreadyExists _ code _ | .otherError code _ | .resourceBusy code _
  | .resourceVanished code _ | .unsupportedOperation code _ | .hardwareFault code _
  | .unsatisfiedConstraints code _ | .illegalOperation code _ | .protocolError code _
  | .timeExpired code _ | .interrupted _ code _ | .noFileOrDirectory _ code _
  | .invalidArgument _ code _ | .permissionDenied _ code _ | .resourceExhausted _ code _
  | .inappropriateType _ code _ | .noSuchThing _ code _ => code.toNat
  | .unexpectedEof | .userError _ => 0

/-- The cause of what went wrong. -/
def causeOf (e : IO.Error) : Files.Cause :=
  let numbered : List Files.Cause :=
    [.notFound, .permissionDenied, .occupied, .notADirectory, .isADirectory, .nameTooLong,
      .tooManyLinks]
  (numbered.find? fun cause => cause.code? == some (codeOf e)).getD (.other (toString e))

/-- Tries something with a file. -/
def attempt (operation : Files.Operation) (path : Path) (act : IO α) :
    IO (Except Files.Error α) := do
  try return .ok (← act)
  catch e => return .error ⟨operation, path, causeOf e⟩

/-- What a file holds. -/
def read (path : Path) : IO (Except Files.Error ByteArray) := do
  match ← attempt .opening path (IO.FS.Handle.mk path.text .read) with
  | .error e => return .error e
  | .ok handle => attempt .reading path handle.readBinToEnd

/-- Opens a file and writes bytes to it. -/
def writeIn (mode : IO.FS.Mode) (path : Path) (bytes : ByteArray) :
    IO (Except Files.Error Unit) := do
  match ← attempt .creating path (IO.FS.Handle.mk path.text mode) with
  | .error e => return .error e
  | .ok handle => attempt .writing path (handle.write bytes)

/-- What stands at a path, found out by opening it. -/
def standing (path : Path) : IO Standing := do
  match ← attempt .opening path (IO.FS.Handle.mk path.text .read) with
  | .error ⟨_, _, .permissionDenied⟩ => return ⟨some .file, false, false⟩
  | .error _ => return .absent
  | .ok handle =>
    match ← attempt .reading path (handle.read 1) with
    | .error ⟨_, _, .isADirectory⟩ => return ⟨some .directory, true, false⟩
    | _ =>
      let writable ← attempt .opening path (IO.FS.Handle.mk path.text .append)
      return ⟨some .file, true, writable.toOption.isSome⟩

/-- What stands at a path by itself. -/
def look (follow : Bool) (path : Path) : IO (Except Files.Error Files.Look) := do
  attempt .opening path do
    let place := (← IO.currentDir) / path.text
    let data ← if follow then place.metadata else place.symlinkMetadata
    let nature : Files.Nature := match data.type with
      | .dir => .directory
      | .file => .file
      | .symlink => .link
      | .other => .device
    return ⟨nature, data.byteSize.toNat, true⟩

/-- The names in a directory. -/
def names (path : Path) : IO (Except Files.Error (List String)) :=
  attempt .opening path do
    let place := (← IO.currentDir) / path.text
    return ((← place.readDir).map fun entry => entry.fileName).toList

/-- Makes a file a program, or no program. -/
def setRuns (path : Path) (runs : Bool) : IO (Except Files.Error Unit) :=
  let others : IO.AccessRight := ⟨true, false, runs⟩
  attempt .opening path (IO.setAccessRights path.text ⟨⟨true, true, runs⟩, others, others⟩)

/-- The disk of the machine. -/
def disk : Files.Disk IO where
  read := read
  write := writeIn .write
  standing := standing
  append := writeIn .append
  remove path := attempt .removing path (IO.FS.removeFile path.text)
  removeDirectory path := attempt .removing path (IO.FS.removeDirAll path.text)
  makeDirectory path := attempt .creating path (IO.FS.createDir path.text)
  look := look
  names := names
  rename source target := attempt .creating target (IO.FS.rename source.text target.text)
  setRuns := setRuns
  resolve path := attempt .opening path do return (← IO.FS.realPath path.text).toString
  home := do return (← IO.currentDir).toString

/-! ## The process -/

/-- The time on the clock. -/
def now : IO Timestamp := do
  let nanoseconds := (← Std.Time.Timestamp.now).toNanosecondsSinceUnixEpoch.toInt
  return .ofUnix (nanoseconds.fdiv 1000000000) (nanoseconds.fmod 1000000000).toNat

/-- Writes bytes to the output. -/
def printBytes (bytes : ByteArray) : IO Unit := do
  let out ← IO.getStdout
  out.write bytes
  out.flush

/-- The world of the process. -/
def world : IO (Program.World IO) := do
  let engine ← IO.getEnv CommandLine.engineVariable
  return {
    disk := disk
    print := fun s => printBytes s.toUTF8
    tell := fun s => do (← IO.getStderr).putStr s
    launch := Engine.launch (Shell.start disk) printBytes
    now := now
    engine := engine }

end FixBatch.Main

/-- Runs the program on the arguments of the process. -/
def main (args : List String) : IO UInt32 := do
  return (← FixBatch.Program.run (← FixBatch.Main.world) args).toUInt32
