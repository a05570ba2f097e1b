import FixBatch.Check
import FixBatch.Files.Error

/-!
# FixBatch.Files.Access

What can be done with files, in any world: the disk of a machine, or a tree held in memory.
-/

namespace FixBatch.Files

/-! ## Whole files -/

/-- Reading and writing whole files. -/
structure Access (m : Type → Type) where
  read : Path → m (Except Error ByteArray)
  write : Path → ByteArray → m (Except Error Unit)

variable {m : Type → Type} [Monad m]

/-- The text of a file; a file that holds no text cannot be read. -/
def Access.readText (files : Access m) (path : Path) : m (Except Error String) := do
  match ← files.read path with
  | .error e => return .error e
  | .ok bytes =>
    match String.fromUTF8? bytes with
    | some text => return .ok text
    | none => return .error ⟨.reading, path, .notText⟩

/-- Gives a file a text. -/
def Access.writeText (files : Access m) (path : Path) (text : String) : m (Except Error Unit) :=
  files.write path text.toUTF8

/-! ## Disks -/

/-- The most bytes that a name may have. -/
def nameLimit : Nat := 255

/-- What stands at a place by itself. -/
inductive Nature where
  | file
  | directory
  | link
  | device
deriving DecidableEq, Repr

/-- What a look at a place shows. -/
structure Look where
  nature : Nature
  size : Nat
  /-- Whether a file is a program. -/
  runs : Bool
deriving DecidableEq, Repr

/-- Everything that can be done with files. -/
structure Disk (m : Type → Type) extends Access m where
  standing : Path → m Standing
  /-- Adds to the end of a file, which need not be there before. -/
  append : Path → ByteArray → m (Except Error Unit)
  remove : Path → m (Except Error Unit)
  /-- Removes a directory and everything below it. -/
  removeDirectory : Path → m (Except Error Unit)
  makeDirectory : Path → m (Except Error Unit)
  /-- Looks at what stands at a path; a link at its end is followed only if the flag says so. -/
  look : Bool → Path → m (Except Error Look)
  /-- The names in a directory. -/
  names : Path → m (Except Error (List String))
  /-- Gives what stands at the first path the second one. -/
  rename : Path → Path → m (Except Error Unit)
  /-- Makes a file a program, or no program. -/
  setRuns : Path → Bool → m (Except Error Unit)
  /-- The path from the root to where a path leads, links followed. -/
  resolve : Path → m (Except Error String)
  /-- The directory where relative paths start. -/
  home : m String

/-- Whether something stands at a path. -/
def Disk.exist (disk : Disk m) (path : Path) : m Bool := do
  return (← disk.standing path).kind.isSome

/-- A probe that knows what stands at some paths. -/
def Disk.probe (disk : Disk m) (paths : List Path) : m Probe := do
  return .ofList (← paths.mapM fun p => do return (p, ← disk.standing p))

end FixBatch.Files
