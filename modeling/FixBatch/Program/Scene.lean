import FixBatch.Files.Tree
import FixBatch.Program
import FixBatch.Shell.Launch

/-!
# FixBatch.Program.Scene

A world held in memory: a tree of files, and everything written so far.  Engines are programs of the
tree, and no time passes.
-/

namespace FixBatch.Program

/-- A world held in memory. -/
structure Scene where
  tree : Files.Tree
  out : ByteArray
  told : String

namespace Scene

/-- A scene in which nothing has been written. -/
def ofTree (tree : Files.Tree) : Scene := ⟨tree, .empty, ""⟩

/-- Does something with the tree of a scene. -/
def inTree (x : StateM Files.Tree α) : StateM Scene α :=
  fun s => let (a, tree) := x.run s.tree; (a, { s with tree })

/-- The files of a scene. -/
def disk : Files.Disk (StateM Scene) where
  read path := inTree (Files.Tree.disk.read path)
  write path bytes := inTree (Files.Tree.disk.write path bytes)
  standing path := inTree (Files.Tree.disk.standing path)
  append path bytes := inTree (Files.Tree.disk.append path bytes)
  remove path := inTree (Files.Tree.disk.remove path)
  removeDirectory path := inTree (Files.Tree.disk.removeDirectory path)
  makeDirectory path := inTree (Files.Tree.disk.makeDirectory path)
  look follow path := inTree (Files.Tree.disk.look follow path)
  names path := inTree (Files.Tree.disk.names path)
  rename source target := inTree (Files.Tree.disk.rename source target)
  setRuns path runs := inTree (Files.Tree.disk.setRuns path runs)
  resolve path := inTree (Files.Tree.disk.resolve path)
  home := inTree Files.Tree.disk.home

/-- Writes bytes to the output. -/
def printBytes (bytes : ByteArray) : StateM Scene Unit :=
  modify fun s => { s with out := s.out ++ bytes }

/-- An engine in a scene. -/
def launch (program : String) (leading : List String) (call : Call) :
    StateM Scene (Except EngineError Unit) :=
  Engine.launch (Shell.start disk) printBytes program leading call

/-- The world of a scene; the environment may name an engine. -/
def world (engine : Option String) : World (StateM Scene) where
  disk := disk
  print s := printBytes s.toUTF8
  tell s := modify fun scene => { scene with told := scene.told ++ s }
  launch := launch
  now := return .ofUnix 0 0
  engine := engine

/-- What a scene shows of its output. -/
def outText (s : Scene) : String := String.ofList (Text.Utf8.lossy s.out.toList)

end Scene

end FixBatch.Program
