import FixBatch.Program.Scene
import FixBatch.Proofs.Program.Reading

/-!
# FixBatch.Proofs.Program.Watched

A scene in which the programs that are started are watched.  What they do is not settled: a started
program may answer anything and leave any scene behind, as it likes after all that happened before.
The rest of the world is that of a scene.

* `Watched.world` — the world of a watched scene;
* `started_launch` — what an engine starts in it;
* `readingKeeps` — reading settings and checking paths leaves no trace.
-/

namespace FixBatch

variable {m n : Type → Type}

/-- Files in a world of which the old one is a part. -/
def Files.Disk.lift (f : ∀ {α : Type}, m α → n α) (disk : Files.Disk m) : Files.Disk n where
  read path := f (disk.read path)
  write path bytes := f (disk.write path bytes)
  standing path := f (disk.standing path)
  append path bytes := f (disk.append path bytes)
  remove path := f (disk.remove path)
  removeDirectory path := f (disk.removeDirectory path)
  makeDirectory path := f (disk.makeDirectory path)
  look follow path := f (disk.look follow path)
  names path := f (disk.names path)
  rename source target := f (disk.rename source target)
  setRuns path runs := f (disk.setRuns path runs)
  resolve path := f (disk.resolve path)
  home := f disk.home

namespace Program

/-! ## watched scenes -/

/-- What started programs do: why they cannot be started or how they end, and the scene that they
leave, from the command lines of those started before, their own command line and the scene. -/
abbrev Programs :=
  List (List String) → List String → Scene → Except Files.Cause Engine.Finished × Scene

/-- A scene, and the command lines of the programs that were started in it. -/
structure Watched where
  scene : Scene
  started : List (List String)

namespace Watched

/-- Does something in the scene. -/
def inScene {α : Type} (x : StateM Scene α) : StateM Watched α :=
  fun s => let (a, scene) := x.run s.scene; (a, { s with scene })

/-- Starts a program. -/
def start (programs : Programs) (program : String) (args : List String) :
    StateM Watched (Except Files.Cause Engine.Finished) :=
  fun s =>
    let (answer, scene) := programs s.started (program :: args) s.scene
    (answer, ⟨scene, s.started ++ [program :: args]⟩)

/-- The world of a watched scene, where the clock may show anything. -/
def world (programs : Programs) (clock : Watched → Timestamp) (engine : Option String) :
    World (StateM Watched) where
  disk := Scene.disk.lift inScene
  print s := inScene ((Scene.world engine).print s)
  tell s := inScene ((Scene.world engine).tell s)
  launch := Engine.launch (start programs) fun bytes => inScene (Scene.printBytes bytes)
  now := fun s => (clock s, s)
  engine := engine

/-- A watched scene after something was written to its output. -/
def printed (s : Watched) (text : String) : Watched :=
  { s with scene := { s.scene with out := s.scene.out ++ text.toUTF8 } }

theorem printed_empty (s : Watched) : s.printed "" = s := by
  have hout : s.scene.out ++ "".toUTF8 = s.scene.out := ByteArray.append_empty
  rw [printed, hout]

theorem printed_printed (s : Watched) (text text' : String) :
    (s.printed text).printed text' = s.printed (text ++ text') := by
  simp only [printed, String.toUTF8_eq_toByteArray, String.toByteArray_append,
    ByteArray.append_assoc]

variable {programs : Programs} {clock : Watched → Timestamp} {engine : Option String}

theorem run_print (text : String) (s : Watched) :
    ((world programs clock engine).print text).run s = ((), s.printed text) := rfl

/-! ## what leaves no trace -/

/-- Reading leaves no trace in a watched scene. -/
theorem readingKeeps : ReadingKeeps (world programs clock engine) id where
  read _ _ := rfl
  standing _ _ := rfl

/-- Without a settings file there are the settings where no file says anything. -/
theorem run_fileSettings_of_absent {r : CommandLine.Request} {s : Watched}
    (hconfig : r.config = none) (h : s.scene.tree.standing ⟨"./rulefix.toml"⟩ = .absent) :
    (fileSettings (world programs clock engine) r).run s = (.ok .default, s) := by
  have hstanding : ((world programs clock engine).disk.standing ⟨"./rulefix.toml"⟩).run s =
      (.absent, s) := by
    rw [← h]
    rfl
  have hexist : ((world programs clock engine).disk.exist ⟨"./rulefix.toml"⟩).run s = (false, s) :=
    Oracle.run_bind_of_run hstanding
  have hdiscover : (Settings.discover (world programs clock engine).disk.exist ⟨"."⟩).run s =
      (none, s) :=
    Oracle.run_bind_of_run hexist
  have hload : (Settings.loadFrom (world programs clock engine).disk.exist
      (world programs clock engine).disk.toAccess ⟨"."⟩).run s = (.ok .default, s) := by
    rw [Settings.loadFrom, Oracle.run_bind_of_run hdiscover]
    rfl
  rw [fileSettings, hconfig]
  exact Oracle.run_bind_of_run hload

theorem run_probe (paths : List Path) (s : Watched) :
    ((world programs clock engine).disk.probe paths).run s =
      (.ofList (paths.map fun p => (p, s.scene.tree.standing p)), s) := by
  have hknown : (paths.mapM fun p => do
        return (p, ← (world programs clock engine).disk.standing p)).run s =
      (paths.map fun p => (p, s.scene.tree.standing p), s) := by
    induction paths with
    | nil => rfl
    | cons p paths ih =>
      have hstanding : ((world programs clock engine).disk.standing p).run s =
          (s.scene.tree.standing p, s) := rfl
      rw [List.mapM_cons, bind_assoc, Oracle.run_bind_of_run hstanding, pure_bind,
        Oracle.run_bind_of_run ih]
      rfl
  exact Oracle.run_bind_of_run hknown

/-- The plan for a request is that of its arguments, with what stands at their paths. -/
theorem run_planFor (r : CommandLine.Request) (settings : Settings) (s : Watched) :
    (planFor (world programs clock engine) r settings).run s =
      ((buildPlan (settings.checkSettings r.legacy)
        (.ofList ((Arguments.parse r.args).paths.toList.map fun p =>
          (p, s.scene.tree.standing p))) r.args).mapError fun e => .of (.usage e), s) :=
  Oracle.run_bind_of_run (run_probe _ s)

/-! ## what starts no program -/

theorem keeps_started {α : Type} (x : StateM Scene α) : Keeps started (inScene x) := fun _ => rfl

theorem keeps_started_of_keeps {α : Type} {x : StateM Watched α} (h : Keeps id x) :
    Keeps started x := fun s => congrArg started (h s)

theorem keeps_started_cleanFile (path : Path) :
    Keeps started (cleanFile (world programs clock engine).disk.toAccess path) := by
  refine (keeps_started_of_keeps (readingKeeps.readText path)).bind fun answer => ?_
  split
  · exact .pure _
  · split
    · exact .pure _
    · split
      · exact .pure _
      · refine (keeps_started _).bind fun written => ?_
        split <;> exact .pure _

theorem keeps_started_writeReport (r : CommandLine.Request) (report : Report) :
    Keeps started (writeReport (world programs clock engine) r report) := by
  rw [writeReport]
  split
  · exact .pure _
  · refine (keeps_started _).bind fun written => ?_
    split <;> exact .pure _

/-! ## what is started -/

theorem run_start {program : String} {args : List String} {s : Watched}
    {answer : Except Files.Cause Engine.Finished} {scene : Scene}
    (h : programs s.started (program :: args) s.scene = (answer, scene)) :
    (start programs program args).run s = (answer, ⟨scene, s.started ++ [program :: args]⟩) := by
  have hrun : (start programs program args).run s =
      let result := programs s.started (program :: args) s.scene
      (result.1, ⟨result.2, s.started ++ [program :: args]⟩) := rfl
  rw [hrun, h]

theorem world_launch : (world programs clock engine).launch =
    Engine.launch (start programs) fun bytes => inScene (Scene.printBytes bytes) := rfl

/-- An engine starts its program with the arguments of the call after the leading ones. -/
theorem started_launch (program : String) (leading : List String) (call : Call) (s : Watched) :
    (((world programs clock engine).launch program leading call).run s).2.started =
      s.started ++ [program :: (leading ++ call.arguments)] := by
  have hstart := @run_start programs program (leading ++ call.arguments) s _ _ rfl
  rw [world_launch, Engine.launch, Oracle.run_bind_of_run hstart]
  split <;> rfl

end Watched

end Program

end FixBatch
