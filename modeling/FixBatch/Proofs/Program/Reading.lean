import FixBatch.Program
import FixBatch.Proofs.Run.State

/-!
# FixBatch.Proofs.Program.Reading

What the program does before it carries anything out: it reads settings and checks paths.  For that
it reads files and looks at what stands at paths, so a part of the world that these two leave alone
is left alone by all of it.

* `ReadingKeeps` — a part of the world that reading leaves alone;
* `ReadingKeeps.fileSettings`, `ReadingKeeps.planFor` — settings and plans are come by without it.
-/

namespace FixBatch.Program

open CommandLine (Request)

variable {σ γ : Type} {w : World (StateM σ)} {part : σ → γ}

/-- A part of the world that neither reading a file nor looking at a path touches. -/
structure ReadingKeeps (w : World (StateM σ)) (part : σ → γ) : Prop where
  read : ∀ path, Keeps part (w.disk.read path)
  standing : ∀ path, Keeps part (w.disk.standing path)

namespace ReadingKeeps

theorem readText (h : ReadingKeeps w part) (path : Path) :
    Keeps part (w.disk.toAccess.readText path) := by
  refine (h.read path).bind fun answer => ?_
  split
  · exact .pure _
  · split <;> exact .pure _

theorem load (h : ReadingKeeps w part) (path : Path) :
    Keeps part (Settings.load w.disk.toAccess path) := by
  refine (h.readText path).bind fun answer => ?_
  split
  · exact .pure _
  · split <;> exact .pure _

theorem discover (h : ReadingKeeps w part) (dir : Path) :
    Keeps part (Settings.discover w.disk.exist dir) := by
  refine ((h.standing _).bind fun _ => .pure _).bind fun there => ?_
  split <;> exact .pure _

/-- Settings are read without a trace. -/
theorem fileSettings (h : ReadingKeeps w part) (r : Request) : Keeps part (fileSettings w r) := by
  rw [Program.fileSettings]
  split
  · exact (h.load _).bind fun _ => .pure _
  · refine ((h.discover _).bind fun found => ?_).bind fun _ => .pure _
    split
    · exact h.load _
    · exact .pure _

/-- Paths are checked without a trace. -/
theorem planFor (h : ReadingKeeps w part) (r : Request) (settings : Settings) :
    Keeps part (planFor w r settings) := by
  rw [Program.planFor]
  refine Keeps.bind ?_ fun _ => .pure _
  exact (Keeps.mapM _ fun path => (h.standing path).bind fun _ => .pure _).bind fun _ => .pure _

end ReadingKeeps

end FixBatch.Program
