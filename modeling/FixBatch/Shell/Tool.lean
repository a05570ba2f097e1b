import FixBatch.Shell.Tool.Place
import FixBatch.Shell.Tool.Plain

/-!
# FixBatch.Shell.Tool

The programs that there are besides the shells, by name.
-/

namespace FixBatch.Shell.Tool

open Work

variable {m : Type → Type} [Monad m]

/-- The programs. -/
def table : List (Bytes × Work m Unit) :=
  [("basename", basename), ("cat", cat), ("cp", cp), ("dirname", dirname), ("echo", echo),
    ("env", env), ("false", leaveStatus 1), ("head", head), ("ls", ls), ("mkdir", mkdir), ("mv", mv),
    ("printf", printf), ("rm", rm), ("tail", tail), ("tee", tee), ("touch", touch), ("tr", tr),
    ("true", pure ()), ("wc", wc)]

/-- The program of a name. -/
def work? (name : Bytes) : Option (Work m Unit) := table.lookup name

/-- The names of the programs. -/
def names : List Bytes := (@table Id _).map Prod.fst

end FixBatch.Shell.Tool
