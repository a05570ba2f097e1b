import FixBatch.Files.Access
import FixBatch.Imports.Prune

/-!
# FixBatch.Cleanup

Removing unused imports from a file in place.  A file is written only if something in it changes, so
a file that is no text, or holds a faulty import line, stays as it is.
-/

namespace FixBatch

/-- Why a file was not cleaned. -/
inductive CleanupError where
  | io (path : Path) (cause : String)
  | format (path : Path) (malformed : Imports.Malformed)
deriving DecidableEq, Repr

namespace CleanupError

/-- The text of a cleanup error. -/
def message : CleanupError → String
  | io path cause => "cleanup i/o on " ++ path.text ++ ": " ++ cause
  | format path malformed => "cannot clean imports in " ++ path.text ++ ": " ++ malformed.message

/-- The texts of an error and its causes, outermost first. -/
def chain : CleanupError → List String
  | io path cause => [message (io path cause), cause]
  | format path malformed => [message (format path malformed), malformed.message]

end CleanupError

/-- Cleans a file; the answer says whether it changed. -/
def cleanFile {m : Type → Type} [Monad m] (files : Files.Access m) (path : Path) :
    m (Except CleanupError Bool) := do
  match ← files.readText path with
  | .error e => return .error (.io path e.message)
  | .ok source =>
    match Imports.pruneText source with
    | .error malformed => return .error (.format path malformed)
    | .ok pruned =>
      if pruned = source then return .ok false
      else match ← files.writeText path pruned with
        | .error e => return .error (.io path e.message)
        | .ok () => return .ok true

end FixBatch
