import FixBatch.Call
import FixBatch.Timestamp

/-!
# FixBatch.Report

What became of a run: how many calls were made, how many of them succeeded and failed, and each
failure with its path and its text.  Cleanup failures stand in a list of their own and count for
nothing else.
-/

namespace FixBatch

/-- A path that was not treated, and why. -/
structure Failure where
  path : Path
  scope : Scope
  message : String
deriving DecidableEq, Repr

/-- What became of a run. -/
structure Report where
  schema : String
  mode : Mode
  started : Option Timestamp
  ended : Option Timestamp
  attempted : Nat
  succeeded : Nat
  failed : Nat
  aborted : Bool
  failures : List Failure
  cleanupFailures : List Failure
deriving DecidableEq, Repr

namespace Report

/-- The name of the form in which reports are written. -/
def schemaName : String := "rulefix.report.v1"

/-- The report before the first call. -/
def empty (mode : Mode) : Report := ⟨schemaName, mode, none, none, 0, 0, 0, false, [], []⟩

/-- Counts a call that succeeded. -/
def addSuccess (r : Report) : Report :=
  { r with attempted := r.attempted + 1, succeeded := r.succeeded + 1 }

/-- Counts a call that failed. -/
def addFailure (r : Report) (f : Failure) : Report :=
  { r with
    attempted := r.attempted + 1
    failed := r.failed + 1
    failures := r.failures ++ [f] }

/-- Notes a cleanup that failed. -/
def addCleanupFailure (r : Report) (f : Failure) : Report :=
  { r with cleanupFailures := r.cleanupFailures ++ [f] }

/-- Whether there were calls and none succeeded. -/
def allFailed (r : Report) : Bool := 0 < r.attempted && r.succeeded == 0

end Report

end FixBatch
