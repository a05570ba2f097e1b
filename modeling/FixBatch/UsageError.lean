import FixBatch.Path

/-!
# FixBatch.UsageError

Why arguments cannot become a plan.
-/

namespace FixBatch

/-- What is wrong with a file argument. -/
inductive FileFault where
  | wrongSuffix (expected : String)
  | notReadable
  | notWritable
deriving DecidableEq, Repr

/-- Why arguments cannot become a plan. -/
inductive UsageError where
  | noPaths
  | pathNotFound (path : Path)
  | invalidFile (path : Path) (fault : FileFault)
  | rulesExcludeEachOther
deriving DecidableEq, Repr

/-- The text of a file fault. -/
def FileFault.message : FileFault → String
  | wrongSuffix expected => "expected a file ending in `" ++ expected ++ "`"
  | notReadable => "file is not readable"
  | notWritable => "file is not writable"

/-- The text of a usage error. -/
def UsageError.message : UsageError → String
  | noPaths => "no paths given: pass at least one file or directory"
  | pathNotFound path => "path not found: " ++ path.text
  | invalidFile path fault => "invalid file " ++ path.text ++ ": " ++ fault.message
  | rulesExcludeEachOther =>
    "mutually exclusive rule options: --rules and --excludeRules cannot both be set"

end FixBatch
