import FixBatch.Text.Blank

/-!
# FixBatch.EngineError

How a call of the engine fails: the program cannot be started, it reports failure, or something else
goes wrong, told as a chain of texts from the outermost to the root.
-/

namespace FixBatch

/-- Why a call of the engine failed. -/
inductive EngineError where
  | spawn (program : String) (cause : String)
  | failed (status : String) (stderr : String)
  | other (chain : List String)
deriving DecidableEq, Repr

namespace EngineError

/-- What an engine said, after a colon; an engine that said nothing needs none. -/
def stderrSuffix (stderr : String) : String :=
  let said := Text.trimmed stderr
  if said.isEmpty then "" else ": " ++ said

/-- The text of an engine error. -/
def message : EngineError → String
  | spawn program cause => "failed to start engine `" ++ program ++ "`: " ++ cause
  | failed status stderr => "engine exited with " ++ status ++ stderrSuffix stderr
  | other chain => String.intercalate ": " chain

/-- The texts of an error and its causes, outermost first. -/
def chain : EngineError → List String
  | spawn program cause => [message (spawn program cause), cause]
  | failed status stderr => [message (failed status stderr)]
  | other chain => message (other chain) :: chain

end EngineError

end FixBatch
