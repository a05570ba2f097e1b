import FixBatch.Plan

/-!
# FixBatch.Call

Calls of the engine.  A call's arguments are two words for its scope and its mode and its path, then
the rules it carries and, for directories, whether test files are skipped.  A plan with a selection
calls for its directories first and its files after them; a plan without one calls for its paths as
they come.

The words of a call are those of the engine's protocol, and stand apart from the words for scopes
and modes in reports; `words_eq` says that they are the same.
-/

namespace FixBatch

/-- What a call is about: a file, a directory, or a path of either kind. -/
inductive Scope where
  | file
  | directory
  | path
deriving DecidableEq, Repr

/-- The word for a scope in reports. -/
def Scope.word : Scope → String
  | file => "file"
  | directory => "directory"
  | path => "path"

/-- One call of the engine. -/
inductive Call where
  | file (path : Path) (selection : Selection)
  | directory (path : Path) (selection : Selection) (ignoreTestFiles : Bool)
  | whole (path : Path)
deriving DecidableEq, Repr

namespace Call

/-- The path that a call is to treat. -/
def path : Call → Path
  | file path _ | directory path .. | whole path => path

/-- What a call is about. -/
def scope : Call → Scope
  | file .. => .file
  | directory .. => .directory
  | whole _ => .path

/-- The mode of a call. -/
def mode : Call → Mode
  | file _ selection | directory _ selection _ => selection.mode
  | whole _ => .legacy

/-- The argument that names the rules of a selection; all rules need none. -/
def ruleArgument : Selection → List String
  | .all => []
  | .only rules | .allBut rules => ["--rules=" ++ String.intercalate "," rules]

/-- The arguments after scope, mode and path. -/
def options : Call → List String
  | file _ selection => ruleArgument selection
  | directory _ selection ignore =>
    ruleArgument selection ++ ["--ignoreTestFiles=" ++ if ignore then "true" else "false"]
  | whole _ => []

/-- The words for scope and mode that the engine is told. -/
def words : Call → String × String
  | file _ .all => ("file", "all")
  | directory _ .all _ => ("directory", "all")
  | file _ (.only _) => ("file", "include")
  | directory _ (.only _) _ => ("directory", "include")
  | file _ (.allBut _) => ("file", "exclude")
  | directory _ (.allBut _) _ => ("directory", "exclude")
  | whole _ => ("path", "legacy")

/-- The arguments of a call. -/
def arguments (c : Call) : List String :=
  [c.words.1, c.words.2, c.path.text] ++ c.options

/-- A call on one line. -/
def text (c : Call) : String := String.intercalate " " c.arguments

/-- The engine is told the words that reports have for the scope and the mode. -/
theorem words_eq (c : Call) : c.words = (c.scope.word, c.mode.word) := by
  cases c with
  | file path selection => cases selection <;> rfl
  | directory path selection ignore => cases selection <;> rfl
  | whole path => rfl

theorem arguments_eq (c : Call) :
    c.arguments = [c.scope.word, c.mode.word, c.path.text] ++ c.options := by
  rw [arguments, words_eq]

/-- The first argument is the word for the scope. -/
theorem head?_arguments (c : Call) : c.arguments.head? = some c.scope.word := by
  rw [arguments_eq]
  rfl

end Call

/-- The calls a plan makes, in order. -/
def Plan.calls (p : Plan) : List Call :=
  match p.selection with
  | some selection =>
    p.directories.map (.directory · selection p.ignoreTestFiles) ++
      p.files.map (.file · selection)
  | none => p.targets.map fun t => .whole t.path

end FixBatch
