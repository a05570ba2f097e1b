import FixBatch.Shell.Builtin.Control
import FixBatch.Shell.Builtin.Place
import FixBatch.Shell.Builtin.Stream

/-!
# FixBatch.Shell.Builtin

The builtins of each shell, by name.  Those that run commands, and those that declare variables, are
carried out by the interpreter itself.
-/

namespace FixBatch.Shell.Builtin

variable {m : Type → Type} [Monad m]

/-- A builtin that only leaves a status behind. -/
def always (status : Nat) : Builtin m := fun _ _ _ => return status

/-- The builtins of both shells. -/
def shared : List (Bytes × Builtin m) :=
  [(":", always 0), ("true", always 0), ("false", always 1), (".", source), ("eval", eval),
    ("break", leaveLoop .break_), ("continue", leaveLoop .continue_), ("exit", exit),
    ("return", return_), ("set", set_), ("shift", shift), ("trap", trap), ("unset", unset),
    ("cd", cd), ("echo", echo), ("kill", kill), ("printf", printf), ("pwd", pwd), ("read", read_),
    ("test", test false), ("[", test true), ("wait", wait)]

/-- The builtin of a name. -/
def find? (dialect : Dialect) (name : Bytes) : Option (Builtin m) :=
  if name = "source" && dialect = .extended then some source else shared.lookup name

/-- Whether a builtin declares variables. -/
def declares (name : Bytes) : Bool := ["export", "local"].contains name

/-- Carries out a builtin that declares variables. -/
def declareWith (name : Bytes) (args : List Bytes) (declared : List Declared) : Act m Nat :=
  if name = "export" then export_ name args declared else local_ name args declared

end FixBatch.Shell.Builtin
