import FixBatch.Call
import FixBatch.EngineError
import FixBatch.Files.Access
import FixBatch.Shell.Bytes
import FixBatch.Shell.Process

/-!
# FixBatch.Engine

Engines that are programs.  For each call the program is started with leading arguments and those of
the call; what it writes to its output is passed on, and how it ends is the answer.  How a program
is started is left to the world.

* `Finished` — a program that has ended;
* `launch` — the engine that starts a program.
-/

namespace FixBatch.Engine

/-- How a program has ended, with everything that it has written. -/
structure Finished where
  ending : Shell.Ending
  out : Shell.Bytes
  err : Shell.Bytes

/-- The answer of a program that has ended: failure is told with what it said. -/
def Finished.answer (f : Finished) : Except EngineError Unit :=
  if f.ending = .exited 0 then .ok ()
  else .error (.failed f.ending.text (Shell.Bytes.toText f.err))

/-- Starts a program with some arguments and waits for its end. -/
abbrev Start (m : Type → Type) := String → List String → m (Except Files.Cause Finished)

/-- An engine that starts a program for each call, and passes on what the program writes. -/
def launch {m : Type → Type} [Monad m] (start : Start m) (print : ByteArray → m Unit)
    (program : String) (leading : List String) (call : Call) : m (Except EngineError Unit) := do
  match ← start program (leading ++ call.arguments) with
  | .error cause => return .error (.spawn program cause.message)
  | .ok finished => do
    print (Shell.Bytes.toArray finished.out)
    return finished.answer

end FixBatch.Engine
