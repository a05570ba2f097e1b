import FixBatch.Run
import FixBatch.UsageError

/-!
# FixBatch.ProgramError

How the program fails, what it says about it and the status it exits with.
-/

namespace FixBatch

/-- Why the program fails. -/
inductive Failing where
  | usage (e : UsageError)
  | noEngine
  | aborted (a : Abort)
  | allFailed (attempted failed : Nat)
  /-- Anything else, told from the outermost text to the root. -/
  | other (chain : List String)
deriving DecidableEq, Repr

/-- A failure of the program, and what it was doing. -/
structure ProgramError where
  context : List String
  failing : Failing
deriving DecidableEq, Repr

namespace Failing

/-- The texts of a failure and its causes, outermost first. -/
def chain : Failing → List String
  | usage e => [e.message]
  | noEngine =>
    ["no engine configured: pass --engine, set RULEFIX_ENGINE or [engine] command in rulefix.toml"]
  | aborted a => a.chain
  | allFailed attempted failed =>
    ["every engine call failed (" ++ toString failed ++ " of " ++ toString attempted ++ ")"]
  | other chain => chain

/-- The exit status of a failure: 2 when the program was asked for something it cannot do. -/
def exitCode : Failing → UInt8
  | usage _ | noEngine => 2
  | aborted _ | allFailed .. | other _ => 1

end Failing

namespace ProgramError

/-- A failure without further context. -/
def of (f : Failing) : ProgramError := ⟨[], f⟩

/-- Says what the program was doing. -/
def inContext (context : String) (e : ProgramError) : ProgramError :=
  { e with context := context :: e.context }

/-- The texts of an error and its causes, outermost first. -/
def chain (e : ProgramError) : List String := e.context ++ e.failing.chain

/-- The exit status; context does not change it. -/
def exitCode (e : ProgramError) : UInt8 := e.failing.exitCode

/-- One cause, indented or behind its number; the lines after its first stand below it. -/
def causeText (number : Option Nat) (cause : String) : String :=
  let (first, others) := match number with
    | none => ("    ", "    ")
    | some n =>
      let n := toString n
      (String.ofList (List.replicate (5 - n.length) ' ') ++ n ++ ": ", "       ")
  first ++ String.intercalate ("\n" ++ others)
    ((Text.segments (· == '\n') cause.toList).map String.ofList)

/-- The causes of an error below its text; several are numbered. -/
def causesText (causes : List String) : String :=
  match causes with
  | [] => ""
  | [cause] => "\n\nCaused by:\n" ++ causeText none cause
  | _ =>
    "\n\nCaused by:" ++
      String.join ((causes.zipIdx).map fun (cause, i) => "\n" ++ causeText (some i) cause)

/-- A chain of texts as a log shows it. -/
def report (chain : List String) : String :=
  chain.headD "" ++ causesText chain.tail

end ProgramError

end FixBatch
