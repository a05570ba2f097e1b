import FixBatch.Cleanup
import FixBatch.EngineError
import FixBatch.Report

/-!
# FixBatch.Run

Carrying out a plan.  The calls of the plan go to the engine one by one, and after each call of a
plan without a selection the imports of its path are cleaned.  What happened is a list of events,
from which the report is told:

* `runCalls` — the events of some calls, in any world with an engine and a cleanup;
* `Report.add` — what an event adds to a report;
* `runPlan` — the outcome of a plan.
-/

namespace FixBatch

/-! ## Settings and agents -/

/-- What to do when the engine fails on a path: go on with the next, or stop. -/
inductive Policy where
  | proceed
  | stop
deriving DecidableEq, Repr

/-- How a plan is carried out. -/
structure RunSettings where
  policy : Policy
  /-- Whether imports are cleaned after calls that know no rules. -/
  cleanup : Bool
deriving DecidableEq, Repr

/-- What a run needs of the world. -/
structure Agents (m : Type → Type) where
  /-- Has the engine carry out a call. -/
  fix : Call → m (Except EngineError Unit)
  /-- Cleans the imports of a path; the answer says whether anything changed. -/
  clean : Path → m (Except CleanupError Bool)
  now : m Timestamp

/-! ## Events -/

/-- Something that happened in a run. -/
inductive Event where
  | fixed (call : Call) (answer : Except EngineError Unit)
  | cleaned (path : Path) (answer : Except CleanupError Bool)

/-- The call that stopped a run, and why it failed. -/
structure Abort where
  path : Path
  scope : Scope
  error : EngineError
deriving DecidableEq, Repr

namespace Abort

/-- The text of an aborted run. -/
def message (a : Abort) : String :=
  a.scope.word ++ " call for " ++ a.path.text ++ " failed: " ++ a.error.message

/-- The texts of an aborted run and its causes, outermost first. -/
def chain (a : Abort) : List String := a.message :: a.error.chain

end Abort

/-- What an event adds to a report. -/
def Report.add (r : Report) : Event → Report
  | .fixed _ (.ok ()) => r.addSuccess
  | .fixed call (.error e) => r.addFailure ⟨call.path, call.scope, e.message⟩
  | .cleaned _ (.ok _) => r
  | .cleaned path (.error e) => r.addCleanupFailure ⟨path, .path, e.message⟩

/-- The warning for an event, if it deserves one; a failure that stops the run is no warning. -/
def Event.warning? (policy : Policy) : Event → Option String
  | .fixed _ (.error e) =>
    match policy with
    | .proceed => some ("engine call failed, continuing: " ++ e.message)
    | .stop => none
  | .cleaned _ (.error e) => some ("import cleanup failed: " ++ e.message)
  | _ => none

/-! ## Runs -/

/-- What happened in a run, and what stopped it, if anything did. -/
structure Course where
  events : List Event
  abort : Option Abort

variable {m : Type → Type} [Monad m]

/-- The cleanup after a call: only calls that know no rules are cleaned up after. -/
def cleanAfter (agents : Agents m) (settings : RunSettings) : Call → m (List Event)
  | .whole path =>
    if settings.cleanup then do
      let answer ← agents.clean path
      return [.cleaned path answer]
    else return []
  | .file .. | .directory .. => return []

/-- Makes calls one after the other; under the policy to stop the first failure is the last. -/
def runCalls (agents : Agents m) (settings : RunSettings) : List Call → m Course
  | [] => return ⟨[], none⟩
  | call :: calls => do
    let answer ← agents.fix call
    match answer, settings.policy with
    | .error e, .stop => return ⟨[.fixed call answer], some ⟨call.path, call.scope, e⟩⟩
    | _, _ =>
      let cleaned ← cleanAfter agents settings call
      let rest ← runCalls agents settings calls
      return ⟨.fixed call answer :: cleaned ++ rest.events, rest.abort⟩

/-- What became of a plan: its report, what stopped it, and the warnings on the way. -/
structure Outcome where
  report : Report
  abort : Option Abort
  warnings : List String

/-- The outcome of a run. -/
def Course.outcome (c : Course) (mode : Mode) (policy : Policy) (started ended : Timestamp) :
    Outcome where
  report :=
    { c.events.foldl Report.add (.empty mode) with
      started := some started, ended := some ended, aborted := c.abort.isSome }
  abort := c.abort
  warnings := c.events.filterMap (Event.warning? policy)

/-- Carries out a plan. -/
def runPlan (agents : Agents m) (settings : RunSettings) (plan : Plan) : m Outcome := do
  let started ← agents.now
  let course ← runCalls agents settings plan.calls
  let ended ← agents.now
  return course.outcome plan.mode settings.policy started ended

/-! ## Engines that run nothing -/

/-- An engine that prints each call on a line of its own. -/
def printingEngine (print : String → m Unit) (call : Call) : m (Except EngineError Unit) := do
  print (call.text ++ "\n")
  return .ok ()

/-- The answer of an engine that fails on some places and succeeds everywhere else. -/
def simulatedAnswer (failing : List Path) (call : Call) : Except EngineError Unit :=
  if failing.any (· == call.path) then .error (.other ["simulated failure for " ++ call.path.text])
  else .ok ()

end FixBatch
