import FixBatch.CommandLine.Help
import FixBatch.Files.Access
import FixBatch.Plan.Json
import FixBatch.ProgramError
import FixBatch.Report.Json

/-!
# FixBatch.Program

The program: from its arguments to its exit status, in any world that has files, an engine to start
and somewhere to write.  Settings come from a file and from the command line, the paths are checked,
and the plan is printed, or its calls are printed, or the engine carries them out.

* `carryOut` — what a request comes to;
* `run` — what arguments come to, told as an exit status.
-/

namespace FixBatch.Program

open CommandLine (Request Answer)

/-! ## The world -/

/-- What the program needs of the world. -/
structure World (m : Type → Type) where
  disk : Files.Disk m
  /-- Writes to the output. -/
  print : String → m Unit
  /-- Writes to where errors are told. -/
  tell : String → m Unit
  /-- An engine that starts a program, with leading arguments, for each call. -/
  launch : String → List String → Call → m (Except EngineError Unit)
  now : m Timestamp
  /-- The engine that the environment names. -/
  engine : Option String

variable {m : Type → Type} [Monad m]

/-! ## Settings and plans -/

/-- The settings in the file that the request names, or in the one beside which the program runs. -/
def fileSettings (w : World m) (r : Request) : m (Except ProgramError Settings) := do
  match r.config with
  | some path =>
    return (← Settings.load w.disk.toAccess path).mapError fun e => .of (.other e.chain)
  | none =>
    return (← Settings.loadFrom w.disk.exist w.disk.toAccess ⟨"."⟩).mapError fun e =>
      .inContext "load rulefix.toml config" (.of (.other e.chain))

/-- What the command line, and after it the environment, put in the place of a file's settings. -/
def override (w : World m) (r : Request) (settings : Settings) : Settings :=
  settings.override (r.engine.or w.engine) r.onError

/-- The plan for a request. -/
def planFor (w : World m) (r : Request) (settings : Settings) : m (Except ProgramError Plan) := do
  let args := Arguments.parse r.args
  let probe ← w.disk.probe args.paths.toList
  return (checkArguments (settings.checkSettings r.legacy) probe args).mapError fun e =>
    .of (.usage e)

/-! ## Runs -/

/-- The engine of a request: a dry run prints its calls, and any other needs a command. -/
def engineFor (w : World m) (r : Request) (settings : Settings) :
    Except ProgramError (Call → m (Except EngineError Unit)) :=
  if r.dryRun then .ok (printingEngine w.print)
  else match settings.command with
    | program :: leading => .ok (w.launch program leading)
    | [] => .error (.of .noEngine)

/-- How the plan of a request is carried out; a dry run cleans nothing. -/
def runSettingsFor (r : Request) (settings : Settings) : RunSettings :=
  { settings.runSettings with cleanup := settings.cleanup && !r.dryRun }

/-- Writes a report where the request wants it. -/
def writeReport (w : World m) (r : Request) (report : Report) : m (Except ProgramError Unit) := do
  match r.report with
  | none => return .ok ()
  | some path =>
    match ← w.disk.toAccess.writeText path report.toJson.pretty with
    | .ok () => return .ok ()
    | .error e => return .error (.inContext ("write " ++ path.text) (.of (.other [e.message])))

/-! ## Telling errors -/

/-- A character as a log shows it: one that could steer a terminal is shown by its code. -/
def logged (c : Char) : List Char :=
  let code (digits : Nat) : List Char :=
    let hex := Nat.toDigits 16 c.toNat
    List.replicate (digits - hex.length) '0' ++ hex
  if c = '\x1b' ∨ c = '\x07' ∨ c = '\x08' ∨ c = '\x0c' ∨ c = '\x7f' then ['\\', 'x'] ++ code 2
  else if 0x80 ≤ c.toNat ∧ c.toNat ≤ 0x9f then ['\\', 'u', '\x7b'] ++ code 2 ++ ['\x7d']
  else [c]

/-- Tells an error: a line for its text, and its causes below. -/
def tellError (w : World m) (introduction : String) (e : ProgramError) : m Unit :=
  let text := introduction ++ ProgramError.report e.chain
  w.tell ("ERROR " ++ String.ofList (text.toList.flatMap logged) ++ "\n")

/-! ## The program -/

/-- What is wrong after a run: a run that stopped counts before a report that was not written, and
that before calls that all failed. -/
def verdict (outcome : Outcome) (written : Except ProgramError Unit) : Except ProgramError Unit :=
  match outcome.abort, written with
  | some a, _ => .error (.of (.aborted a))
  | none, .error e => .error e
  | none, .ok () =>
    if outcome.report.allFailed then
      .error (.of (.allFailed outcome.report.attempted outcome.report.failed))
    else .ok ()

/-- Nothing is wrong after a run that went to its end, wrote its report and did not only fail. -/
theorem verdict_eq_ok_iff (outcome : Outcome) (written : Except ProgramError Unit) :
    verdict outcome written = .ok () ↔
      outcome.abort = none ∧ written = .ok () ∧ outcome.report.allFailed = false := by
  unfold verdict
  cases outcome.abort <;> cases written <;> simp

/-- Carries out the plan of a request with an engine, and writes its report.  A report that cannot
be written hides no other failure: where the run stopped, it is told apart. -/
def runWith (w : World m) (r : Request) (settings : Settings) (plan : Plan)
    (fix : Call → m (Except EngineError Unit)) : m (Except ProgramError Unit) := do
  let agents : Agents m := ⟨fix, cleanFile w.disk.toAccess, w.now⟩
  let outcome ← runPlan agents (runSettingsFor r settings) plan
  let written ← writeReport w r outcome.report
  match outcome.abort, written with
  | some _, .error e => tellError w "failed to write report: " e
  | _, _ => pure ()
  return verdict outcome written

/-- Prints the plan of a request, or carries it out. -/
def carryOutPlan (w : World m) (r : Request) (settings : Settings) (plan : Plan) :
    m (Except ProgramError Unit) := do
  if r.printPlan then
    w.print (plan.toJson.pretty ++ "\n")
    return .ok ()
  else match engineFor w r settings with
    | .error e => return .error e
    | .ok fix => runWith w r settings plan fix

/-- Does what a request asks for. -/
def carryOut (w : World m) (r : Request) : m (Except ProgramError Unit) := do
  match ← fileSettings w r with
  | .error e => return .error e
  | .ok settings =>
    let settings := override w r settings
    match ← planFor w r settings with
    | .error e => return .error e
    | .ok plan => carryOutPlan w r settings plan

/-- Answers a command line that is not carried out. -/
def answer (w : World m) (a : Answer) : m UInt8 := do
  match a with
  | .help | .version => w.print (a.printed w.engine)
  | .refused _ => w.tell (a.printed w.engine ++ "\n")
  return a.exitCode

/-- Runs the program; the answer is its exit status. -/
def run (w : World m) (args : List String) : m UInt8 := do
  match Request.parse args with
  | .error a => answer w a
  | .ok r =>
    match ← carryOut w r with
    | .ok () => return 0
    | .error e => do
      tellError w "" e
      return e.exitCode

end FixBatch.Program
