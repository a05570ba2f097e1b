import FixBatch.Shell.Builtin
import FixBatch.Shell.Condition
import FixBatch.Shell.Redirecting

/-!
# FixBatch.Shell.Interpreter

Carrying out commands.  Each kind of command has a function of its own, which is given how the
commands in it are carried out; `execute` ties them together.

* `runSimple` — commands of words;
* `runPipeline`, `runLoop`, `runEach`, `runChoose` and others — commands of commands;
* `execute` — any command.
-/

namespace FixBatch.Shell

variable {m : Type → Type} [Monad m]

/-! ## Frames of mind -/

/-- Does something after which a part of the session is as it was before. -/
def keeping (restore : Session → Session → Session) (x : Act m Unit) : Act m Unit := do
  let before ← get
  try
    x
    modify (restore before)
  catch leap => do
    modify (restore before)
    throw leap

/-- Does something whose failure is looked at, and so does not end the shell. -/
def leniently (x : Act m Unit) : Act m Unit :=
  keeping (fun before s => { s with lenient := before.lenient }) do
    modify fun s => { s with lenient := true }
    x

/-- Notices that a command has failed, which may end the shell. -/
def noticeFailure : Act m Unit := do
  let s ← get
  if s.status != 0 && !s.lenient && s.has "errexit" then throw (.exit s.status)

/-! ## Loops -/

/-- Carries out one round of a loop; whether the loop goes on. -/
def oneRound (x : Act m Bool) : Act m Bool := do
  try x
  catch leap =>
    match leap with
    | .break_ n => if n ≤ 1 then return false else throw (.break_ (n - 1))
    | .continue_ n => if n ≤ 1 then return true else throw (.continue_ (n - 1))
    | leap => throw leap

/-- Does something as a part of a loop. -/
def inLoop (x : Act m Unit) : Act m Unit :=
  keeping (fun before s => { s with loops := before.loops }) do
    modify fun s => { s with loops := s.loops + 1 }
    x

/-- How many rounds a loop has at most. -/
def roundLimit : Nat := 1000000

/-- Carries out a loop with a test; `last` is the status of the round before. -/
def runLoop (run : Execute m) (untilHolds : Bool) (test body : Command) : Nat → Nat → Act m Unit
  | 0, _ => return
  | fuel + 1, last => do
    let goesOn ← oneRound do
      leniently (run test)
      if ((← get).status == 0) != untilHolds then
        run body
        return true
      else
        setStatus last
        return false
    if goesOn then runLoop run untilHolds test body fuel (← get).status

/-- Carries out a loop over values. -/
def runValues (run : Execute m) (name : Bytes) (body : Command) : List Bytes → Act m Unit
  | [] => return
  | v :: rest => do
    assign name v
    let goesOn ← oneRound do
      run body
      return true
    if goesOn then runValues run name body rest

/-- Carries out a loop over words. -/
def runEach (run : Execute m) (line : Nat) (name : Bytes) (items : Option (List Word))
    (body : Command) : Act m Unit := do
  modify fun s => { s with line }
  let s ← get
  if !isName name && s.dialect = .extended then
    complain ("\x60" ++ name ++ "': not a valid identifier")
    setStatus 1
  else
    let values ← match items with
      | some words => words.flatMapM (expandFields (outputOf run))
      | none => pure s.positional
    setStatus 0
    inLoop (runValues run name body values)

/-! ## Choices -/

/-- Whether one of some patterns fits a text. -/
def fitsAny (run : Execute m) (subject : Bytes) : List Word → Act m Bool
  | [] => return false
  | w :: rest => do
    let p ← expandPattern (outputOf run) w
    if Pattern.fits p subject.toList then return true else fitsAny run subject rest

/-- Carries out the first arm of a case that fits. -/
def runArms (run : Execute m) (subject : Bytes) : List Arm → Act m Unit
  | [] => return
  | (patterns, body) :: rest => do
    if ← fitsAny run subject patterns then run body else runArms run subject rest

/-- Carries out a case. -/
def runChoose (run : Execute m) (line : Nat) (subject : Word) (arms : List Arm) : Act m Unit := do
  modify fun s => { s with line }
  let text ← expandText (outputOf run) subject
  setStatus 0
  runArms run text arms

/-! ## Conditions -/

/-- What conditions ask of a session. -/
def sessionFacts (s : Session) : Condition.Facts (Act m) where
  disk := worldDisk
  path n := ⟨Bytes.toText (s.absolute n)⟩
  isSet n := return (s.parameter? n).isSome

/-- Whether a condition between double brackets holds. -/
def judgementHolds (run : Execute m) : Judgement → Act m (Except Bytes Bool)
  | .word w => return .ok (!(← expandText (outputOf run) w).isEmpty)
  | .not c => do return (← judgementHolds run c).map (!·)
  | .both a b => do
    match ← judgementHolds run a with
    | .ok true => judgementHolds run b
    | answer => return answer
  | .either a b => do
    match ← judgementHolds run a with
    | .ok false => judgementHolds run b
    | answer => return answer
  | .unary op w => do
    let text ← expandText (outputOf run) w
    Condition.unaryHolds (sessionFacts (← get)) .extended op text
  | .binary op a b => do
    let subst := outputOf run
    let first ← expandText subst a
    match op with
    | "=" | "==" | "!=" =>
      let p ← expandPattern subst b
      return .ok (Pattern.fits p first.toList != (op == "!="))
    | "-eq" | "-ne" | "-lt" | "-le" | "-gt" | "-ge" => do
      let second ← expandText subst b
      match ← trySum first, ← trySum second with
      | .ok n, .ok k => return .ok (Condition.compares op n k)
      | .error text, _ | _, .error text => do
        complain ("[[: " ++ text)
        return .ok false
    | op => do
      let second ← expandText subst b
      Condition.binaryHolds (sessionFacts (← get)) .extended op first second

/-! ## Functions -/

/-- How many functions may run in each other in the plain shell. -/
def callLimit : Nat := 1000

/-- Puts back what the variables of a function have hidden. -/
def Session.leaveFrame (s : Session) : Session :=
  match s.frames with
  | [] => s
  | frame :: frames =>
    let s := frame.foldl (fun s (name, old) =>
      match old with
      | some v => s.put name v
      | none => s.drop name) s
    { s with frames }

/-- Calls a function. -/
def callFunction (run : Execute m) (f : Function) (args : List Bytes) : Act m Unit := do
  let s ← get
  if s.dialect = .plain && callLimit ≤ s.calls then
    complain ("Maximum function recursion depth (" ++ toString callLimit ++ ") reached")
    throw (.exit 2)
  let restore (before s : Session) : Session :=
    { s.leaveFrame with
      positional := before.positional
      calls := before.calls
      loops := before.loops
      source := before.source }
  keeping restore do
    modify fun s =>
      { s with
        positional := args
        frames := [] :: s.frames
        calls := s.calls + 1
        loops := 0
        source := f.source }
    try run f.body
    catch leap =>
      match leap with
      | .return_ status => setStatus status
      | leap => throw leap

/-! ## Programs -/

/-- Why a program cannot be run, with the status that this leaves. -/
def programFault (word : Bytes) (cause : Files.Cause) : Act m (Bytes × Nat) := do
  let s ← get
  match s.dialect with
  | .plain =>
    if word.isEmpty then return (": Permission denied", 127)
    else match cause with
      | .notFound | .notADirectory => return (word ++ ": not found", 127)
      | cause => return (word ++ ": " ++ cause.text, 126)
  | .extended =>
    if !word.toList.contains '/' && cause = .notFound then return (word ++ ": command not found", 127)
    else
      let p ← pathOf word
      let there := (← onDisk fun disk => disk.look true p).toOption
      match cause with
      | .notFound =>
        return (word ++ ": " ++ (if there.isSome then "cannot execute: required file not found"
          else cause.text), 127)
      | .permissionDenied =>
        let isDirectory := there.any fun l => l.nature == .directory
        return (word ++ ": " ++ (if isDirectory then Files.Cause.isADirectory else cause).text, 126)
      | cause => return (word ++ ": " ++ cause.text, 126)

/-- Takes note of the end of a program. -/
def noteEnding (word : Bytes) : Ending → Act m Unit
  | .exited status => setStatus status.toNat
  | .killed signal => do
    let s ← get
    match s.dialect, signal.report with
    | _, none => pure ()
    | .plain, some text => Builtin.tell (text ++ "\n")
    | .extended, some text =>
      if signal = .terminate then Builtin.tell (text ++ "\n")
      else Builtin.tell (s.label ++ " " ++ toString s.process ++ " " ++ padTo true 24 text ++ word ++ "\n")
    setStatus (128 + signal.number)

/-- Runs a program by its name. -/
def runProgram (run : Execute m) (words : List Bytes) : Act m Unit := do
  let word := words.headD ""
  match ← spawn run spawnLimit true (← get).environment words with
  | .ok ending => noteEnding word ending
  | .error cause => do
    let (text, status) ← programFault word cause
    complain text
    setStatus status

/-- Runs a program in the place of the shell. -/
def becomeProgram (run : Execute m) (words : List Bytes) : Act m Unit := do
  let s ← get
  match words with
  | [] => setStatus 0
  | word :: _ =>
    match ← spawn run spawnLimit true s.environment words with
    | .ok ending => do
      modify fun s => { s with traps := [] }
      match ending with
      | .exited status => throw (.exit status.toNat)
      | .killed signal => throw (.killed s.process signal)
    | .error cause => do
      let (text, status) ← programFault word cause
      complainAs "exec" (if s.dialect = .plain || cause != .notFound then text else word ++ ": not found")
      throw (.exit status)

/-! ## Words -/

/-- Does something with assignments that are undone afterwards. -/
def withSettings (settings : List Setting) (x : Act m Unit) : Act m Unit := do
  if settings.isEmpty then x
  else
    let names := settings.map Setting.name
    let restore (before s : Session) : Session :=
      names.foldl (fun s n =>
        match before.find? n with
        | some v => s.put n v
        | none => s.drop n) s
    keeping restore do
      settings.forM fun a => do
        a.apply
        Builtin.mark a.name true
      x

/-- Carries out a builtin, which leaves its status behind. -/
def runBuiltin (run : Execute m) (name : Bytes) (args : List Bytes) (b : Builtin m) : Act m Unit := do
  setStatus (← b ⟨run⟩ name args)

/-- Carries out the command that words name; `skips` says that functions do not count, and the count
bounds how many words in front only say how the others are to be taken. -/
def dispatch (run : Execute m) : Nat → Bool → List Bytes → Act m Unit
  | 0, _, _ => return
  | _ + 1, _, [] => setStatus 0
  | fuel + 1, skips, word :: args => do
    let s ← get
    let isSpecial := s.dialect = .plain && Token.specialNames.contains word
    match if skips || isSpecial then none else s.functions.lookup word with
    | some f => callFunction run f args
    | none =>
      if word = "exec" then becomeProgram run args
      else if word = "command" then
        match args with
        | "-v" :: words => setStatus (← Builtin.explain words)
        | words =>
          keeping (fun before s => { s with guarded := before.guarded }) do
            modify fun s => { s with guarded := true }
            dispatch run fuel true words
      else if Builtin.declares word then
        let options := args.takeWhile (·.startsWith "-")
        let declared := (args.drop options.length).map Builtin.Declared.text
        setStatus (← Builtin.declareWith word options declared)
      else match Builtin.find? s.dialect word with
        | some b => runBuiltin run word args b
        | none => runProgram run (word :: args)

/-- What a word of a builtin that declares variables comes to. -/
def expandDeclared (run : Execute m) (w : Word) : Act m (List Builtin.Declared) := do
  match Assignment.ofWord? (← get).dialect w with
  | some a => return [.setting (← a.expand (outputOf run))]
  | none => return (← expandFields (outputOf run) w).map .text

/-- Carries out a command of words. -/
def runSimple (run : Execute m) (line : Nat) (assignments words : List Word)
    (rs : List Redirection) : Act m Unit := do
  modify fun s => { s with line, substituted := none }
  let subst := outputOf run
  let s ← get
  let dialect := s.dialect
  let failure : Act m Unit := setStatus (if dialect = .plain then 2 else 1)
  let assigned := assignments.filterMap (Assignment.ofWord? dialect)
  let declarer := (words.head?.bind Word.bare?).filter fun n =>
    Builtin.declares n && (s.functions.lookup n).isNone
  match declarer with
  | some name => do
    let declared ← (words.drop 1).flatMapM (expandDeclared run)
    let settings ← assigned.mapM (Assignment.expand subst)
    let isOption : Builtin.Declared → Bool
      | .text a => a.startsWith "-"
      | .setting _ => false
    let options := declared.takeWhile isOption
    let texts := options.filterMap fun d => match d with
      | .text a => some a
      | .setting _ => none
    let failed : Act m Unit := do
      failure
      if dialect = .plain && name != "local" then throw (.exit 2)
    withRedirections subst rs failed do
      withSettings settings do
        setStatus (← Builtin.declareWith name texts (declared.drop options.length))
  | none => do
    match ← words.flatMapM (expandFields subst) with
    | [] =>
      let status := ((← get).substituted).getD 0
      withRedirections subst rs failure do
        modify fun t => { t with substituted := some status, status := s.status }
        assigned.forM fun a => do (← a.expand subst).apply
        modify fun t => { t with status := t.substituted.getD 0 }
    | name :: args => do
      let settings ← assigned.mapM (Assignment.expand subst)
      let isFunction := (s.functions.lookup name).isSome
      let isSpecial := dialect = .plain && Token.specialNames.contains name && !isFunction
      let failed : Act m Unit := do
        failure
        if isSpecial then throw (.exit 2)
      let fields := name :: args
      let carryOut := dispatch run (fields.length + 1) false fields
      if name = "exec" && !isFunction then
        -- what a shell redirects before a program takes its place stays redirected
        match ← redirect subst rs with
        | .error text => do
          complain text
          failed
        | .ok () => withSettings settings carryOut
      else
        withRedirections subst rs failed do
          if isSpecial then
            settings.forM Setting.apply
            carryOut
          else withSettings settings carryOut
  noticeFailure

/-! ## Pipelines -/

/-- Carries out the stages of a pipeline one after the other: each reads what the one before it has
written.  The statuses of the stages. -/
def runStages (run : Execute m) : List Command → Act m (List Nat)
  | [] => return []
  | [last] => do return [← inSubshell run (run last)]
  | stage :: rest => do
    let streams := (← get).streams
    let (number, channel) ← openBuffer
    modify fun s => s.connect 1 channel
    let status ← inSubshell run (run stage)
    let text ← takeBuffer number
    let source ← openSource ⟨text, false, false⟩
    modify fun s => { s with streams }
    modify fun s => s.connect 0 source
    return status :: (← runStages run rest)

/-- Carries out a pipeline. -/
def runPipeline (run : Execute m) (stages : List Command) : Act m Unit := do
  keeping (fun before s => { s with streams := before.streams }) do
    let statuses ← runStages run stages
    setStatus (if (← get).has "pipefail" then (statuses.reverse.find? (· != 0)).getD 0
      else statuses.getLast?.getD 0)
  noticeFailure

/-- Carries out a command beside the shell: it comes to its end before the shell goes on. -/
def runBeside (run : Execute m) (body : Command) : Act m Unit := do
  let process := processNumber + (← freshNumber)
  let input ← openSource ⟨"", true, false⟩
  let status ← inSubshell run do
    modify fun s => s.connect 0 input
    run body
  modify fun s => { s with beside := (process, status) :: s.beside, status := 0 }

/-! ## Commands -/

/-- Carries out the steps of a command; how the commands in it are carried out is given. -/
def step (run : Execute m) : Command → Act m Unit
  | .skip => return
  | .simple line assignments words rs => runSimple run line assignments words rs
  | .redirected line body rs => do
    modify fun s => { s with line }
    let failed : Act m Unit := do
      setStatus (if ← isExtended then 1 else 2)
      noticeFailure
    withRedirections (outputOf run) rs failed (run body)
  | .sequence a b => do
    run a
    run b
  | .background body => runBeside run body
  | .andThen a b => do
    leniently (run a)
    if (← get).status = 0 then run b
  | .orElse a b => do
    leniently (run a)
    if (← get).status != 0 then run b
  | .negated body => do
    leniently (run body)
    modify fun s => { s with status := if s.status = 0 then 1 else 0 }
  | .pipeline stages => runPipeline run stages
  | .group body => run body
  | .subshell line body => do
    modify fun s => { s with line }
    setStatus (← inSubshell run (run body))
    noticeFailure
  | .branch test yes no => do
    leniently (run test)
    if (← get).status = 0 then run yes
    else
      setStatus 0
      run no
  | .loop untilHolds test body => inLoop (runLoop run untilHolds test body roundLimit 0)
  | .each line name items body => runEach run line name items body
  | .choose line subject arms => runChoose run line subject arms
  | .define name body => do
    let s ← get
    let source := if s.dialect = .extended && s.fromArgument && s.source == s.name then "environment"
      else s.source
    let others := s.functions.filter fun f => f.1 != name
    set { s with functions := (name, ⟨source, body⟩) :: others, status := 0 }
  | .judge line condition => do
    modify fun s => { s with line }
    match ← judgementHolds run condition with
    | .ok holds => setStatus (if holds then 0 else 1)
    | .error text => do
      if !text.isEmpty then complain text
      setStatus 2
    noticeFailure

/-- Carries out a command.  A shell in which commands stand too deep in each other comes to a bad
end. -/
def execute : Nat → Execute m
  | 0, _ => do throw (.killed (← get).process .segmentation)
  | fuel + 1, c => step (execute fuel) c

/-- How deep commands may stand in each other. -/
def depthLimit : Nat := 20000

end FixBatch.Shell
