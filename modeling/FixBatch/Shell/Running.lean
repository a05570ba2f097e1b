import FixBatch.Shell.Expansion
import FixBatch.Shell.Syntax.Reader
import FixBatch.Shell.World

/-!
# FixBatch.Shell.Running

What a shell runs besides single commands: the text of scripts, line by line; commands in a shell of
their own; and programs.  How a command is carried out is left to a function that is given.

* `runText` — the commands of a text;
* `inSubshell`, `outputOf` — commands apart from the shell;
* `spawn` — programs.
-/

namespace FixBatch.Shell

variable {m : Type → Type} [Monad m]

/-- How a command is carried out. -/
abbrev Execute (m : Type → Type) := Command → Act m Unit

/-! ## Texts -/

/-- Where the text of a script comes from. -/
inductive ScriptPlace where
  /-- An argument of the shell, a file, or the input. -/
  | argument
  | file
  /-- An argument of a builtin. -/
  | evaluated
deriving DecidableEq, Repr

/-- Tells a fault of a script, which ends a plain shell. -/
def tellFault (origin : ScriptPlace) (text : Bytes) (firstLine : Nat) (f : Fault) : Act m Unit := do
  let s ← get
  match s.dialect with
  | .plain => do
    modify fun s => { s with line := f.line }
    let message := Fault.plainText f.cause
    complain ("Syntax error: " ++ message)
    throw (.exit 2)
  | .extended => do
    let lines := (Text.segments (· == '\n') text.toList).map String.ofList
    let shown (n : Nat) : Bytes := lines.getD (n - firstLine) ""
    let place := match origin with
      | .argument => "-c: "
      | .evaluated => "eval: "
      | .file => ""
    (Fault.extendedTexts shown f).forM fun (n, message) => do
      let _ ← emit 2 (s.source ++ ": " ++ place ++ "line " ++ toString n ++ ": " ++ message ++ "\n")
    setStatus 2

/-- Carries out the commands of a text, line by line.  The shell goes on with the next line where it
gives one up, unless it is one that another shell has split off. -/
def runLines (execute : Execute m) (origin : ScriptPlace) (text : Bytes) (firstLine : Nat) :
    Nat → Cursor → Act m Unit
  | 0, _ => return
  | fuel + 1, c => do
    let s ← get
    let c := { c with count := s.documentCount, documents := [], warnings := [] }
    match (Reader.readLine (40 * c.rest.length + 400)).run c with
    | .error f => tellFault origin text firstLine f
    | .ok (command, c) => do
      modify fun s =>
        { s with documents := c.documents ++ s.documents, documentCount := c.count }
      if s.dialect = .extended then
        c.warnings.forM fun (n, message) => do
          let _ ← emit 2 (s.source ++ ": line " ++ toString n ++ ": " ++ message ++ "\n")
      match command with
      | none => return
      | some command => do
        try execute command
        catch leap =>
          match leap with
          | .discard status =>
            if (← get).inner then throw (.exit status) else setStatus status
          | leap => throw leap
        runLines execute origin text firstLine fuel c

/-- Carries out the commands of a text. -/
def runText (execute : Execute m) (origin : ScriptPlace) (firstLine : Nat) (text : Bytes) :
    Act m Unit := do
  let s ← get
  let last := text.toList.getLast?
  let isOpen := s.dialect = .extended && last.any fun c =>
    c != '\n' && !(c == '\\' && origin != .file)
  let text := if isOpen then text ++ "\n" else text
  let c : Cursor :=
    { dialect := s.dialect, rest := text.toList, line := firstLine, fresh := true,
      peeked := none, waiting := [], documents := [], count := 0, warnings := [] }
  runLines execute origin text firstLine (text.length + 2) c

/-! ## Shells apart -/

/-- The status that a leap out of a shell leaves; a signal that ends another process is passed on. -/
def Leap.status (process : Nat) : Leap → Act m Nat
  | .exit status | .return_ status | .discard status => return status
  | .break_ _ | .continue_ _ => return (← get).status
  | .killed other signal =>
    if other = process then return 128 + signal.number else throw (.killed other signal)

/-- Carries something out to the end of a shell: what was trapped for the end is carried out too. -/
def toEnd (execute : Execute m) (body : Act m Unit) : Act m Nat := do
  let process := (← get).process
  let whole (x : Act m Unit) : Act m Nat := do
    try
      x
      return (← get).status
    catch leap =>
      match leap with
      | .killed .. => throw leap
      | leap => leap.status process
  let status ← whole body
  match (← get).traps.lookup "EXIT" with
  | none => return status
  | some action =>
    if action.isEmpty then return status
    else do
      modify fun s =>
        { s with status, context := "", traps := s.traps.filter fun t => t.1 != "EXIT" }
      try
        runText execute .evaluated (← get).line action
        return status
      catch leap =>
        match leap with
        | .killed .. => throw leap
        | leap => leap.status process

/-- Carries something out in a shell of its own, which leaves nothing behind but what it has written
and read; the status it ends with. -/
def inSubshell (execute : Execute m) (body : Act m Unit) : Act m Nat := do
  let outer ← get
  modify fun s =>
    { s with
      inner := true
      traps := s.traps.filter (·.2.isEmpty)
      beside := [] }
  let status ← toEnd execute body
  let traffic := (← get).traffic
  set { outer with traffic }
  return status

/-- The output of a command. -/
def outputOf (execute : Execute m) (body : Command) : Act m Bytes := do
  let (number, channel) ← openBuffer
  let outer ← get
  modify fun s =>
    let s := s.connect 1 channel
    if s.dialect = .extended then s.setOption "errexit" false else { s with lenient := false }
  let status ← inSubshell execute (execute body)
  let traffic := (← get).traffic
  set { outer with traffic, substituted := some status }
  takeBuffer number

/-! ## Starting shells -/

/-- What a shell begins with. -/
def Session.start (dialect : Dialect) (name directory : Bytes) (process : Nat)
    (environment : List (Bytes × Bytes)) (streams : List (Nat × Channel)) (traffic : Traffic) :
    Session :=
  let given := environment.filter fun v => isName v.1 && v.1 != "IFS" && v.1 != "PWD"
  let s : Session :=
    { dialect, name, process, fromArgument := false, source := name, context := "", positional := [],
      bindings := [], frames := [], functions := [], options := [], status := 0, substituted := none,
      directory, streams, traps := [], line := 0, documents := [], documentCount := 0, loops := 0,
      calls := 0, sourced := 0, lenient := false, inner := false, beside := [], guarded := false,
      traffic }
  let s := s.put "IFS" { content := some (.text " \t\n") }
  let s := given.foldl (fun s (n, v) => s.put n { content := some (.text v), exported := true }) s
  s.put "PWD" { content := some (.text directory), exported := true }

/-- What a shell is asked to do. -/
structure Request where
  options : List (Bytes × Bool)
  /-- The script is an argument, or is read from the input. -/
  isArgument : Bool
  isInput : Bool
  words : List Bytes

/-- The options of the shells that have a letter. -/
def optionLetters : List (Char × Bytes) :=
  [('e', "errexit"), ('f', "noglob"), ('u', "nounset")]

/-- The names of options. -/
def optionNames : Dialect → List Bytes
  | .plain => optionLetters.map Prod.snd
  | .extended => optionLetters.map Prod.snd ++ ["pipefail"]

/-- What is said of an option that there is not. -/
def letterFault (dialect : Dialect) (on : Bool) (c : Char) : Bytes :=
  let text := (if on then "-" else "+") ++ String.ofList [c]
  match dialect with
  | .plain => "Illegal option " ++ text
  | .extended => text ++ ": invalid option"

/-- What is said of an option whose name there is not. -/
def nameFault (dialect : Dialect) (on : Bool) (name : Bytes) : Bytes :=
  match dialect with
  | .plain => "Illegal option " ++ (if on then "-o " else "+o ") ++ name
  | .extended => name ++ ": invalid option name"

/-- The options in the letters of an argument: the request with them, and the arguments that are
left, or what is wrong. -/
def takeLetters (dialect : Dialect) (on : Bool) : List Char → Request → List Bytes →
    Except Bytes (Request × List Bytes)
  | [], r, args => .ok (r, args)
  | 'c' :: cs, r, args => takeLetters dialect on cs { r with isArgument := true } args
  | 's' :: cs, r, args => takeLetters dialect on cs { r with isInput := true } args
  | 'o' :: cs, r, name :: args =>
    if (optionNames dialect).contains name then
      takeLetters dialect on cs { r with options := r.options ++ [(name, on)] } args
    else .error (nameFault dialect on name)
  | 'o' :: cs, r, [] => takeLetters dialect on cs r []
  | c :: cs, r, args =>
    match optionLetters.lookup c with
    | some name => takeLetters dialect on cs { r with options := r.options ++ [(name, on)] } args
    | none => .error (letterFault dialect on c)

/-- What the arguments of a shell ask for; the count is no smaller than how many there are. -/
def readRequest (dialect : Dialect) : Nat → Request → List Bytes → Except Bytes Request
  | 0, r, args => .ok { r with words := args }
  | fuel + 1, r, args =>
    match args with
    | [] => .ok { r with words := [] }
    | arg :: rest =>
      match arg.toList with
      | ['-'] | ['-', '-'] => .ok { r with words := rest }
      | '-' :: letters => do
        let (r, rest) ← takeLetters dialect true letters r rest
        readRequest dialect fuel r rest
      | '+' :: letters => do
        let (r, rest) ← takeLetters dialect false letters r rest
        readRequest dialect fuel r rest
      | _ => .ok { r with words := args }

/-- Runs a shell on its arguments in a session that has been started for it. -/
def runShell (execute : Execute m) (args : List Bytes) : Act m Unit := do
  let s ← get
  let label := if s.dialect = .plain then s.name ++ ": 0: " else s.name ++ ": "
  let refuse (status : Nat) (text : Bytes) : Act m Unit := do
    let _ ← emit 2 (label ++ text ++ "\n")
    throw (.exit status)
  match readRequest s.dialect (args.length + 1) ⟨[], false, false, []⟩ args with
  | .error text => refuse 2 text
  | .ok r => do
    modify fun s => r.options.foldl (fun s (name, on) => s.setOption name on) s
    if r.isArgument then
      match r.words with
      | [] => refuse 2 (if s.dialect = .plain then "-c requires an argument"
          else "-c: option requires an argument")
      | script :: rest => do
        modify fun s =>
          { s with
            name := rest.headD s.name
            source := rest.headD s.name
            positional := rest.drop 1
            fromArgument := true
            options := s.options }
        runText execute .argument 1 script
    else match r.words, r.isInput with
      | file :: rest, false => do
        let p ← pathOf file
        match ← worldDisk.read p with
        | .ok bytes => do
          modify fun s => { s with name := file, source := file, positional := rest }
          runText execute .file 1 (Bytes.ofArray bytes)
        | .error e =>
          match s.dialect, e.cause with
          | .plain, .isADirectory => return
          | .plain, .notFound | .plain, .notADirectory =>
            refuse 2 ("cannot open " ++ file ++ ": No such file")
          | .plain, cause => refuse 2 ("cannot open " ++ file ++ ": " ++ cause.text)
          | .extended, .isADirectory => do
            let _ ← emit 2 (file ++ ": " ++ file ++ ": Is a directory\n")
            throw (.exit 126)
          | .extended, cause =>
            refuse (if cause = .notFound then 127 else 126) (file ++ ": " ++ cause.text)
      | rest, _ => do
        modify fun s => { s with positional := rest }
        let text ← pendingInput 0
        leaveInput 0 ""
        runText execute .file 1 text

/-! ## Programs -/

/-- Carries something out in a shell that has nothing in common with this one but the disk, the
streams and the place. -/
def inNewShell (execute : Execute m) (dialect : Dialect) (name : Bytes)
    (environment : List (Bytes × Bytes)) (body : Act m Unit) : Act m Ending := do
  let outer ← get
  let process := processNumber + (← freshNumber)
  let traffic := (← get).traffic
  set (Session.start dialect name outer.directory process environment outer.streams traffic)
  let ending ←
    try pure (Ending.ofStatus (← toEnd execute body))
    catch leap =>
      match leap with
      | .killed other signal => if other = process then pure (.killed signal) else throw leap
      | leap => throw leap
  let traffic := (← get).traffic
  set { outer with traffic }
  return ending

/-- How many interpreters of scripts may be scripts themselves. -/
def interpreterLimit : Nat := 4

/-- Runs the program at a path to its end. -/
def spawnAt (execute : Execute m) (run : RunProgram m) (environment : List (Bytes × Bytes)) :
    Nat → Bytes → Bytes → List Bytes → Act m (Except Files.Cause Ending)
  | 0, _, _, _ => return .error .tooManyLinks
  | fuel + 1, path, name, args => do
    match ← programAt path with
    | .error cause => return .error cause
    | .ok (.tool task) => return .ok (← work run environment name args task)
    | .ok (.shell dialect) =>
      return .ok (← inNewShell execute dialect name environment (runShell execute args))
    | .ok (.script words) =>
      spawnAt execute run environment fuel (words.headD "") (words.headD "")
        (words.drop 1 ++ path :: args)
    | .ok (.text _) => return .error .noProgram

/-- Runs a program in some environment to its end. -/
def spawn (execute : Execute m) : Nat → RunProgram m
  | 0, _, _, _ => return .error .notFound
  | fuel + 1, hasInput, environment, words => do
    match words with
    | [] => return .ok (.exited 0)
    | word :: args =>
      let outer ← get
      modify fun s =>
        match environment.lookup "PATH" with
        | some v => s.put "PATH" { content := some (.text v) }
        | none => s.drop "PATH"
      let found ← programPath? word
      modify fun s => { outer with traffic := s.traffic }
      match found with
      | none => return .error .notFound
      | some path =>
        let run : RunProgram m := spawn execute fuel
        if !hasInput then
          let input ← openSource ⟨"", true, false⟩
          modify fun s => s.connect 0 input
        let ending ←
          match ← spawnAt execute run environment interpreterLimit path word args with
          | .error .noProgram => do
            let p ← pathOf path
            let text := ((← onDisk fun disk => disk.read p).toOption.map Bytes.ofArray).getD ""
            let ending ← inNewShell execute outer.dialect path environment do
              modify fun s => { s with positional := args }
              runText execute .file 1 text
            pure (.ok ending)
          | answer => pure answer
        modify fun s => { s with streams := outer.streams }
        return ending

/-- How many programs may have started each other. -/
def spawnLimit : Nat := 64

end FixBatch.Shell
