import FixBatch.Shell.Builtin.Basic

/-!
# FixBatch.Shell.Builtin.Control

Builtins that leave loops, functions and the shell, run scripts, and deal with signals.
-/

namespace FixBatch.Shell.Builtin

variable {m : Type → Type} [Monad m]

/-! ## Leaving -/

/-- Leaves loops, or goes on with their next round. -/
def leaveLoop (leap : Nat → Leap) : Builtin m := fun _ name args => do
  let s ← get
  let text := args.headD "1"
  match s.dialect with
  | .plain =>
    match number? text with
    | none | some 0 => failSpecial name 2 ("Illegal number: " ++ text)
    | some n =>
      if s.loops = 0 then return 0 else throw (leap (min n s.loops))
  | .extended =>
    if s.loops = 0 then do
      complainAs name "only meaningful in a \x60for', \x60while', or \x60until' loop"
      return 0
    else match integer? text with
      | none => do
        complainAs name (text ++ ": numeric argument required")
        throw (.exit 128)
      | some n =>
        if n ≤ 0 then do
          complainAs name (text ++ ": loop count out of range")
          setStatus 1
          throw (.break_ s.loops)
        else throw (leap (min n.toNat s.loops))

/-- Leaves the shell. -/
def exit : Builtin m := fun _ name args => do
  let s ← get
  match args with
  | [] => throw (.exit s.status)
  | text :: more =>
    match s.dialect with
    | .plain =>
      match number? text with
      | some n => throw (.exit (n % 256))
      | none => failSpecial name 2 ("Illegal number: " ++ text)
    | .extended =>
      match integer? text with
      | none => do
        complainAs name (text ++ ": numeric argument required")
        throw (.exit 2)
      | some n =>
        if !more.isEmpty then fail name 1 "too many arguments"
        else throw (.exit (n % 256).toNat)

/-- Leaves a function, or a script that a builtin runs. -/
def return_ : Builtin m := fun _ name args => do
  let s ← get
  if s.dialect = .extended && s.calls = 0 && s.sourced = 0 then
    fail name 2 "can only \x60return' from a function or sourced script"
  else match args with
    | [] => throw (.return_ s.status)
    | text :: _ =>
      match s.dialect with
      | .plain =>
        match number? text with
        | some n => throw (.return_ n)
        | none => failSpecial name 2 ("Illegal number: " ++ text)
      | .extended =>
        match integer? text with
        | some n => throw (.return_ (n % 256).toNat)
        | none => do
          complainAs name (text ++ ": numeric argument required")
          throw (.return_ 2)

/-! ## Running scripts -/

/-- Does something that leaves no trace in where complaints say they come from. -/
def keepingPlace (x : Act m Unit) : Act m Unit := do
  let s ← get
  let restore : Act m Unit :=
    modify fun t =>
      { t with
        line := s.line
        source := s.source
        context := s.context }
  try
    x
    restore
  catch leap => do
    restore
    throw leap

/-- Runs its arguments as a script. -/
def eval : Builtin m := fun host name args => do
  let s ← get
  let words := match args with
    | "--" :: rest => if s.dialect = .extended then rest else args
    | rest => rest
  let text := String.intercalate " " words
  setStatus 0
  keepingPlace do
    if s.dialect = .plain then modify fun t => { t with context := name ++ ": " }
    runText host.execute .evaluated (if s.dialect = .plain then 1 else s.line) text
  return (← get).status

/-- Where a script stands that is to be run: a name is looked for like that of a program. -/
def scriptPath (file : Bytes) : Act m (Option Bytes) := do
  let s ← get
  if file.toList.contains '/' then return some file
  else
    let inPath := s.searchPath.map fun dir => Work.below dir file
    let found ← inPath.findM? fun path => do
      let p ← pathOf path
      return (← onDisk fun disk => disk.look true p).toOption.any fun l => l.nature != .directory
    match found, s.dialect with
    | some path, _ => return some path
    | none, .extended => return some file
    | none, .plain => return none

/-- Runs a script in this shell. -/
def source : Builtin m := fun host name args => do
  let s ← get
  let refuse (status : Nat) (text : Bytes) : Act m Nat := do
    complain text
    return status
  let args := match args with
    | "--" :: rest => rest
    | rest => rest
  match args with
  | [] =>
    match s.dialect with
    | .plain => return 0
    | .extended => do
      complainAs name "filename argument required"
      tellUsage name
      return 2
  | file :: positional => do
    match ← scriptPath file with
    | none => failSpecial name 2 (file ++ ": not found")
    | some path =>
      let p ← pathOf path
      match ← worldDisk.read p with
      | .error e =>
        match s.dialect with
        | .plain =>
          let cause := if e.cause = .notFound || e.cause = .notADirectory then "No such file"
            else e.cause.text
          failSpecial name 2 ("cannot open " ++ path ++ ": " ++ cause)
        | .extended =>
          if e.cause = .isADirectory then fail name 1 (file ++ ": is a directory")
          else refuse 1 (file ++ ": " ++ e.cause.text)
      | .ok bytes => do
        let replaces := s.dialect = .extended && !positional.isEmpty
        setStatus 0
        let run : Act m Unit := do
          modify fun t =>
            { t with
              sourced := t.sourced + 1
              context := path ++ ": "
              source := path
              positional := if replaces then positional else t.positional }
          try runText host.execute .file 1 (Bytes.ofArray bytes)
          catch leap =>
            match leap with
            | .return_ status => setStatus status
            | leap => do
              modify fun t => { t with sourced := s.sourced }
              throw leap
          modify fun t =>
            { t with
              sourced := s.sourced
              positional := if replaces then s.positional else t.positional }
        keepingPlace run
        return (← get).status

/-! ## Signals -/

/-- The condition of a trap: the end of the shell, or a signal. -/
def condition? (text : Bytes) : Option Bytes :=
  match number? text with
  | some 0 => some "EXIT"
  | some n => (Signal.ofNumber? n).map Signal.name
  | none => if text = "EXIT" then some text else (Signal.ofName? text).map Signal.name

/-- Says what is done at signals and at the end of the shell. -/
def trap : Builtin m := fun _ name args => do
  let bad (text : Bytes) : Act m Nat := do
    if ← isExtended then complainAs name (text ++ ": invalid signal specification")
    else tell ("trap: " ++ text ++ ": bad trap\n")
    return 1
  let set_ (action : Option Bytes) (signals : List Bytes) : Act m Nat :=
    signals.foldlM (fun status text => do
      match condition? text with
      | none => bad text
      | some c => do
        modify fun s =>
          { s with traps := (s.traps.filter fun t => t.1 != c) ++ (action.map fun a => (c, a)).toList }
        return status) 0
  match args with
  | [] => return 0
  | [one] => set_ none [one]
  | first :: signals =>
    if first = "-" then set_ none signals
    else if (number? first).isSome then set_ none args
    else set_ (some first) signals

/-- What a signal does to this shell. -/
def answer (execute : Execute m) (signal : Signal) : Act m Unit := do
  let s ← get
  match if signal.number = 9 then none else s.traps.lookup signal.name with
  | some action =>
    if !action.isEmpty then do
      keepingPlace (runText execute .evaluated s.line action)
      setStatus s.status
  | none => throw (.killed s.process signal)

/-- Sends a signal to a process, or only sees whether it is there. -/
def sendTo (execute : Execute m) (name : Bytes) (signal : Option Signal) (target : Bytes) :
    Act m Nat := do
  let s ← get
  match number? target, s.dialect with
  | some n, dialect =>
    if n = s.process || n = 0 then
      signal.forM (answer execute)
      return 0
    else match dialect with
      | .plain => fail name 1 "No such process\n"
      | .extended => fail name 1 ("(" ++ target ++ ") - No such process")
  | none, .plain => fail name 2 ("Illegal number: " ++ target)
  | none, .extended => fail name 1 (target ++ ": arguments must be process or job IDs")

/-- Sends signals to processes. -/
def kill : Builtin m := fun host name args => do
  let dialect := (← get).dialect
  let find (text : Bytes) : Option (Option Signal) :=
    match number? text with
    | some 0 => some none
    | some n => (Signal.ofNumber? n).map some
    | none => (Signal.ofName? text).map some
  let usage : Act m Nat := do
    match dialect with
    | .plain =>
      fail name 2 ("Usage: kill [-s sigspec | -signum | -sigspec] [pid | job]... or\n" ++
        "kill -l [exitstatus]")
    | .extended => do
      tellUsage name
      return 2
  let send (signal : Option Signal) (targets : List Bytes) : Act m Nat := do
    if targets.isEmpty then usage
    else targets.foldlM (fun status target => do
      return max status (← sendTo host.execute name signal target)) 0
  let named (text : Bytes) (targets : List Bytes) : Act m Nat :=
    match find text, dialect with
    | some signal, _ => send signal (if targets.head? = some "--" then targets.drop 1 else targets)
    | none, .plain => fail name 2 ("invalid signal number or exit status: " ++ text)
    | none, .extended => fail name 1 (text ++ ": invalid signal specification")
  match args with
  | [] | ["-s"] => usage
  | "-s" :: text :: targets => named text targets
  | "--" :: targets => send (some .terminate) targets
  | first :: targets =>
    match first.toList with
    | '-' :: c :: cs => named (String.ofList (c :: cs)) targets
    | _ => send (some .terminate) args

/-- Waits for commands that run beside the shell: they have come to their ends already. -/
def wait : Builtin m := fun _ name args =>
  args.foldlM (fun _ target => do
    let s ← get
    match number? target, s.dialect with
    | some n, dialect =>
      match s.beside.lookup n, dialect with
      | some status, _ => return status
      | none, .plain => return 127
      | none, .extended => fail name 127 ("pid " ++ target ++ " is not a child of this shell")
    | none, .plain => fail name 2 ("Illegal number: " ++ target)
    | none, .extended => fail name 1 ("\x60" ++ target ++ "': not a pid or valid job spec")) 0

end FixBatch.Shell.Builtin
