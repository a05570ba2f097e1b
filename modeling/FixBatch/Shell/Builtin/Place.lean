import FixBatch.Shell.Builtin.Basic

/-!
# FixBatch.Shell.Builtin.Place

Builtins that say where the shell is, and move it; and the one that says what a name stands for.
-/

namespace FixBatch.Shell.Builtin

variable {m : Type → Type} [Monad m]

/-! ## Directories -/

/-- Moves the shell to a directory that is known to be there. -/
def moveTo (directory : Bytes) : Act m Unit :=
  modify fun s =>
    let old := s.directory
    let exported (n : Bytes) := ((s.find? n).map Variable.exported).getD false
    let s := s.put "OLDPWD" { content := some (.text old), exported := exported "OLDPWD" }
    { s.put "PWD" { content := some (.text directory), exported := exported "PWD" } with directory }

/-- A path from the root by its words alone: steps that lead back are undone, whatever stands
there. -/
def lexical (path : Bytes) : Bytes :=
  let steps := (Text.segments (· == '/') path.toList).foldl (fun (done : List (List Char)) step =>
    if step.isEmpty || step = ['.'] then done
    else if step = ['.', '.'] then done.dropLast
    else done ++ [step]) []
  String.join ((if steps.isEmpty then [[]] else steps).map fun step => "/" ++ String.ofList step)

/-- The directory that a path leads to: by its words, or with links followed. -/
def directoryAt (physical : Bool) (path : Bytes) : Act m (Except Files.Cause Bytes) := do
  let whole := (← get).absolute path
  let whole := if physical then whole else lexical whole
  let p : Path := ⟨Bytes.toText whole⟩
  match ← onDisk fun disk => disk.look true p with
  | .error e => return .error e.cause
  | .ok l =>
    if l.nature != .directory then return .error .notADirectory
    else if physical then
      return ((← onDisk fun disk => disk.resolve p).map Bytes.ofText).mapError Files.Error.cause
    else return .ok whole

/-- Moves the shell. -/
def cd : Builtin m := fun _ name args =>
  withOptions name false ['L', 'P'] args fun o => do
    let s ← get
    let go (shows : Bool) (path : Bytes) : Act m Nat := do
      match ← directoryAt (o.has 'P') path, s.dialect with
      | .ok directory, _ => do
        moveTo directory
        if shows then print (directory ++ "\n")
        return 0
      | .error _, .plain => fail name 2 ("can't cd to " ++ path)
      | .error cause, .extended => fail name 1 (path ++ ": " ++ cause.text)
    let kept (variable_ : Bytes) (shows : Bool) : Act m Nat :=
      match s.parameter? variable_, s.dialect with
      | some path, _ => go shows path
      | none, .plain => return 0
      | none, .extended => fail name 1 (variable_ ++ " not set")
    match o.rest, s.dialect with
    | [], _ => kept "HOME" false
    | _ :: _ :: _, .extended => fail name 1 "too many arguments"
    | "-" :: _, _ => kept "OLDPWD" true
    | path :: _, _ => if path.isEmpty then return 0 else go false path

/-- Says where the shell is. -/
def pwd : Builtin m := fun _ name args =>
  withOptions name false ['L', 'P'] args fun o => do
    let s ← get
    let directory ←
      if o.has 'P' then do
        let p : Path := ⟨Bytes.toText s.directory⟩
        pure (((← onDisk fun disk => disk.resolve p).toOption.map Bytes.ofText).getD s.directory)
      else pure s.directory
    print (directory ++ "\n")
    return 0

/-! ## Names -/

/-- The names of the builtins of each shell. -/
def names (dialect : Dialect) : List Bytes :=
  let extended := if dialect = .extended then ["source"] else []
  Token.specialNames ++ ["[", "cd", "command", "echo", "false", "kill", "local", "printf", "pwd",
    "read", "test", "true", "wait"] ++ extended

/-- What is run under a name, in the words of the builtin that runs commands. -/
def explained? (name : Bytes) : Act m (Option Bytes) := do
  let s ← get
  let keywords := Token.keywords ++ if s.dialect = .extended then "]]" :: Token.moreKeywords else []
  if (keywords ++ s.functions.map Prod.fst ++ names s.dialect).contains name then return some name
  else match ← programPath? name with
    | none => return none
    | some path =>
      let p ← pathOf path
      let isProgram := (← onDisk fun disk => disk.look true p).toOption.any fun l =>
        l.nature == .file && l.runs
      return if isProgram then some path else none

/-- Says what is run under some names. -/
def explain (words : List Bytes) : Act m Nat := do
  let found ← words.filterMapM explained?
  print (String.join (found.map (· ++ "\n")))
  let failure := if ← isExtended then 1 else 127
  return if found.isEmpty then failure else 0

end FixBatch.Shell.Builtin
