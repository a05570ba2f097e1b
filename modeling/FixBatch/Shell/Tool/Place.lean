import FixBatch.Shell.Tool.Text

/-!
# FixBatch.Shell.Tool.Place

Programs that take the names of files apart, and that list files, make them, move them and take
them away.
-/

namespace FixBatch.Shell.Tool

open Work

variable {m : Type → Type} [Monad m]

/-! ## Names -/

/-- A path without its last step. -/
def directoryOf (path : Bytes) : Bytes :=
  let s := (dropSlashes path).toList.reverse
  match s.dropWhile (· != '/') with
  | [] => "."
  | r => dropSlashes (String.ofList r.reverse)

/-- Writes the last step of a path, and takes a suffix off it if one is given. -/
def basename : Work m Unit := do
  let g ← options [] 1 false
  match g.operands with
  | [] => usageFault "missing operand"
  | [path] => say (lastStep path ++ "\n")
  | [path, suffix] =>
    let step := lastStep path
    let ends := step != suffix && suffix.toList.isSuffixOf step.toList
    say ((if ends then (step.take (step.length - suffix.length)).copy else step) ++ "\n")
  | _ :: _ :: extra :: _ => usageFault ("extra operand " ++ quote extra)

/-- Writes paths without their last steps. -/
def dirname : Work m Unit := do
  let g ← options []
  if g.operands.isEmpty then usageFault "missing operand"
  g.operands.forM fun path => say (directoryOf path ++ "\n")

/-- The path from the root to where a path leads. -/
def resolved (name : Bytes) : Work m (Except Files.Cause Bytes) := do
  let path ← pathNamed name
  match ← atDisk fun disk => disk.resolve path with
  | .ok text => return .ok (Bytes.ofText text)
  | .error e => return .error e.cause

/-- How deep directories may stand in each other for those who walk through them. -/
def depthLimit : Nat := 256

/-! ## Listing -/

/-- Lists what stands at some paths. -/
def ls : Work m Unit := do
  let g ← options [flag 'a' "all", flag 'A' "almost-all", flag 'd' "directory", flag 'r' "reverse",
    flag '1'] 2
  let ordered (names : List Bytes) : List Bytes :=
    let names := names.mergeSort fun a b => decide (a ≤ b)
    if g.has 'r' then names.reverse else names
  let lines (names : List Bytes) : Work m Unit := say (String.join (names.map (· ++ "\n")))
  let names := if g.operands.isEmpty then ["."] else g.operands
  let found ← names.filterMapM fun name => do
    match ← lookAt true name with
    | .ok l => return some (name, l.nature == .directory && !g.has 'd')
    | .error cause =>
      match ← lookAt false name with
      | .ok _ => return some (name, false)
      | .error _ => do
        warn ("cannot access " ++ quote name ++ ": " ++ cause.text) 2
        return none
  let files := ordered ((found.filter fun f => !f.2).map Prod.fst)
  let dirs := ordered ((found.filter fun f => f.2).map Prod.fst)
  lines files
  dirs.zipIdx.forM fun (dir, i) => do
    match ← namesIn dir with
    | .error cause => warn ("cannot open directory " ++ quote dir ++ ": " ++ cause.text) 2
    | .ok inside => do
      if 1 < names.length then
        say ((if i = 0 && files.isEmpty then "" else "\n") ++ dir ++ ":\n")
      let showsDots := g.has 'a' || g.has 'A'
      let shown := inside.filter fun n => showsDots || n.toList.head? != some '.'
      lines (ordered ((if g.has 'a' then [".", ".."] else []) ++ shown))

/-! ## Making and removing -/

/-- Makes a directory and all that lead to it, as far as they are not there. -/
def makePath : Nat → Bytes → Work m (Except (Bytes × Files.Cause) Unit)
  | 0, path => return .error (path, .nameTooLong)
  | fuel + 1, path => do
    match ← lookAt true path with
    | .ok l => return if l.nature == .directory then .ok () else .error (path, .occupied)
    | .error .notFound => do
      let parent := directoryOf path
      match ← if parent = path || parent = "." then pure (.ok ()) else makePath fuel parent with
      | .error (p, .occupied) => return .error (p, .notADirectory)
      | .error e => return .error e
      | .ok () => do
        let p ← pathNamed path
        return (← atDisk fun disk => disk.makeDirectory p).mapError fun e => (path, e.cause)
    | .error cause => return .error (path, cause)

/-- Makes directories. -/
def mkdir : Work m Unit := do
  let g ← options [flag 'p' "parents"]
  if g.operands.isEmpty then usageFault "missing operand"
  g.operands.forM fun name => do
    let refused (path : Bytes) (cause : Files.Cause) : Work m Unit :=
      warn ("cannot create directory " ++ quote path ++ ": " ++ cause.text)
    if g.has 'p' then
      match ← makePath depthLimit (if name.isEmpty then "" else dropSlashes name) with
      | .ok () => return
      | .error (path, cause) => refused (if cause = .occupied then name else path) cause
    else
      let p ← pathNamed name
      match ← atDisk fun disk => disk.makeDirectory p with
      | .ok () => return
      | .error e => refused name e.cause

/-- Removes what stands at a path and everything below it. -/
def removeTree (name : Bytes) : Work m (Except Files.Cause Unit) := do
  let p ← pathNamed name
  match ← lookAt false name with
  | .error cause => return .error cause
  | .ok l =>
    return (← atDisk fun disk =>
      if l.nature == .directory then disk.removeDirectory p else disk.remove p).mapError
        Files.Error.cause

/-- Removes files, and directories if that is asked for. -/
def rm : Work m Unit := do
  let g ← options [flag 'f' "force", flag 'r' "recursive", flag 'R', flag 'd' "dir"]
  if g.operands.isEmpty && !g.has 'f' then usageFault "missing operand"
  g.operands.forM fun name => do
    match ← lookAt false name with
    | .error cause =>
      if g.has 'f' && (cause = .notFound || cause = .notADirectory) then return
      else warn ("cannot remove " ++ quote name ++ ": " ++ cause.text)
    | .ok l =>
      let recursive := g.has 'r' || g.has 'R'
      let step := lastStep name
      if l.nature == .directory && !recursive && !g.has 'd' then
        warn ("cannot remove " ++ quote name ++ ": Is a directory")
      else if l.nature == .directory && (step = "." || step = "..") then
        warn ("refusing to remove '.' or '..' directory: skipping " ++ quote name)
      else if l.nature == .directory && !recursive && (← namesIn name).toOption != some [] then
        warn ("cannot remove " ++ quote name ++ ": Directory not empty")
      else
        match ← removeTree name with
        | .ok () => return
        | .error cause => warn ("cannot remove " ++ quote name ++ ": " ++ cause.text)

/-- Makes files that are not there. -/
def touch : Work m Unit := do
  let g ← options []
  if g.operands.isEmpty then usageFault "missing file operand"
  g.operands.forM fun name => do
    if (← lookAt true name).toOption.isNone then
      let p ← pathNamed name
      match ← atDisk fun disk => disk.append p .empty with
      | .ok () => return
      | .error e =>
        let cause := if e.cause = .isADirectory then .notFound else e.cause
        warn ("cannot touch " ++ quote name ++ ": " ++ cause.text)

/-! ## Moving and copying -/

/-- The sources of a program that moves files, and where each is to go: to a path, or into a
directory. -/
def aim (operands : List Bytes) : Work m (List (Bytes × Bytes)) := do
  match operands with
  | [] => usageFault "missing file operand"
  | [a] => usageFault ("missing destination file operand after " ++ quote a)
  | names =>
    let target := names.getLast?.getD ""
    let sources := names.dropLast
    match ← lookAt true target, sources with
    | .ok ⟨.directory, _, _⟩, _ => return sources.map fun s => (s, below target (lastStep s))
    | _, [source] => return [(source, target)]
    | .ok _, _ => die ("target " ++ quote target ++ ": " ++ Files.Cause.notADirectory.text)
    | .error cause, _ => die ("target " ++ quote target ++ ": " ++ cause.text)

/-- Whether two paths lead to the same place. -/
def areSame (a b : Bytes) : Work m Bool := do
  match ← resolved a, ← resolved b with
  | .ok a, .ok b => return a == b
  | _, _ => return false

/-- Moves files. -/
def mv : Work m Unit := do
  let g ← options [flag 'f' "force"]
  (← aim g.operands).forM fun (source, target) => do
    match ← lookAt false source with
    | .error cause => warn ("cannot stat " ++ quote source ++ ": " ++ cause.text)
    | .ok l =>
      let there := (← lookAt false target).toOption
      if l.nature != .link && (← areSame source target) then
        warn (quote source ++ " and " ++ quote target ++ " are the same file")
      else if l.nature != .directory && there.any fun t => t.nature == .directory then
        warn ("cannot overwrite directory " ++ quote target ++ " with non-directory")
      else if l.nature == .directory && there.any fun t => t.nature != .directory then
        warn ("cannot overwrite non-directory " ++ quote target ++ " with directory " ++
          quote source)
      else
        let p ← pathNamed source
        let q ← pathNamed target
        match ← atDisk fun disk => disk.rename p q with
        | .ok () => return
        | .error ⟨_, _, .invalid⟩ =>
          warn ("cannot move " ++ quote source ++ " to a subdirectory of itself, " ++ quote target)
        | .error e =>
          warn ("cannot move " ++ quote source ++ " to " ++ quote target ++ ": " ++ e.cause.text)

/-- Copies a file. -/
def copyFile (source target : Bytes) (runs : Bool) : Work m Unit := do
  let there := (← lookAt true target).toOption
  if ← areSame source target then
    warn (quote source ++ " and " ++ quote target ++ " are the same file")
  else if there.any fun t => t.nature == .directory then
    warn ("cannot overwrite directory " ++ quote target ++ " with non-directory")
  else match ← contentOf source with
    | .error cause => warn ("cannot open " ++ quote source ++ " for reading: " ++ cause.text)
    | .ok text =>
      let q ← pathNamed target
      match ← atDisk fun disk => disk.write q (Bytes.toArray text) with
      | .error e =>
        let cause := if e.cause = .isADirectory then .notADirectory else e.cause
        warn ("cannot create regular file " ++ quote target ++ ": " ++ cause.text)
      | .ok () =>
        if there.isNone then
          let _ ← atDisk fun disk => disk.setRuns q runs

/-- Copies files, and directories if that is asked for. -/
def cp : Work m Unit := do
  let g ← options [flag 'f' "force", flag 'p', flag 'r' "recursive", flag 'R']
  let recursive := g.has 'r' || g.has 'R'
  let rec copy : Nat → Bytes → Bytes → Work m Unit
    | 0, _, _ => return
    | fuel + 1, source, target => do
      match ← lookAt true source with
      | .error cause => warn ("cannot stat " ++ quote source ++ ": " ++ cause.text)
      | .ok l =>
        let there := (← lookAt true target).toOption
        if l.nature != .directory then copyFile source target l.runs
        else if !recursive then warn ("-r not specified; omitting directory " ++ quote source)
        else if there.any fun t => t.nature != .directory then
          warn ("cannot overwrite non-directory " ++ quote target ++ " with directory " ++
            quote source)
        else do
          let names := (← namesIn source).toOption.getD []
          let q ← pathNamed target
          let made ← if there.isSome then pure (.ok ()) else atDisk fun disk => disk.makeDirectory q
          match made with
          | .error e =>
            warn ("cannot create directory " ++ quote target ++ ": " ++ e.cause.text)
          | .ok () => names.forM fun n => copy fuel (below source n) (below target n)
  (← aim g.operands).forM fun (source, target) => copy depthLimit source target

end FixBatch.Shell.Tool
