import FixBatch.Shell.Running

/-!
# FixBatch.Shell.Redirecting

Redirections: what they open, and what is said where they cannot.
-/

namespace FixBatch.Shell

variable {m : Type → Type} [Monad m]

/-- The text of a word as the script has it, as far as that can be told. -/
def Word.shown : Word → Bytes
  | [] => ""
  | .plain text :: rest => text ++ shown rest
  | .quoted text :: rest => "'" ++ text ++ "'" ++ shown rest
  | .parameter name _ .value :: rest => "$" ++ name ++ shown rest
  | .parameter name _ _ :: rest => "$\x7b" ++ name ++ "\x7d" ++ shown rest
  | _ :: rest => shown rest

/-- What redirections come to: nothing, or what is said where one fails. -/
abbrev Redirected := Except Bytes Unit

/-- What is said of a file that cannot be opened. -/
def openingFault (dialect : Dialect) (makes : Bool) (name : Bytes) (cause : Files.Cause) : Bytes :=
  match dialect with
  | .plain =>
    let text := match cause with
      | .notFound | .notADirectory => if makes then "Directory nonexistent" else "No such file"
      | cause => cause.text
    "cannot " ++ (if makes then "create " else "open ") ++ name ++ ": " ++ text
  | .extended => name ++ ": " ++ cause.text

/-- The name that the target of a redirection comes to, or what is wrong with it. -/
def targetName (run : Substitute m) (w : Word) : Act m (Except Bytes Bytes) := do
  match (← get).dialect with
  | .plain => return .ok (← expandText run w)
  | .extended =>
    match ← expandFields run w with
    | [name] => return .ok name
    | _ => return .error (Word.shown w ++ ": ambiguous redirect")

/-- Opens a file to read. -/
def openToRead (stream : Nat) (name : Bytes) : Act m Redirected := do
  let s ← get
  let p ← pathOf name
  match streamAt? p with
  | some other =>
    match s.streams.lookup other with
    | some channel => do
      modify fun s => s.connect stream channel
      return .ok ()
    | none => return .error (openingFault s.dialect false name .notFound)
  | none =>
    match ← worldDisk.read p with
    | .ok bytes => do
      let isFile := (← worldDisk.look true p).toOption.any fun l => l.nature == .file
      let channel ← openSource ⟨Bytes.ofArray bytes, isFile, false⟩
      modify fun s => s.connect stream channel
      return .ok ()
    | .error e =>
      if e.cause = .isADirectory then
        let channel ← openSource ⟨"", true, true⟩
        modify fun s => s.connect stream channel
        return .ok ()
      else return .error (openingFault s.dialect false name e.cause)

/-- Opens a file to write: at its end, or emptied. -/
def openToWrite (streams : List Nat) (opening : Opening) (name : Bytes) : Act m Redirected := do
  let s ← get
  let p ← pathOf name
  let connectAll (channel : Channel) : Act m Unit :=
    modify fun s => streams.foldl (fun s n => s.connect n channel) s
  match streamAt? p with
  | some other =>
    match s.streams.lookup other with
    | some channel => do
      connectAll channel
      return .ok ()
    | none => return .error (openingFault s.dialect true name .notFound)
  | none =>
    let appends := opening == .append || opening == .appendBoth
    match ← onDisk fun disk => if appends then disk.append p .empty else disk.write p .empty with
    | .ok () => do
      connectAll (.file p)
      return .ok ()
    | .error e => return .error (openingFault s.dialect true name e.cause)

/-- Makes a stream lead where another one does. -/
def copyStream (stream : Nat) (reads : Bool) (w : Word) (name : Bytes) : Act m Redirected := do
  let s ← get
  let (digits, moves) := split s.dialect
  if name = "-" then
    modify fun s => s.disconnect stream
    return .ok ()
  else match if digits.toList.all Char.isDigit then digits.toNat? else none with
    | some source =>
      match s.streams.lookup source with
      | some channel => do
        modify fun s => s.connect stream channel
        if moves && source != stream then modify fun s => s.disconnect source
        return .ok ()
      | none => return .error (name ++ ": Bad file descriptor")
    | none =>
      match s.dialect with
      | .plain => do
        complain "Syntax error: Bad fd number"
        throw (.exit 2)
      | .extended =>
        if !reads && stream = 1 then openToWrite [1, 2] .writeBoth name
        else return .error (Word.shown w ++ ": ambiguous redirect")
where
  /-- The number of the other stream, and whether that is closed then. -/
  split (dialect : Dialect) : Bytes × Bool :=
    match name.toList.reverse with
    | '-' :: c :: cs =>
      if dialect = .extended then (String.ofList (c :: cs).reverse, true) else (name, false)
    | _ => (name, false)

/-- Carries out one redirection. -/
def redirectOne (run : Substitute m) : Redirection → Act m Redirected
  | .document stream number => do
    let w := ((← get).documents.lookup number).getD []
    let text := Piece.text (← expandParts run true false false w)
    let channel ← openSource ⟨text, false, false⟩
    modify fun s => s.connect stream channel
    return .ok ()
  | .file stream .text w => do
    let text ← expandText run w
    let channel ← openSource ⟨text ++ "\n", false, false⟩
    modify fun s => s.connect (stream.getD 0) channel
    return .ok ()
  | .file stream opening w => do
    match ← targetName run w with
    | .error text => return .error text
    | .ok name =>
      match opening with
      | .read => openToRead (stream.getD 0) name
      | .copyIn => copyStream (stream.getD 0) true w name
      | .copyOut => copyStream (stream.getD 1) false w name
      | .writeBoth | .appendBoth => openToWrite [1, 2] opening name
      | opening => openToWrite [stream.getD 1] opening name

/-- Carries out redirections from left to right, up to the first that fails. -/
def redirect (run : Substitute m) : List Redirection → Act m Redirected
  | [] => return .ok ()
  | r :: rest => do
    match ← redirectOne run r with
    | .ok () => redirect run rest
    | .error text => return .error text

/-- Does something with streams redirected, or something else, with a complaint, where that fails;
the streams are as before afterwards. -/
def withRedirections (run : Substitute m) (rs : List Redirection) (failed : Act m Unit)
    (body : Act m Unit) : Act m Unit := do
  let streams := (← get).streams
  let restore : Act m Unit := modify fun s => { s with streams }
  try
    match ← redirect run rs with
    | .ok () => body
    | .error text => do
      restore
      complain text
      failed
    restore
  catch leap => do
    restore
    throw leap

end FixBatch.Shell
