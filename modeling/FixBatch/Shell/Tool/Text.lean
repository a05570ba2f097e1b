import FixBatch.Shell.Format
import FixBatch.Shell.Tool.Work

/-!
# FixBatch.Shell.Tool.Text

Programs that copy texts, count in them, and take parts of them.
-/

namespace FixBatch.Shell.Tool

open Work

variable {m : Type → Type} [Monad m]

/-- The operands, or the input where there are none. -/
def orInput (operands : List Bytes) : List Bytes := if operands.isEmpty then ["-"] else operands

/-- A number at the end of so many places. -/
def column (width n : Nat) : Bytes := padTo false width (toString n)

/-! ## Copying -/

/-- Copies files to the output. -/
def cat : Work m Unit := do
  let g ← options [flag 'n' "number", flag 'u']
  let rec files : Nat → List Bytes → Work m Unit
    | _, [] => return
    | n, name :: rest => do
      match ← contentOf name with
      | .error cause => do
        warn (name ++ ": " ++ cause.text)
        files n rest
      | .ok text => do
        let lines := linesOf text
        if g.has 'n' then
          say (String.join ((lines.zipIdx (n + 1)).map fun (line, i) =>
            column 6 i ++ "\t" ++ line))
        else say text
        files (n + lines.length) rest
  files 0 (orInput g.operands)

/-- Copies the input to files and to the output. -/
def tee : Work m Unit := do
  let g ← options [flag 'a' "append"]
  let text ← takeInput
  g.operands.forM fun name => do
    let path ← pathNamed name
    let bytes := Bytes.toArray text
    let answer ← atDisk fun disk =>
      if g.has 'a' then disk.append path bytes else disk.write path bytes
    match answer with
    | .ok () => return
    | .error e => warn (name ++ ": " ++ e.cause.text)
  say text

/-! ## Counting -/

/-- What is counted in a text: lines, words and bytes. -/
structure Count where
  lines : Nat
  words : Nat
  bytes : Nat

/-- What is counted in a text. -/
def Count.of (text : Bytes) : Count :=
  let cs := text.toList
  let words := (cs.foldl (fun (n, inside) c =>
    if isSpace c then (n, false) else (if inside then n else n + 1, true)) (0, false)).1
  ⟨cs.count '\n', words, cs.length⟩

/-- Two counts together. -/
def Count.add (a b : Count) : Count :=
  ⟨a.lines + b.lines, a.words + b.words, a.bytes + b.bytes⟩

/-- Counts in files. -/
def wc : Work m Unit := do
  let g ← options [flag 'c' "bytes", flag 'l' "lines", flag 'm' "chars", flag 'w' "words"]
  let chosen := ['l', 'w', 'm', 'c'].filter g.has
  let chosen := if chosen.isEmpty then ['l', 'w', 'c'] else chosen
  let value (c : Count) : Char → Nat
    | 'l' => c.lines
    | 'w' => c.words
    | _ => c.bytes
  let names := orInput g.operands
  let looks ← names.mapM fun name => do
    if isInput name then
      let t ← get
      return some (if t.rewinds then some t.input.length else none)
    else match ← lookAt true name with
      | .ok l => return some (if l.nature == .file then some l.size else none)
      | .error _ => return none
  let total := (looks.filterMap fun l => l.join).foldl (· + ·) 0
  let known := looks.filterMap id
  let least := if known.any Option.isNone then 7 else 1
  let width :=
    if names.length = 1 && chosen.length = 1 then 1
    else max least (toString total).length
  let row (c : Count) (name : Bytes) : Bytes :=
    String.intercalate " " (chosen.map fun k => column width (value c k)) ++
      (if name.isEmpty then "" else " " ++ name) ++ "\n"
  let rec files : Count → List Bytes → Work m Count
    | sum, [] => return sum
    | sum, name :: rest => do
      match ← contentOf name with
      | .error .isADirectory => do
        warn (name ++ ": Is a directory")
        say (row ⟨0, 0, 0⟩ name)
        files sum rest
      | .error cause => do
        warn (name ++ ": " ++ cause.text)
        files sum rest
      | .ok text => do
        let c := Count.of text
        say (row c (if g.operands.isEmpty then "" else name))
        files (sum.add c) rest
  let sum ← files ⟨0, 0, 0⟩ names
  if 1 < names.length then say (row sum "total")

/-! ## Ends -/

/-- An argument that is an option of the old form, a count by itself. -/
def oldCount (args : List Bytes) : List Bytes :=
  args.map fun arg => match arg.toList with
    | '-' :: digits =>
      if !digits.isEmpty && digits.all Char.isDigit then "-n" ++ String.ofList digits else arg
    | _ => arg

/-- Does the same with each of some files, with a title above each if there are several. -/
def withTitles (operands : List Bytes) (work : Bytes → Bytes → Work m Unit)
    (fault : Bytes → Files.Cause → Bytes) : Work m Unit := do
  let names := orInput operands
  let title (first : Bool) (name : Bytes) : Work m Unit := do
    if 1 < names.length then say ((if first then "" else "\n") ++ "==> " ++ name ++ " <==\n")
  let rec files : Bool → List Bytes → Work m Unit
    | _, [] => return
    | first, name :: rest => do
      match ← contentOf name with
      | .error .isADirectory => do
        title first name
        warn (fault name .isADirectory)
        files false rest
      | .error cause => do
        warn (fault name cause)
        files first rest
      | .ok text => do
        title first (if isInput name then "standard input" else name)
        work name text
        files false rest
  files true names

/-- Why a file cannot be read, in the words of programs that read one end of it. -/
def endFault (name : Bytes) : Files.Cause → Bytes
  | .isADirectory => "error reading '" ++ name ++ "': Is a directory"
  | cause => "cannot open '" ++ name ++ "' for reading: " ++ cause.text

/-- How much of a text is asked for: a number of lines, or of bytes; a sign may stand before it. -/
structure Amount where
  bytes : Bool
  sign : Option Char
  number : Nat

/-- How much is asked for, and of which files. -/
def amount : Work m (Amount × List Bytes) := do
  let e ← errand
  let g ← ReaderT.adapt (fun w => { w with errand := { e with args := oldCount e.args } })
    (options [taking 'n' "lines", taking 'c' "bytes"])
  let last := g.last? ['n', 'c']
  let text := (last.bind g.argument?).getD "10"
  let (sign, digits) := match text.toList with
    | '-' :: r => (some '-', r)
    | '+' :: r => (some '+', r)
    | r => (none, r)
  if digits.isEmpty || !digits.all Char.isDigit then
    let unit := if last = some 'c' then "bytes" else "lines"
    die ("invalid number of " ++ unit ++ ": '" ++ text ++ "'")
  else return (⟨last = some 'c', sign, Text.ofDigits 10 digits⟩, g.operands)

/-- A text cut behind so many of its lines or bytes, of which there are `count size` for a text that
has `size` of them. -/
def Amount.cut (a : Amount) (count : Nat → Nat) (text : Bytes) : Bytes × Bytes :=
  if a.bytes then
    let cs := text.toList
    let k := count cs.length
    (String.ofList (cs.take k), String.ofList (cs.drop k))
  else
    let ls := linesOf text
    let k := count ls.length
    (String.join (ls.take k), String.join (ls.drop k))

/-- Writes the start of files. -/
def head : Work m Unit := do
  let (a, names) ← amount
  withTitles names (fun name text => do
    let (shown, left) :=
      a.cut (fun size => if a.sign = some '-' then size - a.number else a.number) text
    say shown
    if isInput name && (← get).rewinds then leaveRest left) endFault

/-- Writes the end of files. -/
def tail : Work m Unit := do
  let (a, names) ← amount
  withTitles names (fun _ text =>
    say (a.cut (fun size => if a.sign = some '+' then a.number - 1 else size - a.number) text).2)
    endFault

/-! ## Characters -/

/-- The characters that a set of characters writes, or what is wrong with it. -/
def charSet : Nat → List Char → Except Bytes (List Char)
  | 0, _ => .ok []
  | _ + 1, [] => .ok []
  | fuel + 1, '[' :: ':' :: rest =>
    match rest.span (· != ':') with
    | (name, ':' :: ']' :: after) => do
      let all := (List.range 256).map fun n => Char.ofNat n
      let members := all.filter (inClass (String.ofList name))
      if members.isEmpty then throw ("invalid character class '" ++ String.ofList name ++ "'")
      else return members ++ (← charSet fuel after)
    | _ => do return '[' :: (← charSet fuel (':' :: rest))
  | fuel + 1, cs => do
    let (a, rest) := one cs
    match rest with
    | '-' :: more =>
      if more.isEmpty then return a :: (← charSet fuel rest)
      else
        let (b, after) := one more
        if b < a then throw ("range-endpoints of '" ++ String.ofList [a, '-', b] ++
          "' are in reverse collating sequence order")
        else return ((List.range (b.toNat - a.toNat + 1)).map fun i => Char.ofNat (a.toNat + i)) ++
          (← charSet fuel after)
    | _ => return a :: (← charSet fuel rest)
where
  /-- One character, perhaps after a backslash, and what follows. -/
  one : List Char → Char × List Char
    | '\\' :: rest =>
      let octal := digitsUpTo 8 3 rest
      if !octal.isEmpty then (byteChar (Text.ofDigits 8 octal), rest.drop octal.length)
      else match rest with
        | c :: after => ((letterEscape? c).getD c, after)
        | [] => ('\\', [])
    | c :: rest => (c, rest)
    | [] => ('\x00', [])

/-- A text in which no character of a set stands twice in a row. -/
def squeeze (set : List Char) : Option Char → List Char → List Char
  | _, [] => []
  | last, c :: rest =>
    if last == some c && set.contains c then squeeze set last rest
    else c :: squeeze set (some c) rest

/-- Translates characters, deletes them, or keeps one of several in a row. -/
def tr : Work m Unit := do
  let g ← options [flag 'd' "delete", flag 's' "squeeze-repeats"] 1 false
  let deletes := g.has 'd'
  let squeezes := g.has 's'
  let needed := if deletes == squeezes then 2 else 1
  match g.operands with
  | [] => usageFault "missing operand"
  | [a] => do
    if needed = 2 then
      let name := (← errand).name
      tell (name ++ ": missing operand after '" ++ a ++ "'\n" ++
        (if deletes then "Two strings must be given when both deleting and squeezing repeats.\n"
          else "Two strings must be given when translating.\n") ++
        "Try '" ++ name ++ " --help' for more information.\n")
      leaveStatus 1
      stop
    work g a none
  | [a, b] => do
    if deletes && !squeezes then
      let name := (← errand).name
      tell (name ++ ": extra operand '" ++ b ++
        "'\nOnly one string may be given when deleting without squeezing repeats.\n" ++
        "Try '" ++ name ++ " --help' for more information.\n")
      leaveStatus 1
      stop
    work g a (some b)
  | _ :: _ :: c :: _ => usageFault ("extra operand '" ++ c ++ "'")
where
  /-- Works with one or two sets. -/
  work (g : Given) (a : Bytes) (b : Option Bytes) : Work m Unit := do
    match charSet (a.length + 1) a.toList, charSet ((b.getD "").length + 1) (b.getD "").toList with
    | .error complaint, _ | _, .error complaint => die complaint
    | .ok first, .ok second => do
      if b.isSome && !g.has 'd' && second.isEmpty && !first.isEmpty then
        die "when not truncating set1, string2 must be non-empty"
      let text := (← takeInput).toList
      let out :=
        if g.has 'd' then
          let kept := text.filter (!first.contains ·)
          if g.has 's' then squeeze second none kept else kept
        else if b.isNone then squeeze first none text
        else
          let rest := List.replicate (first.length - second.length) (second.getLast?.getD ' ')
          let pairs := (first.zip (second ++ rest)).reverse
          let translated := text.map fun c => (pairs.lookup c).getD c
          if g.has 's' then squeeze second none translated else translated
      say (String.ofList out)

end FixBatch.Shell.Tool
