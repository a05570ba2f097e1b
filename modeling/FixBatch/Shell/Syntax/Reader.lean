import FixBatch.Shell.Syntax.Tokens
import FixBatch.Text.Segments

/-!
# FixBatch.Shell.Syntax.Reader

From the text of a script to its commands.  Each kind of command has a reader of its own, which is
given how the lists of commands in it are read; `readCompound` ties them together.

* `readEither` — conditions between double brackets;
* `readCommand`, `readCompound` — commands, and lists of them;
* `readLine` — the commands of a line.
-/

namespace FixBatch.Shell.Reader

section
variable (compound : Bool → Reader Command)

/-! ## Conditions -/

/-- The operators of conditions that work on one word. -/
def unaryTests : List Bytes :=
  ["-a", "-b", "-c", "-d", "-e", "-f", "-g", "-h", "-k", "-p", "-r", "-s", "-t", "-u", "-w", "-x",
    "-G", "-L", "-O", "-S", "-z", "-n", "-v"]

/-- The operators of conditions that work on two words. -/
def binaryTests : List Bytes :=
  ["=", "==", "!=", "-eq", "-ne", "-lt", "-le", "-gt", "-ge", "-ef"]

/-- Passes over blanks and line ends in a condition. -/
def skipConditionBlanks : Nat → Reader Unit
  | 0 => fail .tooDeep
  | fuel + 1 => do
    modify fun c => { c with peeked := none }
    skipBlanks
    match ← rest with
    | '\n' :: _ => do
      advance
      skipConditionBlanks fuel
    | _ => return

/-- Reads a word of a condition. -/
def readOperand (fuel : Nat) (op : Bytes) : Reader Word := do
  skipBlanks
  let before ← rest
  if before.isEmpty then fail .openJudgement
  let w ← readParts compound fuel .bare
  let source ← since before
  let shown := if source.isEmpty then String.ofList (before.take 1) else source
  if source.isEmpty || (Word.bare? w) == some "]]" then
    let kind := if unaryTests.contains op then "unary" else "binary"
    let found := if shown == "\n" then "newline" else shown
    fail (.judgement ("unexpected argument `" ++ found ++ "' to conditional " ++ kind ++
      " operator") found)
  return w

/-- Reads what follows the first word of a condition. -/
def readComparison (fuel : Nat) (w : Word) (source : Bytes) : Reader Judgement := do
  let bare := (Word.bare? w).getD ""
  skipBlanks
  let before ← get
  let stops := ["]]".toList, "&&".toList, "||".toList, ")".toList].any (·.isPrefixOf before.rest)
  if unaryTests.contains bare && !stops then
    return .unary bare (← readOperand compound fuel bare)
  else if unaryTests.contains bare && "]]".toList.isPrefixOf before.rest then
    fail (.judgement "unexpected argument `]]' to conditional unary operator" "]]")
  else if stops then return .word w
  else match before.rest with
    | '<' :: _ => do
      advance
      return .binary "<" w (← readOperand compound fuel "<")
    | '>' :: _ => do
      advance
      return .binary ">" w (← readOperand compound fuel ">")
    | '\n' :: _ | [] =>
      fail (.judgement "unexpected token `newline', conditional binary operator expected" source)
    | _ => do
      let found := (Word.bare? (← readParts compound fuel .bare)).getD ""
      if binaryTests.contains found then
        return .binary found w (← readOperand compound fuel found)
      else fail (.judgement "conditional binary operator expected" (← since before.rest))

mutual

/-- Reads conditions of which one has to hold. -/
def readEither : Nat → Reader Judgement
  | 0 => fail .tooDeep
  | fuel + 1 => do
    let first ← readBoth fuel
    skipConditionBlanks fuel
    if ← passes "||" then return .either first (← readEither fuel) else return first

/-- Reads conditions that have to hold together. -/
def readBoth : Nat → Reader Judgement
  | 0 => fail .tooDeep
  | fuel + 1 => do
    let first ← readJudgement fuel
    skipConditionBlanks fuel
    if ← passes "&&" then return .both first (← readBoth fuel) else return first

/-- Reads one condition. -/
def readJudgement : Nat → Reader Judgement
  | 0 => fail .tooDeep
  | fuel + 1 => do
    skipConditionBlanks fuel
    if ← passes "(" then do
      let j ← readEither fuel
      skipConditionBlanks fuel
      if ← passes ")" then return j
      else do
        let found := String.ofList ((← rest).takeWhile (!isMeta ·))
        fail (.judgement ("unexpected token `" ++ found ++ "', expected `)'") found)
    else do
      let before ← rest
      if before.isEmpty then fail .openJudgement
      let w ← readParts compound fuel .bare
      let source ← since before
      let bare := Word.bare? w
      if bare == some "!" then return .not (← readJudgement fuel)
      else if source.isEmpty then do
        let found := String.ofList (before.take 1)
        fail (.judgement ("unexpected token `" ++ found ++ "' in conditional command") found)
      else if bare == some "]]" then
        fail (.judgement "unexpected token `]]' in conditional command" "]]")
      else readComparison compound fuel w source

end

/-- Passes over the brackets that close a condition. -/
def closeJudgement (fuel : Nat) : Reader Unit := do
  skipConditionBlanks fuel
  match ← rest with
  | [] => fail .openJudgement
  | before =>
    if ← passes "]]" then return
    else do
      let w ← readParts compound fuel .bare
      let found := (Word.bare? w).getD (String.ofList (before.take 1))
      fail (.judgement "syntax error in conditional expression" found)

/-! ## Loops -/

/-- Reads the body of a loop. -/
def readBody (fuel : Nat) : Reader Command := do
  expectWord compound fuel "do"
  let body ← compound false
  expectWord compound fuel "done"
  return body

/-- Passes over a semicolon, if one stands here, and over line ends. -/
def skipSeparators (fuel : Nat) : Reader Unit := do
  if (← peekToken compound fuel).isOperator ";" then
    let _ ← passPeeked
  skipNewlines compound fuel

/-- Reads what follows a for. -/
def readFor (fuel start : Nat) : Reader Command := do
  let extended ← isExtended
  let t ← readToken compound fuel
  match t with
  | .word _ bare source => do
    let name := bare.getD source
    if !extended && !isName name then fail .loopName
    skipNewlines compound fuel
    if (← peekToken compound fuel).isWord "in" then do
      let _ ← passPeeked
      let items ← readWords compound fuel
      match ← readToken compound fuel with
      | .newline | .operator ";" => do
        skipNewlines compound fuel
        return .each start name (some items) (← readBody compound fuel)
      | t => fail (.unexpected t false none)
    else do
      skipSeparators compound fuel
      return .each start name none (← readBody compound fuel)
  | t => if extended then fail (.unexpected t false none) else fail .loopName

/-- Reads what follows a while or an until. -/
def readLoop (fuel : Nat) (untilHolds : Bool) : Reader Command := do
  let test ← compound false
  return .loop untilHolds test (← readBody compound fuel)

/-! ## Choices -/

/-- Reads the branches after an if. -/
def readBranches : Nat → Reader Command
  | 0 => fail .tooDeep
  | fuel + 1 => do
    let test ← compound false
    expectWord compound fuel "then"
    let yes ← compound false
    let t ← readToken compound fuel
    if t.isWord "elif" then return .branch test yes (← readBranches fuel)
    else if t.isWord "else" then do
      let no ← compound false
      expectWord compound fuel "fi"
      return .branch test yes no
    else if t.isWord "fi" then return .branch test yes .skip
    else fail (.unexpected t true (some "\"fi\""))

/-- Reads the patterns of an arm, of which the first token has been read. -/
def readPatterns : Nat → Token → Reader (List Word)
  | 0, _ => fail .tooDeep
  | fuel + 1, .word w _ _ => do
    match ← readToken compound fuel with
    | .operator "|" => do
      let next ← readToken compound fuel
      return w :: (← readPatterns fuel next)
    | .operator ")" => return [w]
    | t => fail (.unexpected t false (some "\")\""))
  | _ + 1, t => fail (.unexpected t false (some "\")\""))

/-- Reads the arms of a case. -/
def readArms : Nat → Reader (List Arm)
  | 0 => fail .tooDeep
  | fuel + 1 => do
    skipNewlines compound fuel
    let t ← readToken compound fuel
    if t.isWord "esac" then return []
    else do
      let t ← if t.isOperator "(" then readToken compound fuel else pure t
      let patterns ← readPatterns compound fuel t
      let body ← compound true
      match ← readToken compound fuel with
      | .operator ";;" => return (patterns, body) :: (← readArms fuel)
      | t =>
        if t.isWord "esac" then return [(patterns, body)]
        else fail (.unexpected t true (some "\";;\""))

/-- Reads what follows a case. -/
def readCase (fuel start : Nat) : Reader Command := do
  match ← readToken compound fuel with
  | .word subject _ _ => do
    skipNewlines compound fuel
    expectWord compound fuel "in"
    return .choose start subject (← readArms compound fuel)
  | t => fail (.unexpected t false (some "word"))

/-! ## Commands -/

/-- Reads commands that a shell of their own carries out, the first parenthesis passed. -/
def readSubshell (fuel start : Nat) : Reader Command := do
  let body ← compound false
  let t ← readToken compound fuel
  if t.isOperator ")" then return .subshell start body
  else fail (.unexpected t true (some "\")\""))

/-- Reads the body of a function. -/
def readFunction (command : Reader Command) (fuel : Nat) (name : Bytes) : Reader Command := do
  skipNewlines compound fuel
  return .define name (← command)

/-- Reads what follows the word that announces a function. -/
def readAnnounced (command : Reader Command) (fuel : Nat) : Reader Command := do
  match ← readToken compound fuel with
  | .word _ bare source => do
    if (← peekToken compound fuel).isOperator "(" then do
      let _ ← passPeeked
      let t ← readToken compound fuel
      if !t.isOperator ")" then fail (.unexpected t false none)
    readFunction compound command fuel (bare.getD source)
  | t => fail (.unexpected t false none)

/-- Reads a simple command, or the definition of a function. -/
def readSimple (command : Reader Command) :
    Nat → Nat → List Word → List Word → List Redirection → Reader Command
  | 0, _, _, _, _ => fail .tooDeep
  | fuel + 1, start, assignments, words, rs => do
    match ← peekToken compound fuel with
    | .word w _ _ => do
      let _ ← passPeeked
      if words.isEmpty && (Assignment.ofWord? (← get).dialect w).isSome then
        readSimple command fuel start (assignments ++ [w]) words rs
      else readSimple command fuel start assignments (words ++ [w]) rs
    | .redirection stream o => do
      let _ ← passPeeked
      let r ← readRedirection compound fuel stream o
      readSimple command fuel start assignments words (rs ++ [r])
    | .operator "(" =>
      match assignments, words, rs with
      | [], [w], [] => do
        let _ ← passPeeked
        let t ← readToken compound fuel
        let extended ← isExtended
        if !t.isOperator ")" then
          fail (.unexpected t false (if extended then none else some "\")\""))
        let name := (Word.bare? w).getD ""
        let bad := if extended then name.isEmpty
          else !isName name || Token.specialNames.contains name
        if bad then fail .functionName
        readFunction compound command fuel name
      | _, _, _ => return .simple start assignments words rs
    | _ => return .simple start assignments words rs

/-- Reads a command that a word opens, if the word does that. -/
def readOpened (fuel start : Nat) (word : Bytes) :
    Option (Reader Command) :=
  match word with
  | "if" => some (readBranches compound fuel)
  | "while" => some (readLoop compound fuel false)
  | "until" => some (readLoop compound fuel true)
  | "for" => some (readFor compound fuel start)
  | "case" => some (readCase compound fuel start)
  | "\x7b" => some do
    let body ← compound false
    expectWord compound fuel "\x7d"
    return .group body
  | _ => none

/-- Reads a command that a word opens for the extended shell only. -/
def readExtendedOpened (command : Reader Command) (fuel start : Nat) (word : Bytes) :
    Option (Reader Command) :=
  match word with
  | "[[" => some do
    let j ← readEither compound fuel
    closeJudgement compound fuel
    return .judge start j
  | "function" => some (readAnnounced compound command fuel)
  | _ => none

/-- Reads the redirections after a command that is no simple one. -/
def withRedirections (fuel start : Nat) (body : Command) : Reader Command := do
  match ← readRedirections compound fuel with
  | [] => return body
  | rs => return .redirected start body rs

/-- Reads a command. -/
def readCommand : Nat → Reader Command
  | 0 => fail .tooDeep
  | fuel + 1 => do
    let t ← peekToken compound fuel
    let start ← line
    let extended ← isExtended
    let command := readCommand fuel
    let simple := readSimple compound command fuel start [] [] []
    let opened (x : Reader Command) : Reader Command := do
      let _ ← passPeeked
      withRedirections compound fuel start (← x)
    match t with
    | .redirection .. => simple
    | .operator "(" => opened (readSubshell compound fuel start)
    | .word _ (some text) _ =>
      let inExtended := if extended then readExtendedOpened compound command fuel start text else none
      match (readOpened compound fuel start text).or inExtended with
      | some x => opened x
      | none => if Token.keywords.contains text then fail (.unexpected t true none) else simple
    | .word .. => simple
    | t => fail (.unexpected t true none)

/-! ## Commands after each other -/

/-- Reads the stages of a pipeline after one. -/
def readStagesAfter : Nat → Command → Reader (List Command)
  | 0, _ => fail .tooDeep
  | fuel + 1, first => do
    match ← peekToken compound fuel with
    | .operator "|" => do
      let _ ← passPeeked
      skipNewlines compound fuel
      return first :: (← readStagesAfter fuel (← readCommand compound fuel))
    | _ => return [first]

/-- Reads the stages of a pipeline. -/
def readStages (fuel : Nat) : Reader Command := do
  let first ← readCommand compound fuel
  match ← readStagesAfter compound fuel first with
  | [c] => return c
  | stages => return .pipeline stages

/-- Reads a pipeline. -/
def readPipeline : Nat → Reader Command
  | 0 => fail .tooDeep
  | fuel + 1 => do
    if (← peekToken compound fuel).isWord "!" then do
      let _ ← passPeeked
      match ← peekToken compound fuel, ← isExtended with
      | .newline, true | .finish, true | .operator ";", true => return .negated .skip
      | _, true => return .negated (← readPipeline fuel)
      | _, false => return .negated (← readStages compound fuel)
    else readStages compound fuel

/-- Reads what follows a command on whose status it depends whether the next one is carried out. -/
def readAndOrAfter : Nat → Command → Reader Command
  | 0, _ => fail .tooDeep
  | fuel + 1, first => do
    match ← peekToken compound fuel with
    | .operator "&&" => do
      let _ ← passPeeked
      skipNewlines compound fuel
      readAndOrAfter fuel (.andThen first (← readPipeline compound fuel))
    | .operator "||" => do
      let _ ← passPeeked
      skipNewlines compound fuel
      readAndOrAfter fuel (.orElse first (← readPipeline compound fuel))
    | _ => return first

/-- Reads commands between which it depends on the first whether the second is carried out. -/
def readAndOr (fuel : Nat) : Reader Command := do
  readAndOrAfter compound fuel (← readPipeline compound fuel)

end

/-- Reads commands up to a token that closes them. -/
def readCompound : Nat → Bool → Reader Command
  | 0, _ => fail .tooDeep
  | fuel + 1, mayBeEmpty => do
    let inner := readCompound fuel
    skipNewlines inner fuel
    let t ← peekToken inner fuel
    match t with
    | .finish => return .skip
    | t =>
      if mayBeEmpty && t.closes then return .skip
      else do
        let first ← readAndOr inner fuel
        let t ← peekToken inner fuel
        if t.separates then do
          let _ ← passPeeked
          let first := if t.isOperator "&" then .background first else first
          skipNewlines inner fuel
          if (← peekToken inner fuel).closes then return first
          else return .sequence first (← readCompound fuel mayBeEmpty)
        else return first

/-- Reads the commands up to the end of a line. -/
def readList : Nat → Reader Command
  | 0 => fail .tooDeep
  | fuel + 1 => do
    let inner := readCompound fuel
    let first ← readAndOr inner fuel
    let t ← readToken inner fuel
    match t with
    | .newline | .finish => return first
    | .operator ";" | .operator "&" => do
      let first := if t.isOperator "&" then .background first else first
      match ← peekToken inner fuel with
      | .newline => do
        let _ ← passPeeked
        return first
      | .finish => return first
      | _ => return .sequence first (← readList fuel)
    | t => fail (.unexpected t true none)

/-- Reads the commands of a line; nothing when the script is over. -/
def readLine (fuel : Nat) : Reader (Option Command) := do
  match ← peekToken (readCompound fuel) fuel with
  | .finish => return none
  | .newline => do
    let _ ← passPeeked
    return some .skip
  | _ => return some (← readList fuel)

end FixBatch.Shell.Reader
