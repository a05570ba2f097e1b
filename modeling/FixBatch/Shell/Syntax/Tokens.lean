import FixBatch.Shell.Syntax.Words

/-!
# FixBatch.Shell.Syntax.Tokens

The tokens of a script, the documents below a line, and redirections.

* `readToken`, `peekToken` — tokens;
* `readRedirection` — redirections.
-/

namespace FixBatch.Shell.Reader

/-! ## Operators -/

/-- The operators of scripts, the longer ones before those they start with. -/
def operators : List Bytes := ["&&", "&", "||", "|", ";;", ";", "(", ")"]

/-- The operators that open a target. -/
def redirectors (dialect : Dialect) : List (Bytes × Opening) :=
  (if dialect = .extended then [("<<<", .text), ("&>>", .appendBoth), ("&>", .writeBoth)] else []) ++
    [(">>", .append), (">&", .copyOut), (">", .write), ("<&", .copyIn), ("<", .read)]

/-- The operator that announces a document. -/
def documentOperator? (cs : List Char) : Option Bytes :=
  if ['<', '<', '-'].isPrefixOf cs then some "<<-"
  else if ['<', '<'].isPrefixOf cs then some "<<"
  else none

/-- The operator with a target that stands here. -/
def redirector? (dialect : Dialect) (cs : List Char) : Option Bytes :=
  match dialect, cs with
  | .extended, '<' :: '<' :: '<' :: _ => some "<<<"
  | _, _ =>
    (documentOperator? cs).or
      (((redirectors dialect).find? fun o => o.1.toList.isPrefixOf cs).map Prod.fst)

/-- Whether a word is the number of a stream. -/
def isStreamNumber (dialect : Dialect) (word : Bytes) : Bool :=
  word.toList.all Char.isDigit && (dialect == .extended || word.length == 1)

/-- The line that ends a document, as the redirection gives it: nothing in it is filled in.  Also,
whether a part of it is quoted, and how many characters it has. -/
def delimiter : List Char → List Char × Bool × Nat
  | '\\' :: c :: r => let (cs, _, n) := delimiter r; (c :: cs, true, n + 2)
  | '\'' :: r => let (cs, n) := quotedBy '\'' r; (cs, true, n + 1)
  | '"' :: r => let (cs, n) := quotedBy '"' r; (cs, true, n + 1)
  | c :: r =>
    if isMeta c then ([], false, 0)
    else let (cs, verbatim, n) := delimiter r; (c :: cs, verbatim, n + 1)
  | [] => ([], false, 0)
where
  /-- What is left of a delimiter whose quote is open. -/
  quotedBy (mark : Char) : List Char → List Char × Nat
    | [] => ([], 0)
    | c :: r =>
      if c = mark then let (cs, _, n) := delimiter r; (cs, n + 1)
      else let (cs, n) := quotedBy mark r; (c :: cs, n + 1)

section
variable (compound : Bool → Reader Command)

/-! ## Documents -/

/-- Reads the documents that have been announced. -/
def readDocumentsOf (fuel : Nat) : List Announced → Reader Unit
  | [] => return
  | a :: more => do
    let text ← takeDocument a
    if a.verbatim then settle a.number [.quoted (String.ofList text)]
    else do
      let c ← get
      set { c with rest := text }
      let parts ← readParts compound fuel .document
      modify fun after => { after with rest := c.rest, line := c.line, fresh := c.fresh }
      settle a.number [.double parts]
    readDocumentsOf fuel more

/-- Reads the documents that wait. -/
def readDocuments (fuel : Nat) : Reader Unit := do
  let c ← get
  set { c with waiting := [] }
  readDocumentsOf compound fuel c.waiting

/-! ## Tokens -/

/-- Reads the elements of an array up to the parenthesis that closes them. -/
def readElements : Nat → Reader (List Word)
  | 0 => fail .tooDeep
  | fuel + 1 => do
    skipBlanks
    match ← rest with
    | '\n' :: _ => do
      advance
      readElements fuel
    | ')' :: _ => do
      advance
      return []
    | [] => do fail (.openList (← line))
    | c :: _ =>
      if isMeta c then fail (.unexpected (.operator (String.ofList [c])) false none)
      else do
        let w ← readParts compound fuel .bare
        return w :: (← readElements fuel)

/-- Reads a token that is a word, or a redirection that starts with a number. -/
def readWordToken (fuel : Nat) : Reader Token := do
  let dialect := (← get).dialect
  let before ← rest
  let w ← readParts compound fuel .bare
  let bare := Word.bare? w
  match bare, redirector? dialect (← rest) with
  | some number, some o =>
    if isStreamNumber dialect number && !(['&'].isPrefixOf (← rest)) then do
      skip o.length
      return .redirection (some (Text.ofDigits 10 number.toList)) o
    else return .word w bare (← since before)
  | _, _ =>
    match dialect, ← rest, (Assignment.ofWord? dialect w).map Assignment.value with
    | .extended, '(' :: _, some [] => do
      advance
      let items ← readElements compound fuel
      return .word (w ++ [.elements items]) none (← since before)
    | _, _, _ => return .word w bare (← since before)

/-- Reads a token; one that has been looked at comes first. -/
def readToken (fuel : Nat) : Reader Token := do
  match (← get).peeked with
  | some _ => passPeeked
  | none => do
    skipBlanks
    match ← rest with
    | [] => do
      readDocuments compound fuel
      return .finish
    | '\n' :: _ => do
      advance
      readDocuments compound fuel
      return .newline
    | before =>
      match redirector? (← get).dialect before with
      | some o => do
        skip o.length
        return .redirection none o
      | none =>
        match operators.find? fun o => o.toList.isPrefixOf before with
        | some o => do
          skip o.length
          return .operator o
        | none => readWordToken compound fuel

/-- Looks at the next token. -/
def peekToken (fuel : Nat) : Reader Token := do
  let t ← readToken compound fuel
  modify fun c => { c with peeked := some t }
  return t

/-- Passes over line ends. -/
def skipNewlines : Nat → Reader Unit
  | 0 => fail .tooDeep
  | fuel + 1 => do
    match ← peekToken compound fuel with
    | .newline => do
      let _ ← passPeeked
      skipNewlines fuel
    | _ => return

/-- Passes over a keyword that has to stand here. -/
def expectWord (fuel : Nat) (keyword : Bytes) : Reader Unit := do
  let t ← readToken compound fuel
  if t.isWord keyword then return
  else fail (.unexpected t true (some ("\"" ++ keyword ++ "\"")))

/-- Reads words as long as there are any. -/
def readWords : Nat → Reader (List Word)
  | 0 => fail .tooDeep
  | fuel + 1 => do
    match ← peekToken compound fuel with
    | .word w _ _ => do
      let _ ← passPeeked
      return w :: (← readWords fuel)
    | _ => return []

/-! ## Redirections -/

/-- Reads the target of a redirection. -/
def readRedirection (fuel : Nat) (stream : Option Nat) (o : Bytes) : Reader Redirection := do
  if o = "<<" || o = "<<-" then do
    skip (blanks (← rest))
    let (text, verbatim, size) := delimiter (← rest)
    if size = 0 then fail (.unexpected (← readToken compound fuel) false none)
    else do
      skip size
      let number ← announce (String.ofList text) (o == "<<-") verbatim
      return .document (stream.getD 0) number
  else match ← readToken compound fuel with
    | .word w _ _ =>
      return .file stream (((redirectors (← get).dialect).lookup o).getD .write) w
    | t => fail (.unexpected t false none)

/-- Reads redirections as long as there are any. -/
def readRedirections : Nat → Reader (List Redirection)
  | 0 => fail .tooDeep
  | fuel + 1 => do
    match ← peekToken compound fuel with
    | .redirection stream o => do
      let _ ← passPeeked
      let r ← readRedirection compound fuel stream o
      return r :: (← readRedirections fuel)
    | _ => return []

end

end FixBatch.Shell.Reader
