import FixBatch.Shell.Syntax.Cursor
import FixBatch.Text.Digit

/-!
# FixBatch.Shell.Syntax.Words

Words and what is filled into them.  Words hold commands, and commands hold words: how a list of
commands is read is left to a function that is given, whose flag says that the list may be empty.

* `Zone` — what text stands between, which decides what its characters mean;
* `readParts` — the parts of a zone up to its end.
-/

namespace FixBatch.Shell.Reader

/-! ## Zones -/

/-- What text stands between, which decides what its characters mean. -/
inductive Zone where
  /-- A word by itself. -/
  | bare
  /-- The word after an operator between braces, up to their end or some character. -/
  | braces (stops : List Char)
  /-- The same, where the braces stand between double quotes. -/
  | quotedBraces (stops : List Char)
  /-- A subscript. -/
  | subscript (depth : Nat)
  | double
  | document
  /-- An arithmetic expression, with open parentheses. -/
  | sum (depth : Nat)

/-- The characters that end words. -/
def isMeta (c : Char) : Bool := " \t\n;&|<>()".toList.contains c

namespace Zone

/-- Whether text in a zone is quoted by where it stands. -/
def isQuoted : Zone → Bool
  | quotedBraces _ | double | document | sum _ => true
  | _ => false

/-- Whether a zone ends before some text. -/
def ends : Zone → List Char → Bool
  | _, [] => true
  | bare, c :: _ => isMeta c
  | braces stops, c :: _ | quotedBraces stops, c :: _ => c == '}' || stops.contains c
  | subscript depth, c :: _ => depth == 0 && c == ']'
  | double, c :: _ => c == '"'
  | document, _ => false
  | sum depth, c :: r => depth == 0 && c == ')' && r.head? == some ')'

/-- The zone after a character that stands for itself. -/
def after : Zone → Char → Zone
  | subscript depth, '[' => subscript (depth + 1)
  | subscript depth, ']' => subscript (depth - 1)
  | sum depth, '(' => sum (depth + 1)
  | sum depth, ')' => sum (depth - 1)
  | zone, _ => zone

/-- Whether a backslash takes the meaning of a character in a zone whose text is quoted. -/
def escapes : Zone → Char → Bool
  | zone, c =>
    c == '$' || c == '\x60' || c == '\\' || (match zone with
      | document => false
      | quotedBraces _ => c == '"' || c == '}'
      | _ => c == '"')

end Zone

/-- Puts a part before a word. -/
def cons : Part → Word → Word
  | .plain a, .plain b :: rest => .plain (a ++ b) :: rest
  | .quoted a, .quoted b :: rest => .quoted (a ++ b) :: rest
  | part, rest => part :: rest

/-- The part for a character that stands for itself. -/
def literal (zone : Zone) (c : Char) : Part :=
  if zone.isQuoted then .quoted (String.ofList [c]) else .plain (String.ofList [c])

/-! ## Quotes without anything to fill in -/

/-- Reads what is left between single quotes. -/
def readSingle : Reader Part := do
  let start ← line
  let text ← takeWhile (· != '\'')
  match ← rest with
  | '\'' :: _ => do
    advance
    return .quoted (String.ofList text)
  | _ => fail (.openQuote '\'' start)

/-- The text up to the accent that closes it, without the backslashes before characters that would
mean something there; nothing when there is none. -/
def accented (inDouble : Bool) : List Char → Option (List Char × Nat)
  | [] => none
  | '\x60' :: _ => some ([], 1)
  | '\\' :: c :: r =>
    let drops := c == '\x60' || c == '\\' || c == '$' || (inDouble && c == '"')
    (accented inDouble r).map fun (text, n) =>
      ((if drops then [c] else ['\\', c]) ++ text, n + 2)
  | c :: r => (accented inDouble r).map fun (text, n) => (c :: text, n + 1)

/-! ## Names in braces -/

/-- The parameters with a name of one character that is no letter. -/
def isSpecial (c : Char) : Bool := "@*#?-$!".toList.contains c

/-- Passes over the name of a parameter. -/
def readName : Reader Bytes := do
  match ← rest with
  | c :: _ =>
    if isNameStart c then return String.ofList (← takeWhile isNameChar)
    else if c.isDigit then return String.ofList (← takeWhile Char.isDigit)
    else if isSpecial c then do
      advance
      return String.ofList [c]
    else return ""
  | [] => return ""

/-- Whether a number sign between braces asks for a length. -/
def asksLength : List Char → Bool
  | c :: r => isNameStart c || c.isDigit || (isSpecial c && r.head? == some '}')
  | [] => false

/-! ## What is filled in -/

/-- Reads the commands between parentheses, the first of which has been passed.  The list of commands
ends before a token that has been looked at. -/
def readScript (compound : Bool → Reader Command) : Reader Command := do
  let start ← line
  let c ← get
  set { c with waiting := [] }
  let body ← compound true
  let t ← passPeeked
  modify fun after => { after with waiting := c.waiting ++ after.waiting }
  match t with
  | .operator ")" => return body
  | .finish => do
    let c ← get
    fail (.openList (if c.fresh then c.line else max c.line start + 1))
  | t => fail (.unexpected t true (some "\")\""))

/-- Reads the commands between accents, the first of which has been passed. -/
def readAccented (compound : Bool → Reader Command) (inDouble : Bool) (start : Nat) :
    Reader Command := do
  match accented inDouble (← rest) with
  | none => fail (.openAccent start)
  | some (text, n) => do
    let c ← get
    set { c with rest := text, waiting := [] }
    let body ← compound true
    modify fun after =>
      { after with rest := c.rest, line := c.line, peeked := none, waiting := c.waiting }
    skip n
    return body

section
variable (parts : Zone → Reader Word)

/-- Reads the subscript of a parameter, if it has one. -/
def readIndex : Reader Index := do
  match ← rest, ← isExtended with
  | '[' :: _, true => do
    advance
    if ← passes "@]" then return .all
    else if ← passes "*]" then return .joined
    else do
      let subscript ← parts (.subscript 0)
      advance
      return .at subscript
  | _, _ => return .whole

/-- Reads what is made of the value of a parameter in the extended shell only, after its mark. -/
def readExtendedForm (isQuoted : Bool) : Char → Reader Form
  | ':' => do
    let start ← parts (.quotedBraces [':'])
    if ← passes ":" then return .slice start (some (← parts (.quotedBraces [])))
    else return .slice start none
  | '/' => do
    let reach ←
      if ← passes "/" then pure Reach.all
      else if ← passes "#" then pure Reach.start
      else if ← passes "%" then pure Reach.finish
      else pure Reach.first
    let pattern ← parts (.braces ['/'])
    if ← passes "/" then
      return .replace reach pattern (← parts (if isQuoted then .quotedBraces [] else .braces []))
    else return .replace reach pattern []
  | '^' => do
    let all ← passes "^"
    return .recase true all (← parts (.braces []))
  | ',' => do
    let all ← passes ","
    return .recase false all (← parts (.braces []))
  | _ => return .unknown ""

/-- Reads what is made of the value of a parameter. -/
def readForm (isQuoted : Bool) : Reader Form := do
  let word : Zone := if isQuoted then .quotedBraces [] else .braces []
  match ← rest with
  | '}' :: _ => return .value
  | ':' :: '-' :: _ => do skip 2; return .orElse true (← parts word)
  | ':' :: '=' :: _ => do skip 2; return .assign true (← parts word)
  | ':' :: '?' :: _ => do skip 2; return .demand true (← parts word)
  | ':' :: '+' :: _ => do skip 2; return .instead true (← parts word)
  | '-' :: _ => do advance; return .orElse false (← parts word)
  | '=' :: _ => do advance; return .assign false (← parts word)
  | '?' :: _ => do advance; return .demand false (← parts word)
  | '+' :: _ => do advance; return .instead false (← parts word)
  | '#' :: '#' :: _ => do skip 2; return .dropStart true (← parts (.braces []))
  | '#' :: _ => do advance; return .dropStart false (← parts (.braces []))
  | '%' :: '%' :: _ => do skip 2; return .dropEnd true (← parts (.braces []))
  | '%' :: _ => do advance; return .dropEnd false (← parts (.braces []))
  | ':' :: '}' :: _ =>
    if ← isExtended then return .unknown "" else do skip 2; return .value
  | c :: _ =>
    if ← isExtended then do
      advance
      readExtendedForm parts isQuoted c
    else return .unknown ""
  | [] => return .unknown ""

/-- Reads a parameter between braces, the first of which has been passed. -/
def readBraces (isQuoted : Bool) : Reader Part := do
  let start ← line
  let before ← rest
  let part ← match before with
    | '#' :: r => do
      advance
      if asksLength r then do
        let name ← readName
        let index ← readIndex parts
        let ends := (← rest).head? == some '}'
        pure (Part.parameter name index (if ends then .length else .unknown ""))
      else pure (Part.parameter "#" .whole (← readForm parts isQuoted))
    | _ => do
      let name ← readName
      if name.isEmpty then pure (Part.parameter "" .whole (.unknown ""))
      else do
        let index ← readIndex parts
        pure (Part.parameter name index (← readForm parts isQuoted))
  let _ ← parts (.braces [])
  match ← rest with
  | '}' :: _ => do
    advance
    match part with
    | .parameter name index (.unknown _) =>
      return .parameter name index (.unknown ("$\x7b" ++ (← since before)))
    | part => return part
  | _ => fail (.openBraces start)

/-- Reads what a dollar sign, which has been passed, fills in. -/
def readDollar (compound : Bool → Reader Command) (zone : Zone) : Reader Word := do
  let start ← line
  match ← rest with
  | '(' :: '(' :: _ => do
    let before ← get
    skip 2
    let expression ← parts (.sum 0)
    if ← passes "))" then return [.sum expression]
    else if (← isExtended) && !(← rest).isEmpty then do
      set before
      advance
      return [.script (← readScript compound)]
    else fail (.openSum start)
  | '(' :: _ => do
    advance
    return [.script (← readScript compound)]
  | '\x7b' :: _ => do
    advance
    return [← readBraces parts zone.isQuoted]
  | c :: _ =>
    if isNameStart c then return [.parameter (← readName) .whole .value]
    else if c.isDigit || isSpecial c then do
      advance
      return [.parameter (String.ofList [c]) .whole .value]
    else return [literal zone '$']
  | [] => return [literal zone '$']

/-- Reads one part of a zone, and tells how the zone goes on. -/
def readPart (compound : Bool → Reader Command) (zone : Zone) : Reader (Word × Zone) := do
  match ← rest with
  | '\\' :: '\n' :: _ => do
    skip 2
    return ([], zone)
  | '\\' :: c :: _ => do
    skip 2
    if zone.isQuoted && !zone.escapes c then return ([.quoted (String.ofList ['\\', c])], zone)
    else return ([.quoted (String.ofList [c])], zone)
  | '\'' :: _ => do
    advance
    if zone.isQuoted then return ([.quoted "'"], zone) else return ([← readSingle], zone)
  | '"' :: _ => do
    let start ← line
    advance
    match zone with
    | .document => return ([.quoted "\""], zone)
    | .sum _ => return (if ← isExtended then [] else [.quoted "\""], zone)
    | _ => do
      let inside ← parts .double
      match ← rest with
      | '"' :: _ => do
        advance
        return ([.double inside], zone)
      | _ => fail (.openQuote '"' start)
  | '$' :: _ => do
    advance
    return (← readDollar parts compound zone, zone)
  | '\x60' :: _ => do
    let start ← line
    advance
    return ([.script (← readAccented compound zone.isQuoted start)], zone)
  | c :: _ => do
    advance
    return ([literal zone c], zone.after c)
  | [] => return ([], zone)

end

/-- Reads the parts of a zone up to its end; the count bounds how many there are, and how deep they
stand in each other. -/
def readParts (compound : Bool → Reader Command) : Nat → Zone → Reader Word
  | 0, _ => fail .tooDeep
  | fuel + 1, zone => do
    if zone.ends (← rest) then return []
    let (parts, next) ← readPart (readParts compound fuel) compound zone
    return parts.foldr cons (← readParts compound fuel next)

end FixBatch.Shell.Reader
