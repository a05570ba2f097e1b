import FixBatch.Shell.Syntax

/-!
# FixBatch.Shell.Syntax.Token

What the text of a script consists of, and what can be wrong with it.  The two shells tell faults in
words of their own: `Fault.plainText` and `Fault.extendedTexts`.
-/

namespace FixBatch.Shell

/-- A token of a script. -/
inductive Token where
  /-- A word, with its text if nothing in it is quoted or filled in, and as it stands. -/
  | word (w : Word) (bare : Option Bytes) (source : Bytes)
  /-- An operator that opens a target, after the stream that is meant. -/
  | redirection (stream : Option Nat) (operator : Bytes)
  | operator (text : Bytes)
  | newline
  | finish

namespace Token

/-- The words that mean something where a command may start. -/
def keywords : List Bytes :=
  ["!", "case", "do", "done", "elif", "else", "esac", "fi", "for", "if", "in", "then", "until",
    "while", "\x7b", "\x7d"]

/-- The words that mean something to the extended shell only. -/
def moreKeywords : List Bytes := ["[[", "function"]

/-- The builtins that no function may replace in the plain shell, and whose faults end it. -/
def specialNames : List Bytes :=
  [".", ":", "break", "continue", "eval", "exec", "exit", "export", "readonly", "return", "set",
    "shift", "times", "trap", "unset"]

/-- The text of a token that is a word without quotes. -/
def bare? : Token → Option Bytes
  | word _ bare _ => bare
  | _ => none

/-- Whether a token is an operator. -/
def isOperator (text : Bytes) : Token → Bool
  | operator o => o == text
  | _ => false

/-- Whether a token is some word without quotes. -/
def isWord (text : Bytes) (t : Token) : Bool := t.bare? == some text

/-- The operators and words that close a list of commands. -/
def closers : List Bytes :=
  ["then", "elif", "else", "fi", "do", "done", "esac", "\x7d"]

/-- Whether a token closes the list of commands that it stands behind. -/
def closes : Token → Bool
  | finish => true
  | operator o => [")", ";;"].contains o
  | word _ (some text) _ => closers.contains text
  | _ => false

/-- Whether a token ends a command and lets another one follow. -/
def separates : Token → Bool
  | newline => true
  | t => t.isOperator ";" || t.isOperator "&"

/-- A token in the words of the plain shell; `keyword` says that it stands where a keyword may. -/
def described (keyword : Bool) : Token → Bytes
  | word _ bare _ =>
    match bare with
    | some text => if keyword && keywords.contains text then "\"" ++ text ++ "\"" else "word"
    | none => "word"
  | redirection .. => "redirection"
  | operator o => "\"" ++ o ++ "\""
  | newline => "newline"
  | finish => "end of file"

/-- A token as the extended shell quotes it. -/
def quoted : Token → Bytes
  | word _ _ source => source
  | redirection _ o => o
  | operator o => o
  | newline | finish => "newline"

end Token

/-! ## Faults -/

/-- What is wrong with a script. -/
inductive Fault.Cause where
  /-- A token stands where another should. -/
  | unexpected (found : Token) (keyword : Bool) (expected : Option Bytes)
  /-- A quote, opened on some line, is not closed. -/
  | openQuote (mark : Char) (line : Nat)
  /-- Braces, opened on some line, are not closed. -/
  | openBraces (line : Nat)
  /-- An arithmetic expression, opened on some line, is not closed. -/
  | openSum (line : Nat)
  /-- The output of a command, asked for between accents, is not closed. -/
  | openAccent (line : Nat)
  | openList (line : Nat)
  | loopName
  | functionName
  | streamNumber
  /-- A condition has something else than it should where a token stands. -/
  | judgement (complaint token : Bytes)
  | openJudgement
  | tooDeep

/-- What is wrong with a script, and the line it is found on; `fresh` says that nothing of that line
has been read. -/
structure Fault where
  line : Nat
  fresh : Bool
  cause : Fault.Cause

namespace Fault

/-- What the plain shell says. -/
def plainText : Cause → Bytes
  | .unexpected found keyword expected =>
    found.described keyword ++ " unexpected" ++
      (expected.map fun e => " (expecting " ++ e ++ ")").getD ""
  | .openQuote .. => "Unterminated quoted string"
  | .openBraces _ => "Missing '\x7d'"
  | .openSum _ => "Missing '))'"
  | .openAccent _ => "EOF in backquote substitution"
  | .openList _ => "end of file unexpected (expecting \")\")"
  | .loopName => "Bad for loop variable"
  | .functionName => "Bad function name"
  | .streamNumber => "Bad fd number"
  | .judgement complaint _ => complaint
  | .openJudgement => "end of file unexpected"
  | .tooDeep => "Nesting too deep"

/-- The line on which the extended shell finds the end of the script. -/
def lastLine (f : Fault) : Nat := if f.fresh then f.line else f.line + 1

/-- What the extended shell says: texts with the lines they are about.  It shows the line of the
script where a token is out of place. -/
def extendedTexts (sourceLine : Nat → Bytes) (f : Fault) : List (Nat × Bytes) :=
  let unclosed (line : Nat) (mark : Bytes) : List (Nat × Bytes) :=
    [(line, "unexpected EOF while looking for matching " ++ "`" ++ mark ++ "'")]
  match f.cause with
  | .unexpected .finish .. => [(f.lastLine, "syntax error: unexpected end of file")]
  | .unexpected found _ _ =>
    let line := match found with
      | .newline => f.line - 1
      | _ => f.line
    [(line, "syntax error near unexpected token `" ++ found.quoted ++ "'"),
      (line, "`" ++ sourceLine line ++ "'")]
  | .openQuote mark line => unclosed line (String.ofList [mark])
  | .openBraces line => unclosed line "\x7d"
  | .openSum line => unclosed line ")"
  | .openAccent line => unclosed line "`"
  | .openList line => unclosed line ")"
  | .judgement complaint token =>
    [(f.line, complaint), (f.line, "syntax error near `" ++ token ++ "'"),
      (f.line, "`" ++ sourceLine f.line ++ "'")]
  | .openJudgement =>
    [(f.line, "unexpected EOF while looking for `]]'"),
      (f.lastLine, "syntax error: unexpected end of file")]
  | cause => [(f.line, plainText cause)]

end Fault

end FixBatch.Shell
