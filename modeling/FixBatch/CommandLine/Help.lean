import FixBatch.CommandLine.Request
import FixBatch.Text.Lines

/-!
# FixBatch.CommandLine.Help

The texts that describe the program: its help, with a line for every flag, and its version.  They
are written for a terminal; where there is none they lose their control sequences, and with them
those that a value of the environment or of the command line brings along.
-/

namespace FixBatch.CommandLine

/-- The name of the program. -/
def programName : String := "rulefix"

/-- The environment variable that names an engine. -/
def engineVariable : String := "RULEFIX_ENGINE"

/-- The version of the program. -/
def versionText : String := programName ++ " 0.1.0\n"

/-- What a flag does. -/
def Meaning.description : Meaning → String
  | config => "Config file (default: ./rulefix.toml when present)"
  | engine => "Engine program invoked once per call (overrides [engine] command)"
  | onError => "What to do when an engine call fails"
  | legacy => "Use the single legacy transformation for every path, then clean imports"
  | dryRun => "Print the engine calls instead of running them"
  | printPlan => "Print the validated plan as JSON and exit"
  | report => "Write a JSON run report to this path"
  | help => "Print help"
  | version => "Print version"

/-- What is said of a flag's value after its description; `engine` is the engine that the
environment names. -/
def Meaning.valueNote (engine : Option String) : Meaning → String
  | .engine => " [env: " ++ engineVariable ++ "=" ++ engine.getD "" ++ "]"
  | onError =>
    " [possible values: " ++ String.intercalate ", " (Settings.policies.map Prod.fst) ++ "]"
  | _ => ""

/-- A flag as its line in the help shows it, without its description. -/
def Meaning.heading (m : Meaning) : String :=
  (match m.short? with
    | some c => "  " ++ Text.Terminal.emphasised (String.ofList ['-', c]) ++ ", "
    | none => "      ") ++ Text.Terminal.emphasised ("--" ++ m.name) ++ m.valueShown

/-- The column in which the heading of a flag ends. -/
def Meaning.headingWidth (m : Meaning) : Nat := 6 + m.shown.length

/-- The column at which descriptions start. -/
def descriptionColumn : Nat := (Meaning.all.map Meaning.headingWidth).foldl max 0 + 2

def blanks (n : Nat) : String := String.ofList (List.replicate n ' ')

/-- The line of a flag; a description of several lines keeps its column. -/
def Meaning.helpLine (engine : Option String) (m : Meaning) : String :=
  let lines := Text.segments (· == '\n') (m.description ++ m.valueNote engine).toList
  m.heading ++ blanks (descriptionColumn - m.headingWidth) ++
    String.intercalate ("\n" ++ blanks descriptionColumn) (lines.map String.ofList) ++ "\n"

/-- The help. -/
def helpText (engine : Option String) : String :=
  "Apply rule-driven source fixes to files and directories.\n\n" ++
  "Usage: " ++ programName ++ " [OPTIONS] [ARGS]...\n\n" ++
  "Arguments:\n" ++
  "  [ARGS]...  Paths and --name=value fix options, in any order\n\n" ++
  "Options:\n" ++
  String.join (Meaning.all.map (Meaning.helpLine engine)) ++ "\n" ++
  "Fix options use --name=value form: --rules=A,B, --excludeRules=A,B, " ++
  "--ignoreTestFiles=true|false. They may appear anywhere among the paths.\n"

/-- An answer as a terminal is to show it. -/
def Answer.styled (engine : Option String) : Answer → String
  | help => helpText engine
  | version => versionText
  | refused r => r.styled

/-- What is told of an answer: all of it, but of a refusal no more than one line. -/
def Answer.excerpt (a : Answer) (s : String) : String :=
  match a with
  | help | version => s
  | refused _ => Text.firstLine s

/-- The text of an answer. -/
def Answer.text (engine : Option String) (a : Answer) : String :=
  a.excerpt (Text.Terminal.plain (a.styled engine))

/-- What an answer comes to where it is written byte by byte, and not to a terminal. -/
def Answer.printed (engine : Option String) (a : Answer) : String :=
  a.excerpt (Text.Terminal.passed (a.styled engine))

end FixBatch.CommandLine
