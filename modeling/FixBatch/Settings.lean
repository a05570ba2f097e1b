import FixBatch.Check
import FixBatch.Files.Access
import FixBatch.Run
import FixBatch.Toml.Document

/-!
# FixBatch.Settings

The settings of the program: what its configuration file says, and what the command line puts in the
place of that.  A file has three sections, each of them optional, each of their keys optional; a key
that is not known, or a value of the wrong shape, is an error, never passed over.

* `Settings.ofTable` — the settings in the table of a document;
* `Settings.load` and `Settings.loadFrom` — the settings in a file, or beside where the program
  runs;
* `Settings.checkSettings`, `Settings.runSettings` — what checks and runs need of them.
-/

namespace FixBatch

/-- What a configuration file settles. -/
structure Settings where
  /-- The engine: a program and its leading arguments. -/
  command : List String
  policy : Policy
  ignoreTestFiles : Bool
  sourceSuffix : String
  /-- Whether imports are cleaned after calls that know no rules. -/
  cleanup : Bool
deriving DecidableEq, Repr

namespace Settings

/-- The settings where no file says anything. -/
def default : Settings where
  command := []
  policy := .proceed
  ignoreTestFiles := true
  sourceSuffix := ".java"
  cleanup := true

/-! ## Shapes of values -/

/-- Why a text has no settings: something is wrong at a place of it, which may have a text of its
own, or one of its keys is too long, which has no place. -/
inductive Misfit where
  | atPlace (detail : Option String)
  | keyTooLong
deriving DecidableEq, Repr

/-- Refuses a value of the wrong type. -/
def wrongType (v : Toml.Value) (expected : String) : Except Misfit α :=
  .error (.atPlace (v.described.map fun found => Schema.invalidType found expected))

def truth : Toml.Value → Except Misfit Bool
  | .bool b => .ok b
  | v => wrongType v "a boolean"

def string : Toml.Value → Except Misfit String
  | .text s => .ok s
  | v => wrongType v "a string"

/-- A list of strings. -/
def strings : Toml.Value → Except Misfit (List String)
  | .array items => items.mapM string
  | .tables elements => elements.reverse.mapM fun e => string (.table .header e)
  | v => wrongType v "a sequence"

/-- The words for policies. -/
def policies : List (String × Policy) := [("continue", .proceed), ("abort", .stop)]

/-- The policy of a word. -/
def policyOf (word : String) : Except Misfit Policy :=
  match policies.lookup word with
  | some p => .ok p
  | none => .error (.atPlace (some (Schema.unknownVariant word (policies.map Prod.fst))))

/-- A policy: its word, or a table with that word as its only key and nothing under it. -/
def policyValue : Toml.Value → Except Misfit Policy
  | .text word => policyOf word
  | .table _ [(word, v)] => do
    let p ← policyOf word
    match v with
    | .table _ [] | .array [] => return p
    | _ => throw (.atPlace none)
  | _ => .error (.atPlace none)

/-! ## Sections -/

/-- A key of a section, and what its value does to the settings. -/
structure Field where
  name : String
  put : Settings → Toml.Value → Except Misfit Settings

/-- A key whose value has a shape and a place. -/
def Field.of (name : String) (shape : Toml.Value → Except Misfit α)
    (place : Settings → α → Settings) : Field :=
  ⟨name, fun s v => (shape v).map (place s)⟩

/-- A section: its name in messages, and its keys in order. -/
structure Section where
  name : String
  fields : List Field

/-- The key under which dates appear where a section is expected. -/
def datetimeKey : String := "$__toml_private_datetime"

namespace Section

/-- Puts one entry of a table in its place. -/
def putEntry (sec : Section) (s : Settings) (entry : String × Toml.Value) :
    Except Misfit Settings :=
  match sec.fields.find? fun f => f.name == entry.1 with
  | some f => f.put s entry.2
  | none => .error (.atPlace (some (Schema.unknownField entry.1 (sec.fields.map Field.name))))

/-- Puts the entries of a table in their places, in the order of their keys. -/
def putTable (sec : Section) (s : Settings) (entries : Toml.Entries) : Except Misfit Settings :=
  (entries.mergeSort fun a b => decide (a.1 ≤ b.1)).foldlM sec.putEntry s

/-- Puts the items of an array in the places of the keys in order. -/
def putItems (sec : Section) (s : Settings) (items : List Toml.Value) : Except Misfit Settings :=
  (sec.fields.zip items).foldlM (fun s (f, v) => f.put s v) s

/-- Puts a section in its place. -/
def put (sec : Section) (s : Settings) : Toml.Value → Except Misfit Settings
  | .table _ entries => sec.putTable s entries
  | .array items => sec.putItems s items
  | .tables elements => sec.putItems s (elements.reverse.map (.table .header))
  | .datetime => sec.putEntry s (datetimeKey, .datetime)
  | v => wrongType v ("struct " ++ sec.name)

end Section

def engineSection : Section where
  name := "EngineConfig"
  fields := [.of "command" strings fun s command => { s with command }]

def dispatchSection : Section where
  name := "DispatchConfig"
  fields := [.of "on_error" policyValue fun s policy => { s with policy },
    .of "ignore_test_files" truth fun s ignoreTestFiles => { s with ignoreTestFiles },
    .of "source_suffix" string fun s sourceSuffix => { s with sourceSuffix }]

def cleanupSection : Section where
  name := "CleanupConfig"
  fields := [.of "enabled" truth fun s cleanup => { s with cleanup }]

/-- The sections of a file. -/
def sections : Section where
  name := "RulefixConfig"
  fields := [⟨"engine", engineSection.put⟩, ⟨"dispatch", dispatchSection.put⟩,
    ⟨"cleanup", cleanupSection.put⟩]

/-- The settings in the table of a document. -/
def ofTable (table : Toml.Entries) : Except Misfit Settings := sections.putTable default table

/-- The settings in the text of a document. -/
def parse (text : String) : Except Misfit Settings :=
  match Toml.read text.toList with
  | .ok table => ofTable table
  | .error .malformed => .error (.atPlace none)
  | .error .keyTooLong => .error .keyTooLong

/-! ## Files -/

/-- Why a file holds no settings: it cannot be read, or its text does not fit. -/
inductive LoadError where
  | unreadable (path : Path) (e : Files.Error)
  | misfit (path : Path) (m : Misfit)
deriving DecidableEq, Repr

/-- What is said of a text that does not fit, before its detail. -/
def misfitMessage : String := "invalid TOML"

/-- What is wrong at a place, where that has a text of its own. -/
def Misfit.detail : Misfit → Option String
  | atPlace detail => detail
  | keyTooLong => none

/-- What is said last of a text that does not fit. -/
def Misfit.message : Misfit → String
  | atPlace detail => "TOML parse error" ++ (detail.map fun detail => "\n" ++ detail).getD ""
  | keyTooLong => "recursion limit\n"

/-- The texts of an error and its causes, outermost first. -/
def LoadError.chain : LoadError → List String
  | unreadable path e => ["read config file " ++ path.text, e.message]
  | misfit path m => ["parse config file " ++ path.text, misfitMessage, m.message]

/-- The name of the file beside which the program runs. -/
def fileName : String := "rulefix.toml"

variable {m : Type → Type} [Monad m]

/-- The settings in a file. -/
def load (files : Files.Access m) (path : Path) : m (Except LoadError Settings) := do
  match ← files.readText path with
  | .error e => return .error (.unreadable path e)
  | .ok text =>
    match parse text with
    | .error misfit => return .error (.misfit path misfit)
    | .ok s => return .ok s

/-- The configuration file in a directory, if there is one. -/
def discover (exist : Path → m Bool) (dir : Path) : m (Option Path) := do
  let path := dir.join fileName
  if ← exist path then return some path else return none

/-- The settings in the configuration file of a directory, if there is one. -/
def loadFrom (exist : Path → m Bool) (files : Files.Access m) (dir : Path) :
    m (Except LoadError Settings) := do
  match ← discover exist dir with
  | some path => load files path
  | none => return .ok default

/-! ## The command line's say -/

/-- What the command line puts in the place of a file's settings.  An engine replaces the whole
command, leading arguments included. -/
def override (s : Settings) (engine : Option String) (policy : Option Policy) : Settings :=
  { s with
    command := match engine with | some program => [program] | none => s.command
    policy := policy.getD s.policy }

/-- What a plan is checked against. -/
def checkSettings (s : Settings) (legacy : Bool) : CheckSettings :=
  ⟨s.sourceSuffix, s.ignoreTestFiles, legacy⟩

/-- How a plan is carried out. -/
def runSettings (s : Settings) : RunSettings := ⟨s.policy, s.cleanup⟩

end Settings

end FixBatch
