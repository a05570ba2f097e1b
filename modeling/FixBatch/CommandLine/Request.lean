import FixBatch.CommandLine.Flag
import FixBatch.Settings
import FixBatch.Text.Terminal

/-!
# FixBatch.CommandLine.Request

What a command line asks of the program.  Flags are taken in one by one, and the first thing wrong
with them decides.  A value in a token of its own is only weighed when the next flag is taken in, or
at the end: a value that belongs nowhere, on the flag after it, is found first.

* `Request.parse` — what the arguments ask for, or why they are not carried out;
* `Refusal.styled` — what is wrong with them, as a terminal is to show it.
-/

namespace FixBatch.CommandLine

/-! ## The flags of the program -/

/-- What the flags of the program mean. -/
inductive Meaning where
  | config
  | engine
  | onError
  | legacy
  | dryRun
  | printPlan
  | report
  | help
  | version
deriving DecidableEq, Repr

namespace Meaning

/-- The flags in the order of the help. -/
def all : List Meaning :=
  [config, engine, onError, legacy, dryRun, printPlan, report, help, version]

/-- The name of a flag. -/
def name : Meaning → String
  | config => "config"
  | engine => "engine"
  | onError => "on-error"
  | legacy => "legacy"
  | dryRun => "dry-run"
  | printPlan => "print-plan"
  | report => "report"
  | help => "help"
  | version => "version"

/-- The character that stands for a flag. -/
def short? : Meaning → Option Char
  | help => some 'h'
  | version => some 'V'
  | _ => none

/-- What the value of a flag is called, if the flag takes one. -/
def valueName? : Meaning → Option String
  | config => some "CONFIG"
  | engine => some "ENGINE"
  | onError => some "ON_ERROR"
  | report => some "REPORT"
  | _ => none

/-- The value of a flag, as help and messages show it. -/
def valueShown (m : Meaning) : String := (m.valueName?.map fun v => " <" ++ v ++ ">").getD ""

/-- A flag and its value, as help and messages show them. -/
def shown (m : Meaning) : String := "--" ++ m.name ++ m.valueShown

def flag (m : Meaning) : Flag Meaning := ⟨m, some m.name, m.short?, m.valueName?.isSome⟩

end Meaning

/-- The flags of the program. -/
def programFlags : List (Flag Meaning) := Meaning.all.map Meaning.flag

/-! ## Refusals -/

/-- What is wrong with a command line. -/
inductive Refusal where
  | unexpectedValue (flag : Meaning) (value : String)
  | missingValue (flag : Meaning)
  | invalidValue (flag : Meaning) (value : String)
  | unknownFlag (shown : String)
  | repeatedFlag (flag : Meaning)
deriving DecidableEq, Repr

/-- The text of a refusal, as a terminal is to show it: what was given is emphasised, so a control
sequence that it leaves open ends with it. -/
def Refusal.styled (r : Refusal) : String :=
  let given (s : String) : String := "'" ++ Text.Terminal.emphasised s ++ "'"
  "error: " ++ match r with
    | unexpectedValue flag value =>
      "unexpected value " ++ given value ++ " for " ++ given flag.shown ++
        " found; no more were expected"
    | missingValue flag => "a value is required for " ++ given flag.shown ++ " but none was supplied"
    | invalidValue flag value => "invalid value " ++ given value ++ " for " ++ given flag.shown
    | unknownFlag shown => "unexpected argument " ++ given shown ++ " found"
    | repeatedFlag flag =>
      "the argument " ++ given flag.shown ++ " cannot be used multiple times"

/-- Why a command line is not carried out: it asks for help or for the version, or is refused. -/
inductive Answer where
  | help
  | version
  | refused (r : Refusal)
deriving DecidableEq, Repr

/-- The exit status after an answer. -/
def Answer.exitCode : Answer → UInt8
  | help | version => 0
  | refused _ => 2

/-! ## Values in tokens of their own -/

/-- Whether a token after a flag can be its value.  A token that calls a flag cannot: a known one
leaves the flag before it without a value, and an unknown one is an error of its own. -/
def checkOperand (flag : Meaning) (token : String) : Except Answer Unit :=
  if token = "--" then .error (.refused (.missingValue flag))
  else match token.toList with
    | '-' :: '-' :: _ =>
      match called? programFlags token, Calling.ofToken? token with
      | some (called, some value), _ =>
        .error (.refused <|
          if called.takesValue then .missingValue flag else .unexpectedValue called.meaning value)
      | some (_, none), _ => .error (.refused (.missingValue flag))
      | none, some (.long name _) => .error (.refused (.unknownFlag ("--" ++ name)))
      | none, _ => .ok ()
    | '-' :: c :: _ =>
      .error (.refused <|
        if programFlags.any (·.isCalled (.short c)) then .missingValue flag
        else .unknownFlag (String.ofList ['-', c]))
    | _ => .ok ()

/-! ## Taking flags in -/

/-- The flags taken in, each with its value; and a flag whose value still has to be weighed. -/
structure Taken where
  settled : List (Meaning × String)
  pending : Option (Meaning × String)

namespace Taken

/-- Takes in a flag and its value: no flag twice, and only known words for policies. -/
def settle (settled : List (Meaning × String)) (flag : Meaning) (value : String) :
    Except Answer (List (Meaning × String)) :=
  if (settled.lookup flag).isSome then .error (.refused (.repeatedFlag flag))
  else if flag = .onError && (Settings.policies.lookup value).isNone then
    .error (.refused (if value.isEmpty then .missingValue flag else .invalidValue flag value))
  else .ok (settled ++ [(flag, value)])

/-- The flags taken in, with nothing left to weigh. -/
def weighed (t : Taken) : Except Answer (List (Meaning × String)) :=
  match t.pending with
  | none => .ok t.settled
  | some (flag, value) => settle t.settled flag value

/-- Takes in one flag. -/
def add (t : Taken) (g : Given Meaning) : Except Answer Taken :=
  let flag := g.flag.meaning
  match g.flag.takesValue, g.attached, g.operand with
  | false, some value, _ => .error (.refused (.unexpectedValue flag value))
  | false, none, _ => do
    let settled ← t.weighed
    match flag with
    | .help => .error .help
    | .version => .error .version
    | _ => return ⟨← settle settled flag "", none⟩
  | true, some value, _ => do return ⟨← settle (← t.weighed) flag value, none⟩
  | true, none, none => do
    let _ ← t.weighed
    .error (.refused (.missingValue flag))
  | true, none, some operand => do
    let settled ← t.weighed
    checkOperand flag operand
    return ⟨settled, some (flag, operand)⟩

end Taken

/-! ## Requests -/

/-- What a command line asks for. -/
structure Request where
  config : Option Path
  engine : Option String
  onError : Option Policy
  legacy : Bool
  dryRun : Bool
  printPlan : Bool
  report : Option Path
  /-- The tokens that are no flag's: paths and options. -/
  args : List String
deriving DecidableEq, Repr

namespace Request

/-- The request of some flags and arguments. -/
def of (settled : List (Meaning × String)) (args : List String) : Request where
  config := (settled.lookup .config).map Path.mk
  engine := settled.lookup .engine
  onError := (settled.lookup .onError).bind fun word => Settings.policies.lookup word
  legacy := (settled.lookup .legacy).isSome
  dryRun := (settled.lookup .dryRun).isSome
  printPlan := (settled.lookup .printPlan).isSome
  report := (settled.lookup .report).map Path.mk
  args := args

/-- What some arguments ask for. -/
def parse (args : List String) : Except Answer Request := do
  let taken ← (givenFlags programFlags args).foldlM Taken.add ⟨[], none⟩
  return of (← taken.weighed) (plainTokens programFlags args)

end Request

end FixBatch.CommandLine
