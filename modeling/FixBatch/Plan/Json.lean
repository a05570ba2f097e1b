import FixBatch.Json.Decode
import FixBatch.Json.Value
import FixBatch.Plan

/-!
# FixBatch.Plan.Json

The JSON form of plans.  A plan without a selection is written without the member for it; a
selection names its mode and, unless all rules apply, its rules, in either order when it is read.

* `Plan.toJson` and `Plan.decoder` — a plan, written and read;
* `Selection.decoder` — its reading goes by the mode, wherever in the object that stands.
-/

namespace FixBatch

open Json

/-! ## Targets -/

/-- The words for kinds. -/
def Kind.known : List (String × Kind) :=
  [(Kind.file.word, .file), (Kind.directory.word, .directory)]

def Kind.decoder : Decoder Kind := words known

def Path.toJson (p : Path) : Value := .text p.text

def Path.decoder : Decoder Path := fun d => (string "a UTF-8 path string" d).map Path.mk

def Target.toJson (t : Target) : Value :=
  .object [("path", t.path.toJson), ("kind", .text t.kind.word)]

/-- The form of targets. -/
def Target.record : Record where
  name := "ClassifiedPath"
  fields := [.of "path" Path.decoder, .of "kind" Kind.decoder]

def Target.decoder : Decoder Target := fun d => do
  let found ← record.read d
  let path ← found.get "path" Path.decoder
  let kind ← found.get "kind" Kind.decoder
  return ⟨path, kind⟩

/-- Reads targets; of several of one place the first stays. -/
def targetsDecoder : Decoder (List Target) := fun d => (array Target.decoder d).map distinctTargets

/-! ## Selections -/

/-- A selection without its rules. -/
inductive SelectionTag where
  | all
  | only
  | allBut
deriving DecidableEq, Repr

/-- Reads rule names; of several equal ones the first stays. -/
def rulesDecoder : Decoder (List String) := fun d =>
  (array (string "a string") d).map fun l => (Distinct.ofList l).toList

namespace SelectionTag

/-- The words for selections. -/
def known : List (String × SelectionTag) :=
  [("all_rules", .all), ("include_only", .only), ("exclude_only", .allBut)]

/-- Reads what stands under `rules`. -/
def content : SelectionTag → Decoder Selection
  | all => fun d => (unit "unit variant RuleSelection::AllRules" d).map fun _ => .all
  | only => fun d => (rulesDecoder d).map .only
  | allBut => fun d => (rulesDecoder d).map .allBut

/-- The selection when nothing stands under `rules`. -/
def alone : SelectionTag → Except Error Selection
  | all => .ok .all
  | only | allBut => .error (.data (Schema.missingField "rules"))

end SelectionTag

namespace Selection

def toJson : Selection → Value
  | all => .object [("mode", .text "all_rules")]
  | only rules => .object [("mode", .text "include_only"), ("rules", .texts rules)]
  | allBut rules => .object [("mode", .text "exclude_only"), ("rules", .texts rules)]

/-- The two members of a selection. -/
inductive Part where
  | mode
  | rules

/-- The name of a member. -/
def Part.name : Part → String
  | mode => "mode"
  | rules => "rules"

/-- The next member of a selection, with what stands under it and after it. -/
def nextPart : Members → Except Error (Option (Part × Doc × Members))
  | .closed => .ok none
  | .broken f => .error f.toError
  | .stray d => .error (strayFault d).toError
  | .member key value rest => do
    let name ← key.get
    if name == Part.mode.name.toList then return some (.mode, value, rest)
    else if name == Part.rules.name.toList then return some (.rules, value, rest)
    else
      noFault value.scan
      nextPart rest

/-- Ends a selection whose members are both known. -/
def finish (s : Selection) (rest : Members) : Except Error Selection := do
  match ← nextPart rest with
  | none => return s
  | some (part, _) => throw (.data (Schema.duplicateField part.name))

/-- Reads the members of a selection below some opened brackets.  Rules that come before the mode
are kept until the mode is known. -/
def readMembers (depth : Nat) (members : Members) : Except Error Selection := do
  match ← nextPart members with
  | none => throw (.data (Schema.missingField "mode"))
  | some (.mode, modeDoc, rest) =>
    let tag ← words SelectionTag.known modeDoc
    match ← nextPart rest with
    | none => tag.alone
    | some (.mode, _) => throw (.data (Schema.duplicateField "mode"))
    | some (.rules, rulesDoc, rest) => finish (← tag.content rulesDoc) rest
  | some (.rules, rulesDoc, rest) =>
    noFault (rulesDoc.keep depth)
    match ← nextPart rest with
    | none => throw (.data (Schema.missingField "mode"))
    | some (.rules, _) => throw (.data (Schema.duplicateField "rules"))
    | some (.mode, modeDoc, rest) =>
      let tag ← words SelectionTag.known modeDoc
      finish (← tag.content rulesDoc) rest

/-- What a selection is in messages. -/
def expected : String := "adjacently tagged enum RuleSelection"

/-- Reads a selection that is an array of its mode and its rules. -/
def readItems : Items → Except Error Selection
  | .broken f => .error f.toError
  | .closed => .error (.data (Schema.invalidLength 0 expected))
  | .item modeDoc rest => do
    let word ← string "variant identifier" modeDoc
    let tag ← ofWord SelectionTag.known word.toList
    match rest with
    | .closed => throw (.data (Schema.invalidLength 1 expected))
    | .broken f => throw f.toError
    | .item rulesDoc rest =>
      let s ← tag.content rulesDoc
      match rest with
      | .closed => return s
      | .broken f => throw f.toError
      | .item .. => throw .malformed

/-- Reads a selection that stands below some opened brackets. -/
def decoder (depth : Nat) : Decoder Selection
  | .object members => readMembers (depth + 1) members
  | .array items => readItems items
  | d => wrongType d expected

end Selection

/-! ## Plans -/

namespace Plan

def toJson (p : Plan) : Value :=
  .object <|
    [("schema", .text p.schema), ("paths", .array (p.targets.map Target.toJson))] ++
      (p.selection.map fun s => ("rule_selection", s.toJson)).toList ++
      [("ignore_test_files", .bool p.ignoreTestFiles)]

/-- Reads the selection of a plan; null is none. -/
def selectionDecoder : Decoder (Option Selection) := nullable (Selection.decoder 1)

/-- The form of plans. -/
def record : Record where
  name := "ExecutionPlan"
  fields := [.of "schema" (string "a string"), .of "paths" targetsDecoder,
    (.of "rule_selection" selectionDecoder : Field).optional, .of "ignore_test_files" truth]

/-- Reads what a plan is made from. -/
def Draft.decoder : Decoder Draft := fun d => do
  let found ← record.read d
  let schema ← found.get "schema" (string "a string")
  let targets ← found.get "paths" targetsDecoder
  let selection ← found.getD "rule_selection" selectionDecoder none
  let ignoreTestFiles ← found.get "ignore_test_files" truth
  return ⟨schema, targets, selection, ignoreTestFiles⟩

def decoder : Decoder Plan := fun d => (Draft.decoder d).map Draft.plan

end Plan

end FixBatch
