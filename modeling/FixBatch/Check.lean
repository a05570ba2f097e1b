import FixBatch.Options
import FixBatch.Plan
import FixBatch.UsageError

/-!
# FixBatch.Check

From arguments to a plan.  A probe says what stands at a path, and classifies the paths once; the
checks run in a fixed order and the first that fails decides: there are paths, every path exists,
every file is a writable source, the rule options do not contradict each other.
-/

namespace FixBatch

/-! ## Probes -/

/-- What stands at a path, and what may be done with it. -/
structure Standing where
  kind : Option Kind
  readable : Bool
  writable : Bool
deriving DecidableEq, Repr

/-- Nothing stands here. -/
def Standing.absent : Standing := ⟨none, false, false⟩

/-- What stands at each path. -/
abbrev Probe := Path → Standing

/-- A probe that knows some paths by their spelling; nothing stands anywhere else. -/
def Probe.ofList (known : List (Path × Standing)) : Probe := fun p =>
  ((known.find? fun k => k.1.text == p.text).map Prod.snd).getD .absent

/-! ## Classification -/

/-- A path and what was found there, if anything. -/
structure Probed where
  path : Path
  kind : Option Kind
deriving DecidableEq, Repr

/-- Some paths and what was found at each of them, in their order. -/
structure Classification where
  entries : List Probed
deriving DecidableEq, Repr

namespace Classification

/-- The paths with nothing there. -/
def missing (c : Classification) : List Path :=
  (c.entries.filter fun e => e.kind.isNone).map Probed.path

/-- The paths that are files. -/
def files (c : Classification) : List Path :=
  (c.entries.filter fun e => e.kind == some .file).map Probed.path

/-- The paths with something there, and what it is. -/
def targets (c : Classification) : List Target :=
  c.entries.filterMap fun e => e.kind.map (⟨e.path, ·⟩)

end Classification

/-- Asks a probe what stands at some paths. -/
def classify (probe : Probe) (paths : List Path) : Classification :=
  ⟨paths.map fun p => ⟨p, (probe p).kind⟩⟩

theorem missing_classify (probe : Probe) (paths : List Path) :
    (classify probe paths).missing = paths.filter fun p => (probe p).kind.isNone := by
  simp [classify, Classification.missing, List.filter_map, Function.comp_def]

theorem files_classify (probe : Probe) (paths : List Path) :
    (classify probe paths).files = paths.filter fun p => (probe p).kind == some .file := by
  simp [classify, Classification.files, List.filter_map, Function.comp_def]

theorem targets_classify (probe : Probe) (paths : List Path) :
    (classify probe paths).targets = paths.filterMap fun p => (probe p).kind.map (⟨p, ·⟩) :=
  List.filterMap_map

/-! ## Checks -/

/-- What a plan is checked against. -/
structure CheckSettings where
  /-- The ending that every file must have. -/
  sourceSuffix : String
  /-- Whether test files are skipped when no option says so. -/
  ignoreTestFiles : Bool
  /-- Whether the plan makes no selection. -/
  legacy : Bool
deriving DecidableEq, Repr

/-- The first thing wrong with a file. -/
def fileFault? (settings : CheckSettings) (probe : Probe) (path : Path) : Option FileFault :=
  if !settings.sourceSuffix.toList.isSuffixOf path.text.toList then
    some (.wrongSuffix settings.sourceSuffix)
  else if !(probe path).readable then some .notReadable
  else if !(probe path).writable then some .notWritable
  else none

/-- The first of some files with a fault, and the fault. -/
def invalidFile? (settings : CheckSettings) (probe : Probe) (files : List Path) :
    Option (Path × FileFault) :=
  files.findSome? fun p => (fileFault? settings probe p).map (p, ·)

/-- The selection for a plan: none in legacy runs, else what the options ask for. -/
def selectionFor (settings : CheckSettings) (options : Options) :
    Except UsageError (Option Selection) :=
  if settings.legacy then .ok none else (Selection.ofOptions options).map some

/-- The plan for some arguments, or the first check that fails. -/
def checkArguments (settings : CheckSettings) (probe : Probe) (args : Arguments) :
    Except UsageError Plan :=
  if args.paths.isEmpty then .error .noPaths
  else
    let found := classify probe args.paths.toList
    match found.missing.head? with
    | some path => .error (.pathNotFound path)
    | none =>
      match invalidFile? settings probe found.files with
      | some (path, fault) => .error (.invalidFile path fault)
      | none => do
        let selection ← selectionFor settings args.options
        return .make found.targets selection
          (args.options.truth ignoreTestFilesOption settings.ignoreTestFiles)

/-- The plan for an argument list. -/
def buildPlan (settings : CheckSettings) (probe : Probe) (args : List String) :
    Except UsageError Plan :=
  checkArguments settings probe (.parse args)

/-- The warning for arguments that became a plan: a legacy run has no use for rule options. -/
def planWarnings (settings : CheckSettings) (options : Options) : List String :=
  if settings.legacy && (options.contains rulesOption || options.contains excludeRulesOption) then
    ["rule options are ignored in legacy mode"]
  else []

end FixBatch
