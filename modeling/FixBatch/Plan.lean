import FixBatch.Distinct
import FixBatch.Path
import FixBatch.Selection

/-!
# FixBatch.Plan

What a run will do: the paths it treats, each with what stands there, and the rules it applies.  A
plan holds each place once; `targets_make` says which of several targets of one place stays.
-/

namespace FixBatch

/-- What stands at a path; everything that is no directory counts as a file. -/
inductive Kind where
  | file
  | directory
deriving DecidableEq, Repr

/-- The word for a kind in plans. -/
def Kind.word : Kind → String
  | file => "file"
  | directory => "directory"

/-- A path to treat.  `==` asks whether two targets are the same place. -/
structure Target where
  path : Path
  kind : Kind
deriving DecidableEq, Repr

namespace Target

instance : BEq Target := ⟨fun s t => s.path == t.path⟩

instance : Hashable Target := ⟨fun t => hash t.path⟩

theorem beq_iff (s t : Target) : (s == t) = (s.path == t.path) := rfl

instance : EquivBEq Target where
  rfl := by simp [beq_iff]
  symm h := BEq.symm (α := Path) h
  trans h k := BEq.trans (α := Path) h k

instance : LawfulHashable Target where
  hash_eq s t h := LawfulHashable.hash_eq s.path t.path h

end Target

/-- Targets of which no two are the same place: of several, the first stays. -/
def distinctTargets (targets : List Target) : List Target := (Distinct.ofList targets).toList

/-- A selection without the rules that repeat an earlier one. -/
def Selection.once : Selection → Selection
  | all => all
  | only rules => only (Distinct.ofList rules).toList
  | allBut rules => allBut (Distinct.ofList rules).toList

theorem Selection.rules_once (s : Selection) : s.once.rules = firstOccurrences s.rules := by
  cases s with
  | all => rfl
  | only rules | allBut rules => exact Distinct.toList_ofList rules

theorem Selection.nodup_rules_once (s : Selection) : s.once.rules.Nodup := by
  cases s with
  | all => exact .nil
  | only rules | allBut rules => exact (Distinct.ofList rules).nodup

/-- What a plan is made from.  Without a selection every path gets the single treatment that knows
no rules. -/
structure Plan.Draft where
  schema : String
  targets : List Target
  selection : Option Selection
  ignoreTestFiles : Bool
deriving DecidableEq, Repr

/-- What a run will do: no place stands in a plan twice, and no rule in its selection. -/
structure Plan extends Plan.Draft where
  places_distinct : targets.Pairwise fun s t => (s == t) = false
  rules_nodup : ∀ s ∈ selection, s.rules.Nodup
deriving DecidableEq, Repr

namespace Plan

/-- The name of the form in which plans are written. -/
def schemaName : String := "rulefix.plan.v1"

/-- The plan of a draft; of several targets of one place the first stays, and every rule stays
once. -/
def Draft.plan (draft : Draft) : Plan where
  schema := draft.schema
  targets := distinctTargets draft.targets
  selection := draft.selection.map Selection.once
  ignoreTestFiles := draft.ignoreTestFiles
  places_distinct := (Distinct.ofList draft.targets).pairwise
  rules_nodup := by
    intro s hs
    obtain ⟨given, -, rfl⟩ := Option.map_eq_some_iff.mp hs
    exact given.nodup_rules_once

theorem Draft.targets_plan (draft : Draft) : draft.plan.targets = firstOccurrences draft.targets :=
  Distinct.toList_ofList draft.targets

/-- A plan for some targets; of several of one place the first stays. -/
def make (targets : List Target) (selection : Option Selection) (ignoreTestFiles : Bool) : Plan :=
  Draft.plan ⟨schemaName, targets, selection, ignoreTestFiles⟩

theorem targets_make (targets : List Target) (selection : Option Selection) (ignore : Bool) :
    (make targets selection ignore).targets = firstOccurrences targets :=
  Draft.targets_plan _

/-- The mode of a plan. -/
def mode (p : Plan) : Mode := (p.selection.map Selection.mode).getD .legacy

/-- The rules of a plan, if it selects any. -/
def rules (p : Plan) : Option (List String) := p.selection.map Selection.rules

theorem Draft.rules_plan (draft : Draft) :
    draft.plan.rules = draft.selection.map (firstOccurrences ·.rules) := by
  simp only [rules, plan, Option.map_map]
  exact congrArg (draft.selection.map ·) (funext Selection.rules_once)

/-- The paths of one kind, in the order of the plan. -/
def pathsOf (p : Plan) (kind : Kind) : List Path :=
  (p.targets.filter fun t => t.kind == kind).map Target.path

def directories (p : Plan) : List Path := p.pathsOf .directory

def files (p : Plan) : List Path := p.pathsOf .file

end Plan

end FixBatch
