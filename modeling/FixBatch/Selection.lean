/-!
# FixBatch.Selection

Which rules the engine applies, and the word for it.  A run without a selection makes one call per
path through the engine's single entry point and is in the mode `legacy`.
-/

namespace FixBatch

/-- The rules to apply.  Rule names are opaque and keep their order. -/
inductive Selection where
  | all
  | only (rules : List String)
  | allBut (rules : List String)
deriving DecidableEq, Repr

/-- How a run treats its paths. -/
inductive Mode where
  | all
  | including
  | excluding
  | legacy
deriving DecidableEq, Repr

namespace Mode

/-- The word for a mode in reports. -/
def word : Mode → String
  | all => "all"
  | including => "include"
  | excluding => "exclude"
  | legacy => "legacy"

/-- Different modes have different words. -/
theorem word_injective {m n : Mode} (h : m.word = n.word) : m = n := by
  cases m <;> cases n <;> simp_all [word]

end Mode

namespace Selection

/-- The mode of a selection. -/
def mode : Selection → Mode
  | all => .all
  | only _ => .including
  | allBut _ => .excluding

/-- The rules a selection names; all rules need no names. -/
def rules : Selection → List String
  | all => []
  | only rules | allBut rules => rules

end Selection

end FixBatch
