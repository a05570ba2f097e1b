import FixBatch.Distinct
import FixBatch.Path
import FixBatch.Selection
import FixBatch.Text.Segments
import FixBatch.UsageError

/-!
# FixBatch.Options

Arguments as paths and options.  A token that starts with two dashes is an option, bare or with a
value after its first equals sign; every other token is a path.  Reading never fails: options that
nothing asks for stay unread, and of several options of one name the first counts:

* `Arguments.parse` — every token goes to exactly one side;
* `Options.lookup_ofList` — an option's value is that of its first occurrence.
-/

namespace FixBatch

/-! ## Values of options -/

/-- Reads a truth value: `true` in letters of any case, and nothing else, is true. -/
def permissiveBool (raw : String) : Bool := raw.toList.map Char.toLower == ['t', 'r', 'u', 'e']

/-- Reads a list: the non-empty stretches between commas, repeats left out. -/
def splitList (raw : String) : Distinct String :=
  .ofList (((Text.segments (· == ',') raw.toList).filter (!·.isEmpty)).map String.ofList)

/-! ## Options by name -/

/-- Options and their values, in the order of arrival, each name once.  A bare option has no
value. -/
structure Options where
  entries : List (String × Option String)
deriving DecidableEq, Repr

namespace Options

/-- The value of an option, if the option is there at all. -/
def lookup (o : Options) (name : String) : Option (Option String) := o.entries.lookup name

/-- Whether an option is there. -/
def contains (o : Options) (name : String) : Bool := (o.lookup name).isSome

/-- Adds an option unless there is one of its name. -/
def insert (o : Options) (entry : String × Option String) : Options :=
  if o.contains entry.1 then o else ⟨o.entries ++ [entry]⟩

/-- Collects options; of several of one name the first stays. -/
def ofList (entries : List (String × Option String)) : Options := entries.foldl insert ⟨[]⟩

/-- The text of an option; absent and bare options have none. -/
def raw (o : Options) (name : String) : Option String := (o.lookup name).join

/-- The list an option holds; absent and bare options hold none. -/
def list (o : Options) (name : String) : Distinct String :=
  ((o.raw name).map splitList).getD .empty

/-- The truth value of an option: `absent` if it is not there, false if it is bare. -/
def truth (o : Options) (name : String) (absent : Bool) : Bool :=
  match o.lookup name with
  | none => absent
  | some value => permissiveBool (value.getD "")

/-- The options in the order of their names. -/
def sorted (o : Options) : List (String × Option String) :=
  o.entries.mergeSort fun a b => decide (a.1 ≤ b.1)

theorem lookup_insert (o : Options) (entry : String × Option String) (name : String) :
    (o.insert entry).lookup name =
      (o.lookup name).or (if name = entry.1 then some entry.2 else none) := by
  obtain ⟨n, v⟩ := entry
  by_cases h : o.contains n = true
  · rw [insert, if_pos h]
    by_cases hn : name = n
    · subst hn
      cases hl : o.lookup name with
      | none => simp [contains, hl] at h
      | some => simp
    · simp [hn]
  · rw [insert, if_neg h]
    simp only [lookup, List.lookup_append]
    by_cases hn : name = n
    · simp [hn]
    · simp [hn, List.lookup_cons, beq_false_of_ne hn]

/-- An option's value is that of its first occurrence. -/
theorem lookup_ofList (entries : List (String × Option String)) (name : String) :
    (ofList entries).lookup name = entries.lookup name := by
  suffices h : ∀ (l : List (String × Option String)) (o : Options),
      (l.foldl insert o).lookup name = (o.lookup name).or (l.lookup name) by
    simpa [lookup, ofList] using h entries ⟨[]⟩
  intro l
  induction l with
  | nil => simp
  | cons entry l ih =>
    intro o
    rw [List.foldl_cons, ih, lookup_insert]
    obtain ⟨n, v⟩ := entry
    by_cases hn : name = n
    · cases o.lookup name <;> simp [hn]
    · cases o.lookup name <;> simp [hn, List.lookup_cons, beq_false_of_ne hn]

end Options

/-! ## The names that mean something -/

/-- The option that names the only rules to apply. -/
def rulesOption : String := "rules"

/-- The option that names the rules to leave out. -/
def excludeRulesOption : String := "excludeRules"

/-- The option that says whether directories skip their test files. -/
def ignoreTestFilesOption : String := "ignoreTestFiles"

/-- The selection that options ask for.  An empty list asks for nothing, and two lists contradict
each other. -/
def Selection.ofOptions (o : Options) : Except UsageError Selection :=
  let only := (o.list rulesOption).toList
  let allBut := (o.list excludeRulesOption).toList
  match only.isEmpty, allBut.isEmpty with
  | true, true => .ok .all
  | false, true => .ok (.only only)
  | true, false => .ok (.allBut allBut)
  | false, false => .error .rulesExcludeEachOther

/-! ## Tokens -/

/-- One argument. -/
inductive Token where
  | path (path : Path)
  | option (name : String) (value : Option String)
deriving DecidableEq, Repr

namespace Token

/-- Reads one argument. -/
def ofString (s : String) : Token :=
  match s.toList with
  | '-' :: '-' :: rest =>
    match Text.cutAt '=' rest with
    | some (name, value) => option (String.ofList name) (some (String.ofList value))
    | none => option (String.ofList rest) none
  | _ => path ⟨s⟩

def path? : Token → Option Path
  | path p => some p
  | option .. => none

def option? : Token → Option (String × Option String)
  | path _ => none
  | option name value => some (name, value)

end Token

/-- The paths and the options of some arguments. -/
structure Arguments where
  paths : Distinct Path
  options : Options

/-- Reads arguments, paths and options in any order. -/
def Arguments.parse (args : List String) : Arguments where
  paths := .ofList ((args.map Token.ofString).filterMap Token.path?)
  options := .ofList ((args.map Token.ofString).filterMap Token.option?)

end FixBatch
