import FixBatch.Check
import FixBatch.Proofs.Except
import FixBatch.Proofs.Plan.Targets

/-!
# FixBatch.Proofs.Check

Which arguments become a plan.  `Acceptable` says what the checks ask for all at once, `Refused`
which of them fails first, and `IsPlanOf` what a plan takes over from its arguments; none of the
three speaks of the order in which anything is computed.

* `fileFault?_eq_some_iff`, `head?_missing_eq_some_iff`, `invalidFile?_eq_some_iff` — what each
  check finds;
* `map_path_targets_classify` — paths with something there are targets, one for one;
* `checkArguments_iff` — which arguments become a plan and which plan, and which error the others
  meet.
-/

namespace FixBatch

/-! ## what the checks ask for -/

/-- Whether the text of a path ends as sources do. -/
def Path.EndsIn (path : Path) (suffix : String) : Prop := ∃ stem, path.text = stem ++ suffix

/-- The first element of a list with some property. -/
def IsFirst (p : α → Prop) (l : List α) (a : α) : Prop :=
  p a ∧ ∃ before after, l = before ++ a :: after ∧ ∀ b ∈ before, ¬p b

variable (settings : CheckSettings) (probe : Probe)

/-- A file that can be treated. -/
structure IsSource (path : Path) : Prop where
  endsIn : path.EndsIn settings.sourceSuffix
  readable : (probe path).readable = true
  writable : (probe path).writable = true

/-- A file that cannot be treated. -/
def IsFaulty (path : Path) : Prop :=
  (probe path).kind = some .file ∧ ¬IsSource settings probe path

/-- The first fault of a file: its name comes before its rights, and reading before writing. -/
inductive HasFault (path : Path) : FileFault → Prop where
  | wrongSuffix (hname : ¬path.EndsIn settings.sourceSuffix) :
      HasFault path (.wrongSuffix settings.sourceSuffix)
  | notReadable (hname : path.EndsIn settings.sourceSuffix)
      (hread : (probe path).readable = false) : HasFault path .notReadable
  | notWritable (hname : path.EndsIn settings.sourceSuffix)
      (hread : (probe path).readable = true) (hwrite : (probe path).writable = false) :
      HasFault path .notWritable

/-- The rules that are asked for, and the rules that are to be left out. -/
def Options.ruleLists (options : Options) : List String × List String :=
  ((options.list rulesOption).toList, (options.list excludeRulesOption).toList)

/-- Arguments that can become a plan. -/
structure Acceptable (paths : List Path) (options : Options) : Prop where
  given : paths ≠ []
  present : ∀ path ∈ paths, (probe path).kind ≠ none
  sources : ∀ path ∈ paths, (probe path).kind = some .file → IsSource settings probe path
  consistent : settings.legacy = true ∨ options.ruleLists.1 = [] ∨ options.ruleLists.2 = []

/-- The first check that fails: there are paths, each of them exists, each file can be treated, and
the rule options do not contradict each other. -/
inductive Refused (paths : List Path) (options : Options) : UsageError → Prop where
  | noPaths (hpaths : paths = []) : Refused paths options .noPaths
  | pathNotFound {path : Path} (hfirst : IsFirst (fun p => (probe p).kind = none) paths path) :
      Refused paths options (.pathNotFound path)
  | invalidFile {path : Path} {fault : FileFault}
      (hpresent : ∀ p ∈ paths, (probe p).kind ≠ none)
      (hfirst : IsFirst (IsFaulty settings probe) paths path)
      (hfault : HasFault settings probe path fault) :
      Refused paths options (.invalidFile path fault)
  | rulesExcludeEachOther (hpaths : paths ≠ []) (hpresent : ∀ p ∈ paths, (probe p).kind ≠ none)
      (hsources : ∀ p ∈ paths, (probe p).kind = some .file → IsSource settings probe p)
      (hlegacy : settings.legacy = false) (honly : options.ruleLists.1 ≠ [])
      (hallBut : options.ruleLists.2 ≠ []) :
      Refused paths options .rulesExcludeEachOther

/-- The selection that rule lists ask for; a legacy run makes none. -/
inductive Selects (legacy : Bool) : List String × List String → Option Selection → Prop where
  | legacy {lists : List String × List String} (h : legacy = true) : Selects legacy lists none
  | all (h : legacy = false) : Selects legacy ([], []) (some .all)
  | only {rules : List String} (h : legacy = false) (hrules : rules ≠ []) :
      Selects legacy (rules, []) (some (.only rules))
  | allBut {rules : List String} (h : legacy = false) (hrules : rules ≠ []) :
      Selects legacy ([], rules) (some (.allBut rules))

/-- What a plan takes over from its arguments: all paths in their spelling and their order, each
with what stands there, the selection, and whether test files are skipped. -/
structure IsPlanOf (paths : List Path) (options : Options) (plan : Plan) : Prop where
  schema_eq : plan.schema = Plan.schemaName
  paths_eq : plan.targets.map Target.path = paths
  kind_eq : ∀ target ∈ plan.targets, (probe target.path).kind = some target.kind
  selects : Selects settings.legacy options.ruleLists plan.selection
  ignoreTestFiles_eq : plan.ignoreTestFiles =
    match options.lookup ignoreTestFilesOption with
    | none => settings.ignoreTestFiles
    | some none => false
    | some (some value) => permissiveBool value

/-! ## single checks -/

variable {settings : CheckSettings} {probe : Probe} {paths : List Path} {path : Path}
  {fault : FileFault}

theorem endsIn_iff {suffix : String} :
    path.EndsIn suffix ↔ suffix.toList.isSuffixOf path.text.toList = true := by
  rw [List.isSuffixOf_iff_suffix]
  constructor
  · rintro ⟨stem, h⟩
    exact ⟨stem.toList, by rw [h, String.toList_append]⟩
  · rintro ⟨stem, h⟩
    refine ⟨String.ofList stem, String.toList_injective ?_⟩
    rw [String.toList_append, String.toList_ofList, h]

theorem not_endsIn_iff {suffix : String} :
    ¬path.EndsIn suffix ↔ suffix.toList.isSuffixOf path.text.toList = false := by
  rw [endsIn_iff, Bool.not_eq_true]

/-- The check of a file finds its first fault. -/
theorem fileFault?_eq_some_iff :
    fileFault? settings probe path = some fault ↔ HasFault settings probe path fault := by
  constructor
  · intro h
    simp only [fileFault?, Bool.not_eq_true'] at h
    split at h
    · next hname => cases h; exact .wrongSuffix (not_endsIn_iff.mpr hname)
    next hname =>
      have hends := endsIn_iff.mpr (Bool.of_not_eq_false hname)
      split at h
      · next hread => cases h; exact .notReadable hends hread
      next hread =>
        split at h
        · next hwrite => cases h; exact .notWritable hends (Bool.of_not_eq_false hread) hwrite
        · cases h
  · rintro (hname | ⟨hname, hread⟩ | ⟨hname, hread, hwrite⟩)
    · simp [fileFault?, not_endsIn_iff.mp hname]
    · simp [fileFault?, endsIn_iff.mp hname, hread]
    · simp [fileFault?, endsIn_iff.mp hname, hread, hwrite]

/-- A file has a fault unless it can be treated. -/
theorem fileFault?_eq_none_iff :
    fileFault? settings probe path = none ↔ IsSource settings probe path := by
  constructor
  · intro h
    have hno (fault : FileFault) : ¬HasFault settings probe path fault := by
      rw [← fileFault?_eq_some_iff, h]; rintro ⟨⟩
    have hname : path.EndsIn settings.sourceSuffix := by
      by_contra hname; exact hno _ (.wrongSuffix hname)
    have hread : (probe path).readable = true := by
      by_contra hread; exact hno _ (.notReadable hname (by simpa using hread))
    have hwrite : (probe path).writable = true := by
      by_contra hwrite; exact hno _ (.notWritable hname hread (by simpa using hwrite))
    exact ⟨hname, hread, hwrite⟩
  · rintro ⟨hname, hread, hwrite⟩
    simp only [fileFault?, endsIn_iff.mp hname, hread, hwrite, Bool.not_true, Bool.false_eq_true,
      if_false]

theorem head?_missing (probe : Probe) (paths : List Path) :
    (classify probe paths).missing.head? = paths.find? fun p => (probe p).kind.isNone := by
  rw [missing_classify, List.head?_filter]

theorem head?_missing_eq_some_iff :
    (classify probe paths).missing.head? = some path ↔
      IsFirst (fun p => (probe p).kind = none) paths path := by
  simp only [head?_missing, List.find?_eq_some_iff_append, IsFirst, Option.isNone_iff_eq_none,
    Bool.not_eq_true', Option.isNone_eq_false_iff, Option.isSome_iff_ne_none]

theorem head?_missing_eq_none_iff :
    (classify probe paths).missing.head? = none ↔ ∀ p ∈ paths, (probe p).kind ≠ none := by
  rw [head?_missing, List.find?_eq_none]
  simp

/-- A search among the files is a search among all paths. -/
theorem invalidFile?_eq_findSome? (paths : List Path) :
    invalidFile? settings probe (classify probe paths).files = paths.findSome? fun p =>
      if (probe p).kind = some .file then (fileFault? settings probe p).map (p, ·) else none := by
  rw [invalidFile?, files_classify]
  induction paths with
  | nil => rfl
  | cons p paths ih =>
    by_cases hfile : (probe p).kind = some .file
    · rw [List.filter_cons_of_pos (by simp [hfile]), List.findSome?_cons, List.findSome?_cons, ih,
        if_pos hfile]
    · rw [List.filter_cons_of_neg (by simp [hfile]), List.findSome?_cons, ih, if_neg hfile]

/-- The check of the files finds the first file with a fault. -/
theorem invalidFile?_eq_some_iff :
    invalidFile? settings probe (classify probe paths).files = some (path, fault) ↔
      IsFirst (IsFaulty settings probe) paths path ∧ HasFault settings probe path fault := by
  have hstep (p : Path) : (if (probe p).kind = some .file then
      (fileFault? settings probe p).map (p, ·) else none) = none ↔ ¬IsFaulty settings probe p := by
    split
    · next hfile =>
      rw [Option.map_eq_none_iff, fileFault?_eq_none_iff]
      simp [IsFaulty, hfile]
    · next hfile => simp [IsFaulty, hfile]
  rw [invalidFile?_eq_findSome?, List.findSome?_eq_some_iff]
  constructor
  · rintro ⟨before, p, after, rfl, hp, hbefore⟩
    have hfaulty : IsFaulty settings probe p := by
      by_contra h; rw [(hstep p).mpr h] at hp; cases hp
    rw [if_pos hfaulty.1, Option.map_eq_some_iff] at hp
    obtain ⟨found, hfound, heq⟩ := hp
    obtain ⟨rfl, rfl⟩ := Prod.mk.inj heq
    exact ⟨⟨hfaulty, before, after, rfl, fun b hb => (hstep b).mp (hbefore b hb)⟩,
      fileFault?_eq_some_iff.mp hfound⟩
  · rintro ⟨⟨hfaulty, before, after, rfl, hbefore⟩, hfault⟩
    refine ⟨before, path, after, rfl, ?_, fun b hb => (hstep b).mpr (hbefore b hb)⟩
    rw [if_pos hfaulty.1, fileFault?_eq_some_iff.mpr hfault, Option.map_some]

theorem invalidFile?_eq_none_iff :
    invalidFile? settings probe (classify probe paths).files = none ↔
      ∀ p ∈ paths, (probe p).kind = some .file → IsSource settings probe p := by
  rw [invalidFile?_eq_findSome?, List.findSome?_eq_none_iff]
  refine forall₂_congr fun p _ => ?_
  split
  · next hfile => rw [Option.map_eq_none_iff, fileFault?_eq_none_iff]; simp [hfile]
  · next hfile => simp [hfile]

/-! ## targets -/

/-- Paths with something there are targets, one for one. -/
theorem map_path_targets_classify (hpresent : ∀ p ∈ paths, (probe p).kind ≠ none) :
    (classify probe paths).targets.map Target.path = paths := by
  rw [targets_classify]
  induction paths with
  | nil => rfl
  | cons p paths ih =>
    obtain ⟨hp, hpresent⟩ := List.forall_mem_cons.mp hpresent
    obtain ⟨kind, hkind⟩ := Option.ne_none_iff_exists'.mp hp
    rw [List.filterMap_cons, hkind, Option.map_some, List.map_cons, ih hpresent]

/-- A target is what stands at its path. -/
theorem kind_of_mem_targets_classify {target : Target}
    (hmem : target ∈ (classify probe paths).targets) :
    (probe target.path).kind = some target.kind := by
  rw [targets_classify] at hmem
  obtain ⟨p, -, hp⟩ := List.mem_filterMap.mp hmem
  obtain ⟨kind, hkind, rfl⟩ := Option.map_eq_some_iff.mp hp
  exact hkind

/-! ## selections -/

variable {options : Options}

/-- Rule options that do not contradict each other make a selection. -/
theorem selectionFor_eq_ok {selection : Option Selection}
    (h : selectionFor settings options = .ok selection) :
    Selects settings.legacy options.ruleLists selection := by
  rw [selectionFor] at h
  split at h
  · next hlegacy => cases h; exact .legacy hlegacy
  next hlegacy =>
    have hlegacy := eq_false_of_ne_true hlegacy
    obtain ⟨s, hs, rfl⟩ := map_eq_ok.mp h
    rw [Options.ruleLists]
    simp only [Selection.ofOptions] at hs
    split at hs
    · next honly hallBut =>
      cases hs
      rw [List.isEmpty_iff.mp honly, List.isEmpty_iff.mp hallBut]
      exact .all hlegacy
    · next honly hallBut =>
      cases hs
      rw [List.isEmpty_iff.mp hallBut]
      exact .only hlegacy (List.isEmpty_eq_false_iff.mp honly)
    · next honly hallBut =>
      cases hs
      rw [List.isEmpty_iff.mp honly]
      exact .allBut hlegacy (List.isEmpty_eq_false_iff.mp hallBut)
    · cases hs

/-- What rule lists ask for is selected. -/
theorem selectionFor_of_selects {selection : Option Selection}
    (h : Selects settings.legacy options.ruleLists selection) :
    selectionFor settings options = .ok selection := by
  rw [selectionFor, Selection.ofOptions]
  generalize hlists : options.ruleLists = lists at h
  have honly : (options.list rulesOption).toList = lists.1 := congrArg Prod.fst hlists
  have hallBut : (options.list excludeRulesOption).toList = lists.2 := congrArg Prod.snd hlists
  rw [honly, hallBut]
  cases h with
  | legacy hlegacy => rw [hlegacy]; rfl
  | all hlegacy => rw [hlegacy]; rfl
  | only hlegacy hrules => rw [hlegacy, List.isEmpty_eq_false_iff.mpr hrules]; rfl
  | allBut hlegacy hrules => rw [hlegacy, List.isEmpty_eq_false_iff.mpr hrules]; rfl

/-- No rule comes twice in what is selected from lists in which none does. -/
theorem Selects.nodup_rules {legacy : Bool} {lists : List String × List String}
    {selection : Option Selection} (h : Selects legacy lists selection) (honly : lists.1.Nodup)
    (hallBut : lists.2.Nodup) : ∀ s ∈ selection, s.rules.Nodup := by
  cases h with
  | legacy => nofun
  | all => rintro _ ⟨⟩; exact .nil
  | only => rintro _ ⟨⟩; exact honly
  | allBut => rintro _ ⟨⟩; exact hallBut

/-- A plan takes over the selection as it is. -/
theorem map_once_of_selectionFor {selection : Option Selection}
    (h : selectionFor settings options = .ok selection) :
    selection.map Selection.once = selection :=
  map_once_eq_self ((selectionFor_eq_ok h).nodup_rules (Distinct.nodup _) (Distinct.nodup _))

/-- Rule options are refused when both lists hold something. -/
theorem selectionFor_eq_error_iff {e : UsageError} :
    selectionFor settings options = .error e ↔
      e = .rulesExcludeEachOther ∧ settings.legacy = false ∧
        options.ruleLists.1 ≠ [] ∧ options.ruleLists.2 ≠ [] := by
  rw [selectionFor, Options.ruleLists, Selection.ofOptions]
  cases settings.legacy <;> cases (options.list rulesOption).toList <;>
    cases (options.list excludeRulesOption).toList <;> simp [Except.map, eq_comm]

/-! ## the checks together -/

/-- Arguments pass all checks, or there is a first one that fails. -/
theorem acceptable_or_refused (settings : CheckSettings) (probe : Probe) (paths : List Path)
    (options : Options) : Acceptable settings probe paths options ∨
      ∃ e, Refused settings probe paths options e := by
  by_cases hgiven : paths = []
  · exact .inr ⟨_, .noPaths hgiven⟩
  cases hmissing : (classify probe paths).missing.head? with
  | some path => exact .inr ⟨_, .pathNotFound (head?_missing_eq_some_iff.mp hmissing)⟩
  | none =>
    have hpresent := head?_missing_eq_none_iff.mp hmissing
    cases hinvalid : invalidFile? settings probe (classify probe paths).files with
    | some found =>
      obtain ⟨hfirst, hfault⟩ := invalidFile?_eq_some_iff.mp hinvalid
      exact .inr ⟨_, .invalidFile hpresent hfirst hfault⟩
    | none =>
      have hsources := invalidFile?_eq_none_iff.mp hinvalid
      by_cases hconsistent :
          settings.legacy = true ∨ options.ruleLists.1 = [] ∨ options.ruleLists.2 = []
      · exact .inl ⟨hgiven, hpresent, hsources, hconsistent⟩
      · simp only [not_or, Bool.not_eq_true] at hconsistent
        obtain ⟨hlegacy, honly, hallBut⟩ := hconsistent
        exact .inr ⟨_, .rulesExcludeEachOther hgiven hpresent hsources hlegacy honly hallBut⟩

variable {args : Arguments}

/-- When every check of the paths passes, the rule options decide. -/
theorem checkArguments_eq (hgiven : args.paths.toList ≠ [])
    (hpresent : ∀ p ∈ args.paths.toList, (probe p).kind ≠ none)
    (hsources : ∀ p ∈ args.paths.toList, (probe p).kind = some .file → IsSource settings probe p) :
    checkArguments settings probe args =
      (selectionFor settings args.options).map fun selection =>
        .make (classify probe args.paths.toList).targets selection
          (args.options.truth ignoreTestFilesOption settings.ignoreTestFiles) := by
  simp only [checkArguments, Distinct.isEmpty_eq, List.isEmpty_eq_false_iff.mpr hgiven,
    Bool.false_eq_true, if_false, head?_missing_eq_none_iff.mpr hpresent,
    invalidFile?_eq_none_iff.mpr hsources]
  cases selectionFor settings args.options <;> rfl

/-- The error of refused arguments is that of the first check that fails. -/
theorem checkArguments_of_refused {e : UsageError}
    (h : Refused settings probe args.paths.toList args.options e) :
    checkArguments settings probe args = .error e := by
  have given {p : Path → Prop} {path : Path} (h : IsFirst p args.paths.toList path) :
      args.paths.isEmpty = false := by
    obtain ⟨-, before, after, h, -⟩ := h
    simp [Distinct.isEmpty_eq, h]
  cases h with
  | noPaths hpaths => rw [checkArguments, Distinct.isEmpty_eq, hpaths]; rfl
  | pathNotFound hfirst =>
    simp only [checkArguments, given hfirst, Bool.false_eq_true, if_false,
      head?_missing_eq_some_iff.mpr hfirst]
  | invalidFile hpresent hfirst hfault =>
    simp only [checkArguments, given hfirst, Bool.false_eq_true, if_false,
      head?_missing_eq_none_iff.mpr hpresent, invalidFile?_eq_some_iff.mpr ⟨hfirst, hfault⟩]
  | rulesExcludeEachOther hgiven hpresent hsources hlegacy honly hallBut =>
    rw [checkArguments_eq hgiven hpresent hsources,
      selectionFor_eq_error_iff.mpr ⟨rfl, hlegacy, honly, hallBut⟩]
    rfl

/-- Acceptable arguments become a plan, and the plan takes over all of them. -/
theorem checkArguments_of_acceptable
    (h : Acceptable settings probe args.paths.toList args.options) :
    ∃ plan, checkArguments settings probe args = .ok plan ∧
      IsPlanOf settings probe args.paths.toList args.options plan := by
  obtain ⟨hgiven, hpresent, hsources, hconsistent⟩ := h
  have hpaths := map_path_targets_classify hpresent
  have htargets (selection : Option Selection) (ignore : Bool) :
      (Plan.make (classify probe args.paths.toList).targets selection ignore).targets =
        (classify probe args.paths.toList).targets :=
    distinctTargets_eq_self (List.pairwise_map.mp (by rw [hpaths]; exact args.paths.pairwise))
  rw [checkArguments_eq hgiven hpresent hsources]
  cases hselection : selectionFor settings args.options with
  | ok selection =>
    refine ⟨_, rfl, ?_⟩
    exact {
      schema_eq := rfl
      paths_eq := by rw [htargets, hpaths]
      kind_eq := fun target hmem => kind_of_mem_targets_classify (by rwa [htargets] at hmem)
      selects := by
        have hselects := selectionFor_eq_ok hselection
        rwa [← map_once_of_selectionFor hselection] at hselects
      ignoreTestFiles_eq := by
        simp only [Plan.make, Plan.Draft.plan, Options.truth]
        rcases args.options.lookup ignoreTestFilesOption with _ | _ | value <;> rfl }
  | error e =>
    obtain ⟨-, hlegacy, honly, hallBut⟩ := selectionFor_eq_error_iff.mp hselection
    rcases hconsistent with h | h | h
    · rw [h] at hlegacy; cases hlegacy
    · exact absurd h honly
    · exact absurd h hallBut

/-- What the checks let through passes all of them. -/
theorem acceptable_of_eq_ok {plan : Plan} (h : checkArguments settings probe args = .ok plan) :
    Acceptable settings probe args.paths.toList args.options := by
  rcases acceptable_or_refused settings probe args.paths.toList args.options with hok | ⟨e, he⟩
  · exact hok
  · rw [checkArguments_of_refused he] at h
    cases h

/-- What the checks let through is a plan of its arguments. -/
theorem isPlanOf_of_eq_ok {plan : Plan}
    (h : checkArguments settings probe args = .ok plan) :
    IsPlanOf settings probe args.paths.toList args.options plan := by
  rcases acceptable_or_refused settings probe args.paths.toList args.options with hok | ⟨e, he⟩
  · obtain ⟨plan', hplan', hof⟩ := checkArguments_of_acceptable hok
    rw [h] at hplan'
    cases hplan'
    exact hof
  · rw [checkArguments_of_refused he] at h
    cases h

/-- **Checks**: arguments become a plan exactly when all checks pass, and any others meet the error
of the first check that fails.  A plan takes over every path. -/
theorem checkArguments_iff (settings : CheckSettings) (probe : Probe) (args : Arguments) :
    ((∃ plan, checkArguments settings probe args = .ok plan) ↔
        Acceptable settings probe args.paths.toList args.options) ∧
      (∀ e, checkArguments settings probe args = .error e ↔
        Refused settings probe args.paths.toList args.options e) ∧
      ∀ plan, checkArguments settings probe args = .ok plan →
        IsPlanOf settings probe args.paths.toList args.options plan := by
  rcases acceptable_or_refused settings probe args.paths.toList args.options with hok | ⟨e, he⟩
  · obtain ⟨plan, hplan, hof⟩ := checkArguments_of_acceptable hok
    refine ⟨⟨fun _ => hok, fun _ => ⟨plan, hplan⟩⟩, fun e => ⟨fun h => ?_, fun h => ?_⟩, ?_⟩
    · rw [hplan] at h; cases h
    · exact checkArguments_of_refused h
    · intro plan' hplan'
      rw [hplan] at hplan'
      cases hplan'
      exact hof
  · have herror := checkArguments_of_refused he
    refine ⟨⟨?_, fun h => ?_⟩, fun e' => ⟨fun h => ?_, checkArguments_of_refused⟩, ?_⟩
    · rintro ⟨plan, hplan⟩
      rw [herror] at hplan
      cases hplan
    · obtain ⟨plan, hplan, -⟩ := checkArguments_of_acceptable h
      exact ⟨plan, hplan⟩
    · rw [herror] at h
      cases h
      exact he
    · intro plan hplan
      rw [herror] at hplan
      cases hplan

/-- One path that the suffix rule spares, one that it covers, and one spelled twice. -/
theorem checkArguments_iff_mixed :
    let args : Arguments := ⟨.ofList [⟨"lib"⟩, ⟨"./A.java"⟩, ⟨"lib/"⟩], ⟨[("rules", some "R2,R1")]⟩⟩
    let probe := Probe.ofList [(⟨"lib"⟩, ⟨some .directory, false, false⟩),
      (⟨"./A.java"⟩, ⟨some .file, true, true⟩)]
    ∃ plan, checkArguments ⟨".java", true, false⟩ probe args = .ok plan ∧
      plan.targets.map Target.path = [⟨"lib"⟩, ⟨"./A.java"⟩] := by
  intro args probe
  have hpaths : args.paths.toList = [⟨"lib"⟩, ⟨"./A.java"⟩] := by
    rw [Distinct.toList_ofList]
    decide
  obtain ⟨hok, -, hplan⟩ := checkArguments_iff ⟨".java", true, false⟩ probe args
  obtain ⟨plan, h⟩ := hok.mpr {
    given := by rw [hpaths]; decide
    present := by rw [hpaths]; decide
    sources := by
      rw [hpaths]
      rintro p (_ | ⟨_, _ | ⟨_, ⟨⟩⟩⟩) hfile
      · exact absurd hfile (by decide)
      · exact ⟨⟨"./A", by decide⟩, by decide, by decide⟩
    consistent := .inr (.inr rfl) }
  exact ⟨plan, h, (hplan plan h).paths_eq.trans hpaths⟩

end FixBatch
