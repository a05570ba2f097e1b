import FixBatch.Proofs.Arguments
import FixBatch.Proofs.Run.Policy
import Mathlib.Data.List.Nodup

/-!
# FixBatch.Proofs.Call

The arguments of calls, read again.  After the words for its scope and its mode, a call's arguments
are a path and at most two options, so they can be read like those of a command line.  Nothing is
lost by that, because what a plan takes over from a command line can be written on one: its paths do
not start with two dashes, and its rules are different items of a list.

* `Call.Writable` — the calls whose arguments can be read again;
* `Call.eq_of_arguments_eq` — such calls are told by their arguments;
* `writable_of_isCallOf` — the calls of a plan that arguments became are among them;
* `issued_readsBack` — what the arguments of a call say about its plan.
-/

namespace FixBatch

open Token

/-! ## what a call says -/

/-- The rules that a selection names, if it is one that names rules. -/
def Selection.named? : Selection → Option (List String)
  | all => none
  | only rules | allBut rules => some rules

/-- Different scopes have different words. -/
theorem Scope.word_injective {s t : Scope} (h : s.word = t.word) : s = t := by
  cases s <;> cases t <;> simp_all [word]

namespace Call

/-- The rules that a call names, if its mode names any. -/
def rules? : Call → Option (List String)
  | file _ selection | directory _ selection _ => selection.named?
  | whole _ => none

/-- What a call says about test files, if it is about a directory. -/
def ignores? : Call → Option Bool
  | directory _ _ ignore => some ignore
  | file .. | whole _ => none

/-- A call is told by its scope, its mode, its path, its rules and what it says about test files. -/
theorem eq_of_parts {c d : Call} (hscope : c.scope = d.scope) (hmode : c.mode = d.mode)
    (hpath : c.path = d.path) (hrules : c.rules? = d.rules?) (hignores : c.ignores? = d.ignores?) :
    c = d := by
  have hselection {s t : Selection} (hmode : s.mode = t.mode) (hrules : s.named? = t.named?) :
      s = t := by
    cases s <;> cases t <;> simp_all [Selection.mode, Selection.named?]
  cases c <;> cases d <;> simp only [scope, reduceCtorEq] at hscope
  case file.file =>
    simp only [path] at hpath
    rw [hpath, hselection hmode hrules]
  case directory.directory =>
    simp only [path] at hpath
    simp only [ignores?, Option.some.injEq] at hignores
    rw [hpath, hselection hmode hrules, hignores]
  case whole.whole =>
    simp only [path] at hpath
    rw [hpath]

/-- What a call says in options, by their names. -/
def entries (c : Call) : List (String × Option String) :=
  (c.rules?.map fun rules => (rulesOption, some (String.intercalate "," rules))).toList ++
    (c.ignores?.map fun ignore =>
      (ignoreTestFilesOption, some (if ignore then "true" else "false"))).toList

/-- The arguments after scope, mode and path are the tokens for these options. -/
theorem options_eq (c : Call) : c.options = c.entries.map fun e => optionText e.1 e.2 := by
  have hrules (rules : String) : "--rules=" ++ rules = optionText rulesOption (some rules) := rfl
  have hignore (value : String) :
      "--ignoreTestFiles=" ++ value = optionText ignoreTestFilesOption (some value) := rfl
  rcases c with ⟨path, _ | rules | rules⟩ | ⟨path, _ | rules | rules, ignore⟩ | path <;>
  simp only [options, ruleArgument, entries, rules?, ignores?, Selection.named?, hrules,
    hignore] <;>
  rfl

/-! ## calls that can be read again -/

/-- What the arguments after scope and mode are read to. -/
def reread (c : Call) : Arguments := .parse (c.arguments.drop 2)

/-- A call that can be read again: its path is no option, and the rules that it names are different
items of a list. -/
structure Writable (c : Call) : Prop where
  path_plain : isDashed c.path.text = false
  rules_items : ∀ rules, c.rules? = some rules → (∀ rule ∈ rules, IsItem rule) ∧ rules.Nodup

variable {c d : Call}

theorem drop_arguments (c : Call) :
    c.arguments.drop 2 = c.path.text :: c.entries.map fun e => optionText e.1 e.2 := by
  rw [arguments, options_eq]
  rfl

/-- The options of a call have names without an equals sign. -/
theorem not_mem_of_mem_entries {e : String × Option String} (h : e ∈ c.entries) :
    '=' ∉ e.1.toList := by
  have hname : e.1 = rulesOption ∨ e.1 = ignoreTestFilesOption := by
    rcases List.mem_append.mp h with h | h <;>
    · obtain ⟨value, -, rfl⟩ := Option.map_eq_some_iff.mp (Option.mem_toList.mp h)
      simp
  rcases hname with hname | hname <;> rw [hname] <;> decide

/-- A call is read to its path alone. -/
theorem Writable.paths_reread (h : c.Writable) : c.reread.paths.toList = [c.path] := by
  rw [reread, paths_parse, drop_arguments, pathTokens_cons_of_not_isDashed h.path_plain,
    pathTokens_map_optionText]
  rfl

/-- A call is read to what it says in options. -/
theorem Writable.lookup_reread (h : c.Writable) (name : String) :
    c.reread.options.lookup name = c.entries.lookup name := by
  have hpath : ¬Carries name c.path.text := fun hcarries => by
    have hplain := h.path_plain
    rw [hcarries.isDashed] at hplain
    cases hplain
  rw [reread, lookup_parse, drop_arguments, lookup_optionTokens_cons hpath,
    optionTokens_map_optionText fun e => not_mem_of_mem_entries]

theorem Writable.lookup_rules (h : c.Writable) : c.reread.options.lookup rulesOption =
    c.rules?.map fun rules => some (String.intercalate "," rules) := by
  rw [h.lookup_reread, entries]
  cases c.rules? <;> cases c.ignores? <;> rfl

theorem Writable.lookup_ignoreTestFiles (h : c.Writable) :
    c.reread.options.lookup ignoreTestFilesOption =
      c.ignores?.map fun ignore => some (if ignore then "true" else "false") := by
  rw [h.lookup_reread, entries]
  cases c.rules? <;> cases c.ignores? <;> rfl

/-- The rules of a call are read again, in their order. -/
theorem Writable.list_rules (h : c.Writable) :
    (c.reread.options.list rulesOption).toList = c.rules?.getD [] := by
  rw [Options.list, Options.raw, h.lookup_rules]
  cases hrules : c.rules? with
  | none => rfl
  | some rules =>
    obtain ⟨hitems, hnodup⟩ := h.rules_items rules hrules
    exact toList_splitList_of_nodup hitems hnodup

theorem Writable.contains_rules (h : c.Writable) :
    c.reread.options.contains rulesOption = c.rules?.isSome := by
  rw [Options.contains, h.lookup_rules, Option.isSome_map]

/-- So is what it says about test files. -/
theorem Writable.truth_ignoreTestFiles (h : c.Writable) (absent : Bool) :
    c.reread.options.truth ignoreTestFilesOption absent = c.ignores?.getD absent := by
  rw [Options.truth, h.lookup_ignoreTestFiles]
  rcases c.ignores? with _ | _ | _ <;> rfl

theorem Writable.contains_ignoreTestFiles (h : c.Writable) :
    c.reread.options.contains ignoreTestFilesOption = c.ignores?.isSome := by
  rw [Options.contains, h.lookup_ignoreTestFiles, Option.isSome_map]

/-- **Arguments**: different calls that can be read again have different arguments. -/
theorem eq_of_arguments_eq (hc : c.Writable) (hd : d.Writable) (h : c.arguments = d.arguments) :
    c = d := by
  have hreread : c.reread = d.reread := by rw [reread, reread, h]
  rw [arguments_eq, arguments_eq] at h
  obtain ⟨hscope, htail⟩ := List.cons.inj h
  obtain ⟨hmode, -⟩ := List.cons.inj htail
  have hpath : [c.path] = [d.path] := by rw [← hc.paths_reread, ← hd.paths_reread, hreread]
  have hoption {α : Type} (a : α) {o o' : Option α} (hsome : o.isSome = o'.isSome)
      (hvalue : o.getD a = o'.getD a) : o = o' := by
    cases o <;> cases o' <;> simp_all
  have hrules : c.rules? = d.rules? := by
    refine hoption [] ?_ ?_
    · rw [← hc.contains_rules, ← hd.contains_rules, hreread]
    · rw [← hc.list_rules, ← hd.list_rules, hreread]
  have hignores : c.ignores? = d.ignores? := by
    refine hoption false ?_ ?_
    · rw [← hc.contains_ignoreTestFiles, ← hd.contains_ignoreTestFiles, hreread]
    · rw [← hc.truth_ignoreTestFiles, ← hd.truth_ignoreTestFiles, hreread]
  exact eq_of_parts (Scope.word_injective hscope) (Mode.word_injective hmode)
    (List.cons.inj hpath).1 hrules hignores

end Call

/-! ## calls of plans -/

/-- What a call takes over from a plan. -/
structure IsCallOf (plan : Plan) (c : Call) : Prop where
  path_mem : ∃ target ∈ plan.targets, target.path = c.path
  mode_eq : c.mode = plan.mode
  rules_eq : c.rules? = plan.selection.bind Selection.named?
  ignores_eq : c.ignores? = if c.scope = .directory then some plan.ignoreTestFiles else none

variable {settings : CheckSettings} {probe : Probe} {args : List String} {plan : Plan} {c : Call}

theorem isCallOf_of_mem_calls (h : c ∈ plan.calls) : IsCallOf plan c := by
  have hmode := mode_of_mem_calls h
  have hpath : ∃ target ∈ plan.targets, target.path = c.path :=
    List.mem_map.mp ((path_calls_perm plan).mem_iff.mp (List.mem_map_of_mem h))
  cases hselection : plan.selection with
  | none =>
    rw [calls_of_none hselection] at h
    obtain ⟨target, -, rfl⟩ := List.mem_map.mp h
    exact ⟨hpath, hmode, by rw [hselection]; rfl, rfl⟩
  | some selection =>
    rw [calls_of_some hselection, List.mem_append] at h
    rcases h with h | h <;>
    · obtain ⟨target, -, rfl⟩ := List.mem_map.mp h
      exact ⟨hpath, hmode, by rw [hselection]; rfl, rfl⟩

/-- A selection that is asked for names some rules, and these are one of the two lists. -/
theorem Selects.named {legacy : Bool} {lists : List String × List String}
    {selection : Option Selection} {rules : List String} (h : Selects legacy lists selection)
    (hrules : selection.bind Selection.named? = some rules) :
    rules ≠ [] ∧ (rules = lists.1 ∨ rules = lists.2) := by
  cases h with
  | legacy => cases hrules
  | all => cases hrules
  | only h hne => cases hrules; exact ⟨hne, .inl rfl⟩
  | allBut h hne => cases hrules; exact ⟨hne, .inr rfl⟩

/-- What the checks let through is a plan of the paths and the options that were read. -/
theorem isPlanOf_parse (h : buildPlan settings probe args = .ok plan) :
    IsPlanOf settings probe (Arguments.parse args).paths.toList (Arguments.parse args).options
      plan :=
  isPlanOf_of_eq_ok h

/-- The path of a call is the first argument for its place. -/
theorem isFirst_path (h : buildPlan settings probe args = .ok plan) (hc : IsCallOf plan c) :
    IsFirst (fun token => isDashed token = false ∧ (Path.mk token == c.path) = true) args
      c.path.text := by
  have hmem : c.path ∈ (Arguments.parse args).paths.toList := by
    rw [← (isPlanOf_parse h).paths_eq]
    exact List.mem_map.mpr hc.path_mem
  rw [paths_parse] at hmem
  exact isFirst_pathTokens.mp (isFirst_of_mem_firstOccurrencesAfter hmem)

/-- The rules that a plan names are different items of a list, and there are some. -/
theorem rules_of_named {rules : List String} (h : buildPlan settings probe args = .ok plan)
    (hrules : plan.selection.bind Selection.named? = some rules) :
    rules ≠ [] ∧ (∀ rule ∈ rules, IsItem rule) ∧ rules.Nodup := by
  obtain ⟨hne, hlist⟩ := (isPlanOf_parse h).selects.named hrules
  refine ⟨hne, ?_⟩
  rcases hlist with rfl | rfl <;>
  · exact ⟨fun rule => Options.isItem_of_mem_list, Distinct.nodup _⟩

/-- Calls of a plan that comes from arguments can be read again. -/
theorem writable_of_isCallOf (h : buildPlan settings probe args = .ok plan)
    (hc : IsCallOf plan c) : c.Writable where
  path_plain := (isFirst_path h hc).1.1
  rules_items _ hrules := (rules_of_named h (hc.rules_eq ▸ hrules)).2

/-! ## what a run has the engine do -/

/-- The calls that carrying out a plan issues, in some world, under some settings. -/
def Issues (plan : Plan) (calls : List Call) : Prop :=
  ∃ (oracle : Oracle) (settings : RunSettings) (past : List Event) (outcome : Outcome)
    (events : List Event),
    (runPlan oracle.agents settings plan).run past = (outcome, past ++ events) ∧
      received events = calls

theorem Issues.prefix_calls {calls : List Call} (h : Issues plan calls) : calls <+: plan.calls := by
  obtain ⟨oracle, settings, past, outcome, events, hrun, rfl⟩ := h
  rw [oracle.run_runPlan] at hrun
  rw [← List.append_cancel_left (congrArg Prod.snd hrun)]
  exact oracle.received_course_prefix past plan.calls settings

/-- A run that goes on issues all calls of its plan. -/
theorem issues_calls (oracle : Oracle) (plan : Plan) : Issues plan plan.calls :=
  ⟨oracle, ⟨.proceed, false⟩, [], _, _, oracle.run_runPlan _ plan [],
    (oracle.course_proceed false [] plan.calls).2⟩

theorem Issues.isCallOf {calls : List Call} (h : Issues plan calls) (hc : c ∈ calls) :
    IsCallOf plan c :=
  isCallOf_of_mem_calls (h.prefix_calls.subset hc)

/-- A plan that some arguments became, under some settings and whatever stood at the paths. -/
def PlanFor (args : List String) (plan : Plan) : Prop :=
  ∃ settings probe, buildPlan settings probe args = .ok plan

/-- No two calls of a plan are about the same path. -/
theorem nodup_arguments_calls (plan : Plan) :
    (plan.calls.map Call.arguments).Nodup := by
  have hpaths : (plan.calls.map Call.path).Nodup := by
    rw [(path_calls_perm plan).nodup_iff]
    refine List.pairwise_map.mpr (plan.places_distinct.imp fun hne heq => ?_)
    rw [Target.beq_iff, heq, BEq.rfl] at hne
    cases hne
  -- a call's path is the third of its arguments
  refine List.Nodup.of_map (fun arguments : List String => Path.mk (arguments.getD 2 "")) ?_
  rw [List.map_map]
  exact hpaths

/-- What the arguments of a call are read to, after the words for its scope and its mode: the path
of an entry of the plan, as the first argument for its place has it, the rules of the plan, and for
directories whether test files are skipped. -/
structure ReadsBack (args : List String) (plan : Plan) (c : Call) : Prop where
  paths_eq : c.reread.paths.toList = [c.path]
  mode_eq : c.mode = plan.mode
  path_mem : ∃ target ∈ plan.targets, target.path = c.path
  isFirst : IsFirst (fun token => isDashed token = false ∧ (Path.mk token == c.path) = true) args
    c.path.text
  rules_eq : plan.mode = .including ∨ plan.mode = .excluding →
    ∃ rules, plan.rules = some rules ∧ rules ≠ [] ∧
      (c.reread.options.list rulesOption).toList = rules
  no_rules : plan.mode = .all ∨ plan.mode = .legacy →
    c.reread.options.contains rulesOption = false
  ignoreTestFiles_iff :
    c.reread.options.contains ignoreTestFilesOption = true ↔ c.scope = .directory
  ignoreTestFiles_eq : c.scope = .directory → ∀ absent,
    c.reread.options.truth ignoreTestFilesOption absent = plan.ignoreTestFiles

/-- The mode of a plan says whether it names rules. -/
theorem named_of_mode (plan : Plan) :
    (plan.mode = .including ∨ plan.mode = .excluding → ∃ rules,
      plan.selection.bind Selection.named? = some rules ∧ plan.rules = some rules) ∧
    (plan.mode = .all ∨ plan.mode = .legacy →
      plan.selection.bind Selection.named? = none) := by
  rw [Plan.mode, Plan.rules]
  rcases plan.selection with _ | _ | rules | rules <;>
  simp [Selection.mode, Selection.named?, Selection.rules]

theorem readsBack_of_isCallOf (h : buildPlan settings probe args = .ok plan)
    (hc : IsCallOf plan c) : ReadsBack args plan c := by
  have hwritable := writable_of_isCallOf h hc
  obtain ⟨hnamed, hunnamed⟩ := named_of_mode plan
  exact {
    paths_eq := hwritable.paths_reread
    mode_eq := hc.mode_eq
    path_mem := hc.path_mem
    isFirst := isFirst_path h hc
    rules_eq := fun hmode => by
      obtain ⟨rules, hrules, heq⟩ := hnamed hmode
      refine ⟨rules, heq, (rules_of_named h hrules).1, ?_⟩
      rw [hwritable.list_rules, hc.rules_eq, hrules]
      rfl
    no_rules := fun hmode => by
      rw [hwritable.contains_rules, hc.rules_eq, hunnamed hmode]
      rfl
    ignoreTestFiles_iff := by
      rw [hwritable.contains_ignoreTestFiles, hc.ignores_eq]
      split <;> simp_all
    ignoreTestFiles_eq := fun hscope absent => by
      rw [hwritable.truth_ignoreTestFiles, hc.ignores_eq, if_pos hscope]
      rfl }

/-- **Calls**: the arguments of every call that is issued for arguments that became a plan are read
back to what the plan says.  So no two calls of a run have the same arguments, nor have different
calls for any other arguments. -/
theorem issued_readsBack :
    (∀ args plan calls, PlanFor args plan → Issues plan calls →
      (∀ c ∈ calls, ReadsBack args plan c) ∧ (calls.map Call.arguments).Nodup) ∧
    ∀ args plan calls args' plan' calls', PlanFor args plan → Issues plan calls →
      PlanFor args' plan' → Issues plan' calls' →
        ∀ c ∈ calls, ∀ c' ∈ calls', c ≠ c' → c.arguments ≠ c'.arguments := by
  constructor
  · rintro args plan calls ⟨settings, probe, h⟩ hissues
    have hcalls := hissues.prefix_calls.sublist.map Call.arguments
    exact ⟨fun c hc => readsBack_of_isCallOf h (hissues.isCallOf hc),
      (nodup_arguments_calls plan).sublist hcalls⟩
  · rintro args plan calls args' plan' calls' ⟨settings, probe, h⟩ hissues ⟨settings', probe', h'⟩
      hissues' c hc c' hc' hne heq
    exact hne (Call.eq_of_arguments_eq (writable_of_isCallOf h (hissues.isCallOf hc))
      (writable_of_isCallOf h' (hissues'.isCallOf hc')) heq)

/-- The same directory and the same rules, once to apply and once to leave out. -/
theorem issued_readsBack_directory :
    let args := ["lib", "--rules=R2,,R1,R2"]
    let args' := ["--excludeRules=R2,R1", "lib"]
    ∃ plan plan' c c', PlanFor args plan ∧ Issues plan [c] ∧ PlanFor args' plan' ∧
      Issues plan' [c'] ∧ c ≠ c' ∧ ReadsBack args plan c ∧ c.arguments ≠ c'.arguments ∧
      c.arguments = ["directory", "include", "lib", "--rules=R2,R1", "--ignoreTestFiles=true"] := by
  intro args args'
  let settings : CheckSettings := ⟨".java", true, false⟩
  let probe : Probe := fun _ => ⟨some .directory, true, true⟩
  let oracle : Oracle :=
    ⟨fun _ _ => .ok (), fun _ _ => .ok true, fun _ => ⟨2025, 6, 1, 12, 0, 0, 0⟩⟩
  let plan (selection : Selection) : Plan := .make [⟨⟨"lib"⟩, .directory⟩] (some selection) true
  let call (selection : Selection) : Call := .directory ⟨"lib"⟩ selection true
  have hissues {selection : Selection} (hrules : selection.rules.Nodup) :
      Issues (plan selection) [call selection] := by
    have hselection : (plan selection).selection = some selection :=
      congrArg some (Selection.once_eq_self hrules)
    have hcalls : (plan selection).calls = [call selection] := by
      rw [calls_of_some hselection, Plan.targets_make]
      rfl
    exact hcalls ▸ issues_calls oracle (plan selection)
  have hplanFor {args : List String} {selection : Selection}
      (hpaths : firstOccurrences (pathTokens args) = [⟨"lib"⟩])
      (hignore : (optionTokens args).lookup ignoreTestFilesOption = none)
      (hselects : Selects false (Arguments.parse args).options.ruleLists (some selection)) :
      PlanFor args (plan selection) := by
    refine ⟨settings, probe, ?_⟩
    rw [buildPlan_directory hpaths rfl hselects, Options.truth, lookup_parse, hignore]
  have hplan : PlanFor args (plan (.only ["R2", "R1"])) := by
    refine hplanFor (by decide) (by decide) ?_
    have hlists : (Arguments.parse args).options.ruleLists = (["R2", "R1"], []) := by
      rw [Options.ruleLists, Options.toList_list, Options.toList_list, lookup_parse, lookup_parse]
      decide
    exact hlists ▸ .only rfl (by decide)
  have hplan' : PlanFor args' (plan (.allBut ["R2", "R1"])) := by
    refine hplanFor (by decide) (by decide) ?_
    have hlists : (Arguments.parse args').options.ruleLists = ([], ["R2", "R1"]) := by
      rw [Options.ruleLists, Options.toList_list, Options.toList_list, lookup_parse, lookup_parse]
      decide
    exact hlists ▸ .allBut rfl (by decide)
  have hissued : Issues (plan (.only ["R2", "R1"])) [call (.only ["R2", "R1"])] :=
    hissues (by decide)
  have hissued' : Issues (plan (.allBut ["R2", "R1"])) [call (.allBut ["R2", "R1"])] :=
    hissues (by decide)
  have hne : call (.only ["R2", "R1"]) ≠ call (.allBut ["R2", "R1"]) := by simp [call]
  obtain ⟨hreads, hdistinct⟩ := issued_readsBack
  obtain ⟨hback, -⟩ := hreads args _ _ hplan hissued
  have hapart := hdistinct args _ _ args' _ _ hplan hissued hplan' hissued' _
    List.mem_cons_self _ List.mem_cons_self hne
  exact ⟨_, _, _, _, hplan, hissued, hplan', hissued', hne, hback _ List.mem_cons_self, hapart,
    rfl⟩

end FixBatch
