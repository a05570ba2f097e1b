import FixBatch.Proofs.Arguments

/-!
# FixBatch.Proofs.Check.Alike

Argument lists that come to the same.  A plan, and an error in its place, depends on nothing but the
places that are named, in their first spelling, and on the first token for each of the options that
have a meaning:

* `Alike` — two argument lists that agree on these;
* `Inert` — a token that may be left out after some others;
* `buildPlan_alike` — alike arguments come to the same, however paths and options are mixed and
  whatever inert tokens stand among them.
-/

namespace FixBatch

open Token

/-! ## alike arguments -/

/-- The names of the options that have a meaning. -/
def meaningfulOptions : List String := [rulesOption, excludeRulesOption, ignoreTestFilesOption]

theorem not_mem_of_mem_meaningfulOptions {name : String} (h : name ∈ meaningfulOptions) :
    '=' ∉ name.toList := by
  revert name
  decide

/-- Two argument lists that name the same places in the same order and spelling, and in which the
same tokens are the first for each option that has a meaning. -/
structure Alike (args args' : List String) : Prop where
  paths_eq : firstOccurrences (pathTokens args) = firstOccurrences (pathTokens args')
  isFirst_iff : ∀ name ∈ meaningfulOptions, ∀ token,
    IsFirst (Carries name) args token ↔ IsFirst (Carries name) args' token

variable {args args' : List String} {name : String}

theorem Alike.paths_parse_eq (h : Alike args args') :
    (Arguments.parse args).paths.toList = (Arguments.parse args').paths.toList := by
  rw [paths_parse, paths_parse, h.paths_eq]

theorem Alike.lookup_eq (h : Alike args args') (hname : name ∈ meaningfulOptions) :
    (Arguments.parse args).options.lookup name = (Arguments.parse args').options.lookup name := by
  have hfree := not_mem_of_mem_meaningfulOptions hname
  refine Option.ext fun value => ?_
  rw [lookup_parse_iff hfree, lookup_parse_iff hfree, h.isFirst_iff name hname]

/-- The lists that options hold are told by what stands under their names. -/
theorem Options.list_eq {o o' : Options} (h : o.lookup name = o'.lookup name) :
    o.list name = o'.list name := by
  rw [list, list, raw, raw, h]

/-- The checks look at the paths and at the options that have a meaning. -/
theorem checkArguments_congr {args args' : Arguments} (settings : CheckSettings) (probe : Probe)
    (hpaths : args.paths.toList = args'.paths.toList)
    (hoptions : ∀ name ∈ meaningfulOptions,
      args.options.lookup name = args'.options.lookup name) :
    checkArguments settings probe args = checkArguments settings probe args' := by
  have hrules := Options.list_eq (hoptions rulesOption (by decide))
  have hexclude := Options.list_eq (hoptions excludeRulesOption (by decide))
  have hignore := hoptions ignoreTestFilesOption (by decide)
  have hselection : selectionFor settings args.options = selectionFor settings args'.options := by
    rw [selectionFor, selectionFor, Selection.ofOptions, Selection.ofOptions, hrules, hexclude]
  simp only [checkArguments, Distinct.isEmpty_eq, hpaths, hselection, Options.truth, hignore]

/-- **Alike arguments** come to the same plan, or to the same error. -/
theorem Alike.buildPlan_eq (h : Alike args args') (settings : CheckSettings) (probe : Probe) :
    buildPlan settings probe args = buildPlan settings probe args' :=
  checkArguments_congr settings probe h.paths_parse_eq fun _ hname => h.lookup_eq hname

/-! ## paths and options in any order -/

/-- Paths and options that keep their own orders may be mixed in any way. -/
theorem alike_of_filter_eq (hoptions : args.filter isDashed = args'.filter isDashed)
    (hpaths : args.filter (!isDashed ·) = args'.filter (!isDashed ·)) : Alike args args' where
  paths_eq := by rw [pathTokens, pathTokens, hpaths]
  isFirst_iff name _ token := by
    have hdashed (token : String) : Carries name token → isDashed token = true := Carries.isDashed
    rw [← isFirst_filter hdashed, hoptions, isFirst_filter hdashed]

/-! ## tokens that may be left out -/

/-- A token that has no effect after some others: an option without a meaning, a repeat of one that
has one, or a repeat of a place. -/
inductive Inert (before : List String) (token : String) : Prop where
  | unknown (hdashed : isDashed token = true) (h : ∀ name ∈ meaningfulOptions, ¬Carries name token)
  | repeatedOption {name earlier : String} (hname : name ∈ meaningfulOptions)
      (h : Carries name token) (hmem : earlier ∈ before) (hearlier : Carries name earlier)
  | repeatedPath {earlier : String} (hdashed : isDashed token = false) (hmem : earlier ∈ before)
      (hearlier : isDashed earlier = false) (h : (Path.mk earlier == Path.mk token) = true)

/-- A value that equals an earlier one is no first occurrence. -/
theorem firstOccurrences_append_cons {α : Type u} [BEq α] [EquivBEq α] {l m : List α} {a b : α}
    (hb : b ∈ l) (hba : (b == a) = true) :
    firstOccurrences (l ++ a :: m) = firstOccurrences (l ++ m) := by
  have hseen : (l ++ []).any (· == a) = true := by
    rw [List.append_nil]
    exact List.any_eq_true.mpr ⟨b, hb, hba⟩
  simp only [firstOccurrences, firstOccurrencesAfter_append, firstOccurrencesAfter, hseen, if_true]

variable {before : List String} {token : String}

/-- What carries no name of a meaning may be left out where options are looked for. -/
theorem alike_of_isDashed (after : List String) (hdashed : isDashed token = true)
    (h : ∀ name ∈ meaningfulOptions, Carries name token →
      ∃ earlier ∈ before, Carries name earlier) :
    Alike (before ++ token :: after) (before ++ after) where
  paths_eq := by
    rw [pathTokens_append, pathTokens_append, pathTokens_cons_of_isDashed hdashed]
  isFirst_iff name hname found := by
    by_cases hcarries : Carries name token
    · obtain ⟨earlier, hmem, hearlier⟩ := h name hname hcarries
      rw [isFirst_append_of_mem hmem hearlier, isFirst_append_of_mem hmem hearlier]
    · exact isFirst_append_cons_of_neg hcarries

/-- An inert token may be left out. -/
theorem Inert.alike (h : Inert before token) (after : List String) :
    Alike (before ++ token :: after) (before ++ after) := by
  cases h with
  | unknown hdashed h =>
    exact alike_of_isDashed after hdashed fun name hname hcarries =>
      absurd hcarries (h name hname)
  | @repeatedOption name earlier hname h hmem hearlier =>
    refine alike_of_isDashed after h.isDashed fun name' hname' h' => ⟨earlier, hmem, ?_⟩
    -- a token carries one name only
    have heq := h'.name_eq h (not_mem_of_mem_meaningfulOptions hname')
      (not_mem_of_mem_meaningfulOptions hname)
    exact heq ▸ hearlier
  | @repeatedPath earlier hdashed hmem hearlier h =>
    have hpath : (⟨earlier⟩ : Path) ∈ pathTokens before := mem_pathTokens.mpr ⟨hmem, hearlier⟩
    exact {
      paths_eq := by
        rw [pathTokens_append, pathTokens_append, pathTokens_cons_of_not_isDashed hdashed]
        exact firstOccurrences_append_cons hpath h
      isFirst_iff := fun name _ found => isFirst_append_cons_of_neg fun hcarries => by
        rw [hcarries.isDashed] at hdashed
        cases hdashed }

/-! ## plans of alike arguments -/

/-- **Plans**: alike arguments come to the same plan or the same error, whatever the settings and
whatever stands at the paths.  So paths and options may be mixed in any order, and inert tokens make
no difference. -/
theorem buildPlan_alike (settings : CheckSettings) (probe : Probe) :
    (∀ args args', Alike args args' →
      buildPlan settings probe args = buildPlan settings probe args') ∧
    (∀ args args' : List String, args.filter isDashed = args'.filter isDashed →
      args.filter (!isDashed ·) = args'.filter (!isDashed ·) →
        buildPlan settings probe args = buildPlan settings probe args') ∧
    ∀ before token after, Inert before token →
      buildPlan settings probe (before ++ token :: after) =
        buildPlan settings probe (before ++ after) := by
  refine ⟨fun args args' h => h.buildPlan_eq settings probe, fun args args' hoptions hpaths => ?_,
    fun before token after h => (h.alike after).buildPlan_eq settings probe⟩
  exact (alike_of_filter_eq hoptions hpaths).buildPlan_eq settings probe

/-- A bare option nobody asks for, a second list of rules and a respelled directory make no
difference, nor does it matter that the rules come first. -/
theorem buildPlan_alike_respelled :
    let settings : CheckSettings := ⟨".java", true, false⟩
    let probe := Probe.ofList [(⟨"lib"⟩, ⟨some .directory, true, false⟩)]
    let before := ["lib", "--rules=R"]
    let mixed := ["--rules=R", "lib"]
    Inert before "--color" ∧ Inert before "--rules=S" ∧ Inert before "lib//." ∧
      buildPlan settings probe before = buildPlan settings probe mixed ∧
      buildPlan settings probe (before ++ "--color" :: []) = buildPlan settings probe mixed ∧
      buildPlan settings probe (before ++ "--rules=S" :: []) = buildPlan settings probe before ∧
      buildPlan settings probe (before ++ "lib//." :: []) = buildPlan settings probe before := by
  intro settings probe before mixed
  have hcolor : Inert before "--color" := by
    refine .unknown (by decide) fun name hname hcarries => ?_
    have hname' : Carries "color" "--color" := ⟨none, by decide⟩
    have heq := hcarries.name_eq hname' (not_mem_of_mem_meaningfulOptions hname) (by decide)
    exact absurd (heq ▸ hname) (by decide)
  have hrules : Inert before "--rules=S" := by
    have hearlier : Carries rulesOption "--rules=R" := ⟨some "R", by decide⟩
    exact .repeatedOption (by decide) ⟨some "S", by decide⟩ (by decide) hearlier
  have hlib : Inert before "lib//." := by
    have hmem : "lib" ∈ before := by decide
    exact .repeatedPath (by decide) hmem (by decide) (by decide)
  obtain ⟨halike, hmix, hinert⟩ := buildPlan_alike settings probe
  have hmixed : Alike (before ++ "--color" :: []) mixed := by
    refine ⟨by decide, fun name hname token => ?_⟩
    rw [(hcolor.alike []).isFirst_iff name hname]
    exact (alike_of_filter_eq (by decide) (by decide)).isFirst_iff name hname token
  exact ⟨hcolor, hrules, hlib, hmix before mixed (by decide) (by decide), halike _ _ hmixed,
    hinert before _ [] hrules, hinert before _ [] hlib⟩

end FixBatch
