import FixBatch.Proofs.Arguments.Sides

/-!
# FixBatch.Proofs.Check.Spelling

Which of the tokens of an argument list the checks look at.  A place that is named several times is
looked at once, in its first spelling; what the probe says of another spelling is never asked:

* `IsChecked` — what the checks ask of a single path;
* `isChecked_of_buildPlan` — whatever token names a place, the first one that names it is checked,
  and is the one that the plan treats;
* `buildPlan_unchecked_spelling` — the others need not pass.
-/

namespace FixBatch

open Token

/-- A path that passes the checks: something stands there, and a file can be treated. -/
structure IsChecked (settings : CheckSettings) (probe : Probe) (path : Path) : Prop where
  present : (probe path).kind ≠ none
  source : (probe path).kind = some .file → IsSource settings probe path

variable {settings : CheckSettings} {probe : Probe} {args : List String} {plan : Plan}

/-- Every place that tokens name is named by one of the paths that are read, the first of them. -/
theorem exists_path_of_token {token : String} (hmem : token ∈ args)
    (hplain : isDashed token = false) : ∃ first : String,
      ⟨first⟩ ∈ (Arguments.parse args).paths.toList ∧
        IsFirst (fun t => (Path.mk t == Path.mk token) = true) args first := by
  obtain ⟨path, hpath, hplace⟩ := (Arguments.hasPath_parse hmem).mpr hplain
  have hfirst := hpath
  rw [paths_parse] at hfirst
  obtain ⟨⟨hdashed, -⟩, before, after, hargs, hbefore⟩ :=
    isFirst_pathTokens.mp (isFirst_of_mem_firstOccurrencesAfter hfirst)
  refine ⟨path.text, hpath, hplace, before, after, hargs, fun t ht htoken => ?_⟩
  have hpathPlace : (Path.mk t == path) = true := BEq.trans htoken (BEq.symm hplace)
  exact hbefore t ht ⟨(isDashed_congr hpathPlace).trans hdashed, hpathPlace⟩

/-- **Tokens**: if arguments become a plan, every place that a token names has passed the checks in
the spelling of the first token that names it, and that is the spelling in which the plan treats
it. -/
theorem isChecked_of_buildPlan (h : buildPlan settings probe args = .ok plan) :
    ∀ token ∈ args, isDashed token = false →
      ∃ first, IsFirst (fun t => (Path.mk t == Path.mk token) = true) args first ∧
        IsChecked settings probe ⟨first⟩ ∧ ⟨first⟩ ∈ plan.targets.map Target.path := by
  intro token hmem hplain
  obtain ⟨first, hfirst, hisFirst⟩ := exists_path_of_token hmem hplain
  have hacceptable := acceptable_of_eq_ok h
  have hplan := isPlanOf_of_eq_ok h
  have hchecked : IsChecked settings probe ⟨first⟩ :=
    ⟨hacceptable.present _ hfirst, hacceptable.sources _ hfirst⟩
  exact ⟨first, hisFirst, hchecked, hplan.paths_eq ▸ hfirst⟩

/-- A directory in two spellings, of which only the first is known, and a file. -/
theorem isChecked_of_buildPlan_respelled :
    let settings : CheckSettings := ⟨".java", true, false⟩
    let probe := Probe.ofList [(⟨"lib"⟩, ⟨some .directory, true, false⟩)]
    let args := ["lib", "--rules=R", "lib//."]
    let plan : Plan := .make [⟨⟨"lib"⟩, .directory⟩] (some (.only ["R"])) true
    buildPlan settings probe args = .ok plan ∧ "lib//." ∈ args ∧ isDashed "lib//." = false ∧
      ∃ first, IsFirst (fun t => (Path.mk t == Path.mk "lib//.") = true) args first ∧
        IsChecked settings probe ⟨first⟩ ∧ ⟨first⟩ ∈ plan.targets.map Target.path := by
  intro settings probe args plan
  have hlists : (Arguments.parse args).options.ruleLists = (["R"], []) := by
    rw [Options.ruleLists, Options.toList_list, Options.toList_list, lookup_parse, lookup_parse]
    decide
  have hselects : Selects false (Arguments.parse args).options.ruleLists (some (.only ["R"])) :=
    hlists ▸ .only rfl (by decide)
  have hpaths : firstOccurrences (pathTokens args) = [⟨"lib"⟩] := by decide
  have hplan : buildPlan settings probe args = .ok plan := by
    rw [buildPlan_directory hpaths (by decide) hselects, Options.truth, lookup_parse]
    rfl
  have hmem : "lib//." ∈ args := by decide
  have hplain : isDashed "lib//." = false := by decide
  exact ⟨hplan, hmem, hplain, isChecked_of_buildPlan hplan "lib//." hmem hplain⟩

/-- **Other spellings** are not looked at: nothing stands at the second token, and still the
arguments become a plan. -/
theorem buildPlan_unchecked_spelling :
    let settings : CheckSettings := ⟨".java", true, false⟩
    let probe := Probe.ofList [(⟨"A.java"⟩, ⟨some .file, true, true⟩)]
    let args := ["A.java", "A.java/"]
    (∃ plan, buildPlan settings probe args = .ok plan) ∧ "A.java/" ∈ args ∧
      isDashed "A.java/" = false ∧ ¬IsChecked settings probe ⟨"A.java/"⟩ := by
  intro settings probe args
  have hpaths : (Arguments.parse args).paths.toList = [⟨"A.java"⟩] := by
    rw [paths_parse]
    decide
  have hlists : (Arguments.parse args).options.ruleLists = ([], []) := by
    rw [Options.ruleLists, Options.toList_list, Options.toList_list, lookup_parse, lookup_parse]
    decide
  have hsource : IsSource settings probe ⟨"A.java"⟩ := ⟨⟨"A", by decide⟩, by decide, by decide⟩
  have hacceptable :
      Acceptable settings probe (Arguments.parse args).paths.toList
        (Arguments.parse args).options := by
    rw [hpaths]
    exact {
      given := by decide
      present := by decide
      sources := fun path hpath _ => List.mem_singleton.mp hpath ▸ hsource
      consistent := .inr (.inl (congrArg Prod.fst hlists)) }
  obtain ⟨plan, hplan, -⟩ := checkArguments_of_acceptable hacceptable
  refine ⟨⟨plan, hplan⟩, by decide, by decide, fun hchecked => ?_⟩
  exact hchecked.present (by decide)

end FixBatch
