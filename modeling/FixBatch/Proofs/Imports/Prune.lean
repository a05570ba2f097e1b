import FixBatch.Proofs.Distinct
import FixBatch.Proofs.Imports.File

/-!
# FixBatch.Proofs.Imports.Prune

What pruning leaves of a file, told by reading the pruned text again.  `Reduced` follows a file line
by line and says what is left of each line, given the targets of the lines before it:

* `parse_pruneText` — the pruned text reads as the reduced file;
* `pruneText_idempotent` — a pruned text is not pruned any further.
-/

namespace FixBatch.Imports

open Text

/-! ## what is left of a line -/

/-- What is left of a line that keeps the targets `kept`.  A line that is no import line stays, and
so does an import line that loses nothing; one that loses everything goes, line end and all; any
other gives way to an import line of what it keeps, between the same blanks. -/
inductive Remnant (line : Line) : List (List Char) → Option Line → Prop
  | code : line.targets = none → Remnant line [] (some line)
  | whole : line.targets = some kept → Remnant line kept (some line)
  | gone : line.targets = some targets → targets ≠ [] → Remnant line [] none
  | part : line.targets = some targets → kept ≠ [] → kept ≠ targets →
      line'.targets = some kept → leading line'.text = leading line.text →
      trailing line'.text = trailing line.text → Remnant line kept (some line')

/-- A line keeps some of its targets, in their order. -/
theorem keptTargets_sublist (used seen targets : List (List Char)) :
    (keptTargets used seen targets).Sublist targets :=
  List.filter_sublist.trans (firstOccurrencesAfter_sublist seen targets)

theorem Line.pruned_of_none {used seen : List (List Char)} {line : Line}
    (h : line.targets = none) : line.pruned used seen = line.text := by
  rw [pruned, h]

theorem Line.pruned_of_some {used seen targets : List (List Char)} {line : Line}
    (h : line.targets = some targets) :
    line.pruned used seen =
      if keptTargets used seen targets = targets then line.text
      else if keptTargets used seen targets = [] then []
      else rebuilt line.text (keptTargets used seen targets) := by
  have hlen : (keptTargets used seen targets).length = targets.length ↔
      keptTargets used seen targets = targets :=
    ⟨(keptTargets_sublist used seen targets).eq_of_length, congrArg List.length⟩
  rw [pruned, h]
  simp only [hlen, List.isEmpty_iff]

/-- A rebuilt line is read as an import line of the targets it was built from. -/
theorem isRead_rebuilt {text : List Char} {targets : List (List Char)} (hne : targets ≠ [])
    (h : ∀ t ∈ targets, IsTarget t) : Line.IsRead ⟨rebuilt text targets, some targets⟩ := by
  rw [Line.IsRead, Line.ofText, if_pos (isImportLine_rebuilt hne h), targets?_rebuilt hne h]
  rfl

/-- **One line**: what pruning writes for a line reads as what is left of it. -/
theorem exists_remnant {line : Line} (hread : line.IsRead) (hline : EndAlike line.text line.text)
    (used seen : List (List Char)) :
    ∃ left, Remnant line (keptTargets used seen line.imported) left ∧
      (left.map Line.text).getD [] = line.pruned used seen ∧
      ∀ line' ∈ left, line'.IsRead ∧ EndAlike line.text line'.text := by
  cases htargets : line.targets with
  | none =>
    have himported : line.imported = [] := by rw [Line.imported, htargets]; rfl
    rw [himported, Line.pruned_of_none htargets]
    refine ⟨some line, .code htargets, rfl, ?_⟩
    rintro _ ⟨⟩
    exact ⟨hread, hline⟩
  | some targets =>
    have himported : line.imported = targets := by rw [Line.imported, htargets]; rfl
    rw [himported, Line.pruned_of_some htargets]
    have hts := hread.targets? htargets
    by_cases hwhole : keptTargets used seen targets = targets
    · rw [if_pos hwhole, hwhole]
      refine ⟨some line, .whole htargets, rfl, ?_⟩
      rintro _ ⟨⟩
      exact ⟨hread, hline⟩
    · rw [if_neg hwhole]
      by_cases hnil : keptTargets used seen targets = []
      · rw [if_pos hnil, hnil]
        exact ⟨none, .gone htargets (ne_nil_of_targets? hts), rfl, by simp⟩
      · rw [if_neg hnil]
        have hkept : ∀ t ∈ keptTargets used seen targets,
            IsTarget t ∧ ∀ c ∈ t, c ∈ trim line.text :=
          fun t ht => isTarget_of_targets? hts t ((keptTargets_sublist ..).subset ht)
        have htarget := fun t ht => (hkept t ht).1
        refine ⟨some ⟨rebuilt line.text _, some _⟩, .part htargets hnil hwhole rfl
          (leading_rebuilt hnil htarget) (trailing_rebuilt hnil htarget), rfl, ?_⟩
        rintro _ ⟨⟩
        exact ⟨isRead_rebuilt hnil htarget, endAlike_rebuilt hline (trim_ne_nil_of_targets? hts)
          hnil fun t ht => (hkept t ht).2⟩

/-! ## what is left of a file -/

/-- What is left of a file in which `needed` tells the imports worth keeping, where `seen` holds the
targets before it.  Each line keeps the needed ones of its targets that occur first there. -/
inductive Reduced (needed : List Char → Bool) : List (List Char) → List Line → List Line → Prop
  | nil : Reduced needed seen [] []
  | cons : Remnant line ((firstOccurrencesAfter seen line.imported).filter needed) left →
      Reduced needed (line.imported ++ seen) file file' →
      Reduced needed seen (line :: file) (left.toList ++ file')

/-- **One file**: what pruning writes for a file reads as what is left of it. -/
theorem exists_reduced {file : List Line} (h : IsFile file) (used seen : List (List Char)) :
    ∃ file', Reduced (isUsed used) seen file file' ∧ IsFile file' ∧
      file'.map Line.text = (prunedLines used seen file).filter (!·.isEmpty) ∧
      (file = [] → file' = []) := by
  induction file generalizing seen with
  | nil => exact ⟨[], .nil, h, rfl, id⟩
  | cons line file ih =>
    have hbroken : Broken (line.text :: file.map Line.text) := h.broken
    obtain ⟨file', hred, hfile', htext, hnil⟩ := ih h.tail (line.imported ++ seen)
    obtain ⟨left, hleft, hpruned, hleft'⟩ :=
      exists_remnant (h.read line List.mem_cons_self) hbroken.endAlike_head used seen
    refine ⟨left.toList ++ file', .cons hleft hred, ?_, ?_, by simp⟩
    · cases left with
      | none => exact hfile'
      | some line' =>
        obtain ⟨hread, hend⟩ := hleft' line' rfl
        refine ⟨hbroken.replace hend hfile'.broken ?_, ?_⟩
        · simpa using hnil
        · exact List.forall_mem_cons.mpr ⟨hread, hfile'.read⟩
    · rw [prunedLines, List.map_append, htext, ← hpruned]
      cases left with
      | none => rfl
      | some line' =>
        obtain ⟨-, hend⟩ := hleft' line' rfl
        simp [hend.ne_nil]

/-! ## what a reduced file holds -/

theorem Remnant.filter_code (h : Remnant line kept left) :
    left.toList.filter (·.targets.isNone) = [line].filter (·.targets.isNone) := by
  cases h with
  | code | whole => rfl
  | gone htargets => simp [htargets]
  | part htargets _ _ hkept => simp [htargets, hkept]

/-- A reduced file has the same lines that are no import lines. -/
theorem Reduced.filter_code (h : Reduced needed seen file file') :
    file'.filter (·.targets.isNone) = file.filter (·.targets.isNone) := by
  induction h with
  | nil => rfl
  | @cons line _ left file _ hleft _ ih =>
    rw [List.filter_append, hleft.filter_code, ih, ← List.filter_append, List.singleton_append]

theorem Remnant.imported (h : Remnant line kept left) :
    left.toList.flatMap Line.imported = kept := by
  cases h with
  | code htargets | whole htargets => simp [Line.imported, htargets]
  | gone => rfl
  | part _ _ _ hkept => simp [Line.imported, hkept]

/-- A reduced file imports the needed first occurrences of what the file imports. -/
theorem Reduced.imported (h : Reduced needed seen file file') :
    file'.flatMap Line.imported =
      (firstOccurrencesAfter seen (file.flatMap Line.imported)).filter needed := by
  induction h with
  | nil => rfl
  | cons hleft _ ih =>
    rw [List.flatMap_append, hleft.imported, ih, List.flatMap_cons, firstOccurrencesAfter_append,
      List.filter_append]

/-! ## the names in use -/

theorem usedNames_filter_code (file : List Line) :
    usedNames (file.filter (·.targets.isNone)) = usedNames file := by
  induction file with
  | nil => rfl
  | cons line file ih =>
    rw [usedNames, usedNames] at ih
    cases htargets : line.targets with
    | none => simp [usedNames, htargets, ih]
    | some targets =>
      have hnone : line.identifiers = [] := by rw [Line.identifiers, htargets]
      simp [usedNames, htargets, hnone, ih]

/-- Reducing a file takes away no name in use. -/
theorem Reduced.usedNames (h : Reduced needed seen file file') :
    usedNames file' = usedNames file := by
  rw [← usedNames_filter_code file', h.filter_code, usedNames_filter_code]

/-! ## pruning again -/

/-- What a line keeps it keeps again, when no more was seen before it. -/
theorem keptTargets_keptTargets {seen seen' : List (List Char)} (hseen : seen' ⊆ seen)
    (used targets : List (List Char)) :
    keptTargets used seen' (keptTargets used seen targets) = keptTargets used seen targets := by
  have hnew : ∀ t ∈ keptTargets used seen targets, seen'.any (· == t) = false := by
    intro t ht
    have hold := not_seen_of_mem_firstOccurrencesAfter (List.mem_filter.mp ht).1
    rw [List.any_eq_false] at hold ⊢
    exact fun u hu => hold u (hseen hu)
  have hpairwise := (pairwise_firstOccurrencesAfter seen targets).filter (isUsed used)
  rw [keptTargets, firstOccurrencesAfter_eq_self hnew hpairwise]
  exact List.filter_eq_self.mpr fun t ht => (List.mem_filter.mp ht).2

theorem Line.pruned_eq_text {line : Line} {used seen : List (List Char)}
    (h : keptTargets used seen line.imported = line.imported) :
    line.pruned used seen = line.text := by
  cases htargets : line.targets with
  | none => exact pruned_of_none htargets
  | some targets =>
    rw [imported, htargets, Option.getD_some] at h
    rw [pruned_of_some htargets, if_pos h]

/-- A reduced file loses nothing when it is pruned, even where less was seen before it. -/
theorem Reduced.prunedLines_eq (h : Reduced (isUsed used) seen file file')
    (hseen : seen' ⊆ seen) : prunedLines used seen' file' = file'.map Line.text := by
  induction h generalizing seen' with
  | nil => rfl
  | @cons line seen left file file' hleft _ ih =>
    cases left with
    | none => exact ih (List.subset_append_of_subset_right _ hseen)
    | some line' =>
      have hkept : line'.imported = keptTargets used seen line.imported := by
        rw [keptTargets, ← hleft.imported, Option.toList_some, List.flatMap_singleton]
      have hsub : line'.imported ++ seen' ⊆ line.imported ++ seen := by
        rw [hkept]
        exact List.append_subset.mpr
          ⟨List.subset_append_of_subset_left _ (keptTargets_sublist used seen _).subset,
            List.subset_append_of_subset_right _ hseen⟩
      have htext : line'.pruned used seen' = line'.text :=
        Line.pruned_eq_text (by rw [hkept, keptTargets_keptTargets hseen])
      rw [Option.toList_some, List.singleton_append, prunedLines, htext, ih hsub, List.map_cons]

/-! ## whole sources -/

theorem prune_eq_ok {source out : List Char} : prune source = .ok out ↔
    ∃ file, parse source = .ok file ∧ (prunedLines (usedNames file) [] file).flatten = out := by
  rw [prune, map_eq_ok]

theorem pruneText_eq_ok {source out : String} :
    pruneText source = .ok out ↔ prune source.toList = .ok out.toList := by
  rw [pruneText, map_eq_ok]
  constructor
  · rintro ⟨out, h, rfl⟩
    rw [h, String.toList_ofList]
  · intro h
    exact ⟨out.toList, h, String.ofList_toList⟩

/-- What pruning writes for a source reads as its reduced file, whose lines are what is written for
those of the source. -/
theorem exists_pruned_of_prune {source out : List Char} (h : prune source = .ok out) :
    ∃ file file', parse source = .ok file ∧ parse out = .ok file' ∧
      Reduced (isUsed (usedNames file)) [] file file' ∧
      file'.map Line.text = (prunedLines (usedNames file) [] file).filter (!·.isEmpty) := by
  obtain ⟨file, hparse, rfl⟩ := prune_eq_ok.mp h
  obtain ⟨hfile, -⟩ := parse_eq_ok.mp hparse
  obtain ⟨file', hred, hfile', htext, -⟩ := exists_reduced hfile (usedNames file) []
  refine ⟨file, file', hparse, parse_eq_ok.mpr ⟨hfile', ?_⟩, hred, htext⟩
  rw [htext, List.flatten_filter_not_isEmpty]

theorem exists_reduced_of_prune {source out : List Char} (h : prune source = .ok out) :
    ∃ file file', parse source = .ok file ∧ parse out = .ok file' ∧
      Reduced (isUsed (usedNames file)) [] file file' := by
  obtain ⟨file, file', hfile, hfile', hred, -⟩ := exists_pruned_of_prune h
  exact ⟨file, file', hfile, hfile', hred⟩

/-- A source that reads as a reduced file stays as it is when it is pruned. -/
theorem prune_of_reduced {out : List Char} (h : Reduced (isUsed (usedNames file)) [] file file')
    (hparse : parse out = .ok file') : prune out = .ok out := by
  have hsame := h.prunedLines_eq (List.Subset.refl [])
  refine prune_eq_ok.mpr ⟨file', hparse, ?_⟩
  rw [h.usedNames, hsame]
  exact (parse_eq_ok.mp hparse).2

/-- **Pruning**: a pruned text reads as its source does, with the same lines that are no import
lines and with the needed first occurrences of the same targets, each line reduced in its own
place. -/
theorem parse_pruneText {source out : String} (h : pruneText source = .ok out) :
    ∃ file file', parse source.toList = .ok file ∧ parse out.toList = .ok file' ∧
      file'.filter (·.targets.isNone) = file.filter (·.targets.isNone) ∧
      file'.flatMap Line.imported =
        (firstOccurrences (file.flatMap Line.imported)).filter (Needs file ·) ∧
      Reduced (Needs file ·) [] file file' := by
  obtain ⟨file, file', hfile, hfile', hred⟩ := exists_reduced_of_prune (pruneText_eq_ok.mp h)
  have hneeds : isUsed (usedNames file) = (Needs file ·) := by
    funext target
    rw [Bool.eq_iff_iff, isUsed_iff, decide_eq_true_iff]
  rw [hneeds] at hred
  exact ⟨file, file', hfile, hfile', hred.filter_code, hred.imported, hred⟩

/-- A line that keeps two statements of three, and a line that keeps none. -/
theorem parse_pruneText_shared_line :
    pruneText "  import a.B; import a.B; import s.*;\r\nimport c.D;\nclass A extends B" =
        .ok "  import a.B; import s.*;\r\nclass A extends B" ∧
      ∃ file file',
        parse "  import a.B; import a.B; import s.*;\r\nimport c.D;\nclass A extends B".toList =
          .ok file ∧
        parse "  import a.B; import s.*;\r\nclass A extends B".toList = .ok file' ∧
        file'.filter (·.targets.isNone) = file.filter (·.targets.isNone) ∧
        file'.flatMap Line.imported =
          (firstOccurrences (file.flatMap Line.imported)).filter (Needs file ·) ∧
        Reduced (Needs file ·) [] file file' :=
  ⟨rfl, parse_pruneText rfl⟩

/-- **Idempotence**: a pruned text is accepted again and does not change any more. -/
theorem pruneText_idempotent {source out : String} (h : pruneText source = .ok out) :
    pruneText out = .ok out := by
  obtain ⟨file, file', -, hfile', hred⟩ := exists_reduced_of_prune (pruneText_eq_ok.mp h)
  have hsame := hred.prunedLines_eq (List.Subset.refl [])
  refine pruneText_eq_ok.mpr (prune_eq_ok.mpr ⟨file', hfile', ?_⟩)
  rw [hred.usedNames, hsame]
  exact (parse_eq_ok.mp hfile').2

/-- A text that loses a statement, and the text that it becomes. -/
theorem pruneText_idempotent_last_line :
    pruneText "new B();\n\timport a.B; import c.D;" = .ok "new B();\n\timport a.B;" ∧
      pruneText "new B();\n\timport a.B;" = .ok "new B();\n\timport a.B;" :=
  have h : pruneText "new B();\n\timport a.B; import c.D;" = .ok "new B();\n\timport a.B;" := rfl
  ⟨h, pruneText_idempotent h⟩

end FixBatch.Imports
