import FixBatch.Proofs.Imports.Prune

/-!
# FixBatch.Proofs.Imports.Use

Which of the imports in use survive pruning.  The simple name of a target is what follows its last
dot, and it is looked up as it stands there.  A target may have blanks after its last dot, as in
`import a. B;`, and then its simple name starts with a blank and is no word of any line.  What is
imported so goes even if the name without the blank is in use.

* `mem_imported_pruneText_iff` — an import of a single type in use stays just in case its simple
  name has no blanks around it;
* `pruneText_drops_spaced_name` — one that goes.
-/

namespace FixBatch.Imports

open Text

/-- Whether a target is that of an import of a single type: not a static one, and not one of all
that a package holds. -/
def IsSingleType (target : List Char) : Prop :=
  ¬ "static ".toList <+: target ∧ ¬ ".*".toList <:+ target

/-- Whether a name is a word of some line that is no import line. -/
def Mentions (file : List Line) (name : List Char) : Prop :=
  ∃ line ∈ file, line.targets = none ∧ IsWord name line.text

/-- A target has one simple name. -/
theorem IsSimpleName.unique {name name' target : List Char} (h : IsSimpleName name target)
    (h' : IsSimpleName name' target) : name = name' :=
  (isSimpleName_iff.mp h).symm.trans (isSimpleName_iff.mp h')

/-- A file needs the import of a single type if it mentions its simple name as it stands. -/
theorem needs_iff_mentions {file : List Line} {name target : List Char}
    (hsingle : IsSingleType target) (hname : IsSimpleName name target) :
    Needs file target ↔ Mentions file name := by
  constructor
  · rintro (hstatic | hall | ⟨name', hname', hused⟩)
    · exact absurd hstatic hsingle.1
    · exact absurd hall hsingle.2
    · rwa [hname.unique hname']
  · exact fun hused => .inr (.inr ⟨name, hname, hused⟩)

/-- The trimmed form of a name in use is the name itself if that is in use as well. -/
theorem mentions_iff_trim_eq {file : List Line} {name : List Char}
    (h : Mentions file (trim name)) : Mentions file name ↔ trim name = name := by
  constructor
  · rintro ⟨line, -, -, hword⟩
    exact hword.trim
  · intro hname
    rwa [hname] at h

/-- **Imports in use**: an import of a single type whose trimmed simple name is in use stays just in
case the simple name is trimmed as it stands. -/
theorem mem_imported_pruneText_iff {source out : String} (h : pruneText source = .ok out) :
    ∃ file file', parse source.toList = .ok file ∧ parse out.toList = .ok file' ∧
      ∀ target ∈ file.flatMap Line.imported, IsSingleType target →
        ∀ name, IsSimpleName name target → Mentions file (trim name) →
          (target ∈ file'.flatMap Line.imported ↔ trim name = name) := by
  obtain ⟨file, file', hfile, hfile', hred⟩ := exists_reduced_of_prune (pruneText_eq_ok.mp h)
  refine ⟨file, file', hfile, hfile', fun target htarget hsingle name hname hused => ?_⟩
  have hkept : target ∈ file'.flatMap Line.imported ↔
      target ∈ file.flatMap Line.imported ∧ Needs file target := by
    rw [hred.imported, List.mem_filter, isUsed_iff]
    exact and_congr_left' mem_firstOccurrences_iff
  rw [hkept, and_iff_right htarget, needs_iff_mentions hsingle hname, mentions_iff_trim_eq hused]

/-- Two imports in use on one line, of which the second has a blank after its last dot. -/
theorem mem_imported_pruneText_iff_two_names :
    pruneText "import a.B; import c. D;\nnew B(D);" = .ok "import a.B;\nnew B(D);" ∧
      ∃ file file', parse "import a.B; import c. D;\nnew B(D);".toList = .ok file ∧
        parse "import a.B;\nnew B(D);".toList = .ok file' ∧
        ∀ target ∈ file.flatMap Line.imported, IsSingleType target →
          ∀ name, IsSimpleName name target → Mentions file (trim name) →
            (target ∈ file'.flatMap Line.imported ↔ trim name = name) :=
  ⟨rfl, mem_imported_pruneText_iff rfl⟩

/-- The only import of a file goes, though the file mentions the type that it names. -/
theorem pruneText_drops_spaced_name :
    pruneText "import a. B;\nclass A extends B {}\n" = .ok "class A extends B {}\n" ∧
      ∃ file file', parse "import a. B;\nclass A extends B {}\n".toList = .ok file ∧
        parse "class A extends B {}\n".toList = .ok file' ∧
        "a. B".toList ∈ file.flatMap Line.imported ∧ IsSingleType "a. B".toList ∧
        IsSimpleName " B".toList "a. B".toList ∧ Mentions file (trim " B".toList) ∧
        "a. B".toList ∉ file'.flatMap Line.imported := by
  let code : Line := ⟨"class A extends B {}\n".toList, none⟩
  let file : List Line := [⟨"import a. B;\n".toList, some ["a. B".toList]⟩, code]
  have hsingle : IsSingleType "a. B".toList := by unfold IsSingleType; decide
  have hname : IsSimpleName " B".toList "a. B".toList := isSimpleName_iff.mpr rfl
  have hword : IsWord (trim " B".toList) code.text := mem_words_iff.mp (by decide +kernel)
  have hused : Mentions file (trim " B".toList) :=
    ⟨code, List.mem_cons_of_mem _ List.mem_cons_self, rfl, hword⟩
  exact ⟨rfl, file, [code], rfl, rfl, by decide, hsingle, hname, hused, by decide⟩

end FixBatch.Imports
