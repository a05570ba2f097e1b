import FixBatch.Proofs.Imports.Use

/-!
# FixBatch.Proofs.Imports.Lasting

Imports that are meant to stay whether they are used or not: static ones, and those of all that a
package holds.  An import line may have any blanks inside a target, but pruning knows these imports
by one spelling each:

```
`static` ' ' …        … `.*`
```

In any other spelling they are pruned like imports of single types, so they may go:

* `lasting_mem_pruneText_iff` — which of them stay;
* `pruneText_drops_lasting` — two that go.
-/

namespace FixBatch.Imports

open Text

/-- A target that is static, with the blanks between the word `static` and the name after it. -/
structure IsStatic (gap target : List Char) : Prop where
  gap_ne_nil : gap ≠ []
  gap_blank : allBlank gap = true
  named : ∃ name, Solid name ∧ target = "static".toList ++ gap ++ name

/-- A target that is all that a package holds: after its last dot there is a star and no more than
blanks. -/
def IsOnDemand (target : List Char) : Prop :=
  ∃ name, IsSimpleName name target ∧ trim name = ['*']

/-- What a pruned text imports is what its source imports and needs. -/
theorem exists_mem_imported_iff {source out : String} (h : pruneText source = .ok out) :
    ∃ file file', parse source.toList = .ok file ∧ parse out.toList = .ok file' ∧
      ∀ target, target ∈ file'.flatMap Line.imported ↔
        target ∈ file.flatMap Line.imported ∧ Needs file target := by
  obtain ⟨file, file', hfile, hfile', hred⟩ := exists_reduced_of_prune (pruneText_eq_ok.mp h)
  refine ⟨file, file', hfile, hfile', fun target => ?_⟩
  rw [hred.imported, List.mem_filter, isUsed_iff]
  exact and_congr_left' mem_firstOccurrences_iff

/-- A static target has the spelling that stays if its first blank is a space. -/
theorem IsStatic.prefix_iff {gap target : List Char} (h : IsStatic gap target) :
    "static ".toList <+: target ↔ gap.head? = some ' ' := by
  obtain ⟨name, -, rfl⟩ := h.named
  obtain ⟨c, gap, rfl⟩ := List.exists_cons_of_ne_nil h.gap_ne_nil
  have hsplit : "static ".toList = "static".toList ++ [' '] := rfl
  rw [hsplit, List.append_assoc, List.prefix_append_right_inj]
  simp [eq_comm]

/-- A star is no word, and neither is one between blanks. -/
theorem not_mentions_of_trim_eq_star {file : List Line} {name : List Char}
    (h : trim name = ['*']) : ¬Mentions file name := by
  rintro ⟨line, -, -, hword⟩
  have hname : name = ['*'] := by rw [← hword.trim, h]
  have hstar : isWordChar '*' = true := hword.chars '*' (by simp [hname])
  exact absurd hstar (by decide +kernel)

/-- What is all that a package holds is needed only for its spelling. -/
theorem IsOnDemand.needs_iff {file : List Line} {target : List Char} (h : IsOnDemand target) :
    Needs file target ↔ "static ".toList <+: target ∨ ".*".toList <:+ target := by
  obtain ⟨name, hname, hstar⟩ := h
  constructor
  · rintro (hstatic | hall | ⟨name', hname', hused⟩)
    · exact .inl hstatic
    · exact .inr hall
    · rw [hname'.unique hname] at hused
      exact absurd hused (not_mentions_of_trim_eq_star hstar)
  · rintro (hstatic | hall)
    · exact .inl hstatic
    · exact .inr (.inl hall)

/-- **Lasting imports**: a static import stays just in case a space comes right after `static`, or
it ends in `.*`, or its simple name is in use; an import of all that a package holds stays just in
case it ends in `.*`, or is a static one with that space. -/
theorem lasting_mem_pruneText_iff {source out : String} (h : pruneText source = .ok out) :
    ∃ file file', parse source.toList = .ok file ∧ parse out.toList = .ok file' ∧
      ∀ target ∈ file.flatMap Line.imported,
        (∀ gap, IsStatic gap target → (target ∈ file'.flatMap Line.imported ↔
          gap.head? = some ' ' ∨ ".*".toList <:+ target ∨
            ∃ name, IsSimpleName name target ∧ Mentions file name)) ∧
        (IsOnDemand target → (target ∈ file'.flatMap Line.imported ↔
          "static ".toList <+: target ∨ ".*".toList <:+ target)) := by
  obtain ⟨file, file', hfile, hfile', hmem⟩ := exists_mem_imported_iff h
  refine ⟨file, file', hfile, hfile', fun target htarget => ⟨fun gap hstatic => ?_, fun hall => ?_⟩⟩
  · rw [hmem, and_iff_right htarget, ← hstatic.prefix_iff]
    rfl
  · rw [hmem, and_iff_right htarget, hall.needs_iff]

/-- A plain static import, one whose simple name is in use, and two that go. -/
theorem lasting_mem_pruneText_iff_mixed :
    pruneText "import static a.B.c; import d. *;\nimport static\te.F.g;import *;\ng();" =
        .ok "import static a.B.c;\nimport static\te.F.g;\ng();" ∧
      ∃ file file',
        parse "import static a.B.c; import d. *;\nimport static\te.F.g;import *;\ng();".toList =
          .ok file ∧
        parse "import static a.B.c;\nimport static\te.F.g;\ng();".toList = .ok file' ∧
        ∀ target ∈ file.flatMap Line.imported,
          (∀ gap, IsStatic gap target → (target ∈ file'.flatMap Line.imported ↔
            gap.head? = some ' ' ∨ ".*".toList <:+ target ∨
              ∃ name, IsSimpleName name target ∧ Mentions file name)) ∧
          (IsOnDemand target → (target ∈ file'.flatMap Line.imported ↔
            "static ".toList <+: target ∨ ".*".toList <:+ target)) :=
  ⟨rfl, lasting_mem_pruneText_iff rfl⟩

/-- A static import and one of all that a package holds go, for a tab and for a blank after the last
dot. -/
theorem pruneText_drops_lasting :
    pruneText "import static\ta.B.c;\nimport a. *;\nclass A {}\n" = .ok "class A {}\n" ∧
      ∃ file file', parse "import static\ta.B.c;\nimport a. *;\nclass A {}\n".toList = .ok file ∧
        parse "class A {}\n".toList = .ok file' ∧
        file.flatMap Line.imported = ["static\ta.B.c".toList, "a. *".toList] ∧
        IsStatic ['\t'] "static\ta.B.c".toList ∧ IsOnDemand "a. *".toList ∧
        file'.flatMap Line.imported = [] := by
  let code : Line := ⟨"class A {}\n".toList, none⟩
  let file : List Line :=
    [⟨"import static\ta.B.c;\n".toList, some ["static\ta.B.c".toList]⟩,
      ⟨"import a. *;\n".toList, some ["a. *".toList]⟩, code]
  have htrim : trim "a.B.c".toList = "a.B.c".toList := by decide
  have hname : Solid "a.B.c".toList := by
    rw [← htrim]
    exact solid_trim (by decide)
  have hstatic : IsStatic ['\t'] "static\ta.B.c".toList :=
    ⟨by decide, by decide, "a.B.c".toList, hname, rfl⟩
  have hall : IsOnDemand "a. *".toList := ⟨" *".toList, isSimpleName_iff.mpr rfl, by decide⟩
  exact ⟨rfl, file, [code], rfl, rfl, rfl, hstatic, hall, rfl⟩

end FixBatch.Imports
