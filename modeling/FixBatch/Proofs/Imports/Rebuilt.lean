import FixBatch.Proofs.Imports.Grammar
import FixBatch.Proofs.Imports.Prune

/-!
# FixBatch.Proofs.Imports.Rebuilt

Import lines with some of their statements.  A line of which only some phrases are kept is written
anew, with the statements of these between the blanks of the whole line:

```
blanks `import ` t₁ `; import ` … `; import ` tₙ `;` blanks
```

* `StandsFor` — what a line has to be to stand for one that imports more;
* `standsFor_rebuilt` — a line that is rebuilt from some of its phrases stands for the whole line.
-/

namespace FixBatch.Imports

open Text

/-- Two lines with the same blanks around what is in them. -/
def SameBlanks (line line' : List Char) : Prop :=
  ∃ lead core core' tail, allBlank lead = true ∧ Solid core ∧ Solid core' ∧ allBlank tail = true ∧
    line = lead ++ core ++ tail ∧ line' = lead ++ core' ++ tail

/-- What a line is that stands for an import line, of whose targets it imports some: a single line,
read as importing these, with the blanks and the line feed of the other. -/
structure StandsFor (line : List Char) (targets : List (List Char)) (line' : List Char) : Prop where
  single : lines line' = [line']
  read : Line.ofText line' = .ok ⟨line', some targets⟩
  same_blanks : SameBlanks line line'
  newline_mem_iff : '\n' ∈ line' ↔ '\n' ∈ line
  newline_last : '\n' ∉ line'.dropLast

/-- A rebuilt line has its statements in the place of those of the whole line. -/
theorem sameBlanks_rebuilt {line : List Char} {ts : List (List Char)} (hline : trim line ≠ [])
    (hne : ts ≠ []) (hts : ∀ t ∈ ts, IsTarget t) : SameBlanks line (rebuilt line ts) :=
  ⟨leading line, trim line, statements ts, trailing line, allBlank_leading line, solid_trim hline,
    solid_statements hne hts, allBlank_trailing line, (between_trim hline).symm,
    rebuilt_eq line ts⟩

/-- **Rebuilt lines**: a line that is rebuilt from some of its phrases, in their order, stands for
the whole line. -/
theorem standsFor_rebuilt {d : Derivation} {ps : List Phrase} (hline : lines d.text = [d.text])
    (hps : ps.Sublist d.phrases) (hne : ps ≠ []) :
    StandsFor d.text (ps.map Phrase.target) (rebuilt d.text (ps.map Phrase.target)) := by
  have hread : targets? d.text = .ok d.targets := targets?_eq_ok_iff.mpr ⟨d, rfl, rfl⟩
  have htrim : trim d.text ≠ [] := trim_ne_nil_of_targets? hread
  have hsome : ps.map Phrase.target ≠ [] := by simpa using hne
  have hkept : ∀ t ∈ ps.map Phrase.target, IsTarget t ∧ ∀ c ∈ t, c ∈ trim d.text :=
    fun t ht => isTarget_of_targets? hread t ((hps.map Phrase.target).subset ht)
  have hend : EndAlike d.text (rebuilt d.text (ps.map Phrase.target)) :=
    endAlike_rebuilt (endAlike_self hline) htrim hsome fun t ht => (hkept t ht).2
  exact {
    single := hend.lines_eq
    read := isRead_rebuilt hsome fun t ht => (hkept t ht).1
    same_blanks := sameBlanks_rebuilt htrim hsome fun t ht => (hkept t ht).1
    newline_mem_iff := hend.newline_mem_iff
    newline_last := hend.newline_not_mem_dropLast }

/-- Two phrases of three, between blanks of several kinds. -/
theorem standsFor_rebuilt_two_of_three :
    ∃ (d : Derivation) (ps : List Phrase),
      d.text = "\u3000import\ta.B ; import c.D;import e . F;\u00a0\r\n".toList ∧
      lines d.text = [d.text] ∧ ps.Sublist d.phrases ∧ ps ≠ [] ∧
      rebuilt d.text (ps.map Phrase.target) =
        "\u3000import a.B; import e . F;\u00a0\r\n".toList ∧
      StandsFor d.text (ps.map Phrase.target) (rebuilt d.text (ps.map Phrase.target)) := by
  let first : Phrase :=
    ⟨['\t'], "a.B".toList, [' '], [' '], by decide, by decide, by decide,
      by decide, by decide⟩
  let second : Phrase :=
    ⟨[' '], "c.D".toList, [], [], by decide, by decide, by decide,
      by decide, by decide⟩
  let third : Phrase :=
    ⟨[' '], "e . F".toList, [], ['\u00a0', '\r', '\n'], by decide, by decide, by decide,
      by decide, by decide⟩
  let d : Derivation :=
    ⟨['\u3000'], [first, second, third], by decide, List.cons_ne_nil _ _⟩
  have hline : lines d.text = [d.text] := by decide
  have hps : [first, third].Sublist d.phrases := .cons_cons _ (.cons _ (.cons_cons _ .slnil))
  exact ⟨d, [first, third], rfl, hline, hps, List.cons_ne_nil _ _, rfl,
    standsFor_rebuilt hline hps (List.cons_ne_nil _ _)⟩

end FixBatch.Imports
