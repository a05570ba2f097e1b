import FixBatch.Proofs.Imports.Prune
import FixBatch.Proofs.Imports.Grammar

/-!
# FixBatch.Proofs.Imports.Size

How long a pruned text is, in bytes of its UTF-8 form.  A rebuilt line has one blank between any two
of its statements, whatever stood there before.  So it wins a byte at each of its *joints*, where a
statement comes right after a semicolon, and it loses ten for each statement that goes:

```
`import ` target `;` blank
```

* `utf8Length_rebuilt_le` — what one line wins and loses;
* `utf8ByteSize_pruneText_le` — a text grows by no more than its lines have joints above ten;
* `pruneText_grows` — a text that grows.
-/

namespace FixBatch.Imports

open Text

/-! ## bytes -/

/-- The bytes that characters take up in UTF-8. -/
def utf8Length : List Char → Nat
  | [] => 0
  | c :: s => c.utf8Size + utf8Length s

@[simp] theorem utf8Length_nil : utf8Length [] = 0 := rfl

@[simp] theorem utf8Length_cons (c : Char) (s : List Char) :
    utf8Length (c :: s) = c.utf8Size + utf8Length s := rfl

@[simp] theorem utf8Length_append (s t : List Char) :
    utf8Length (s ++ t) = utf8Length s + utf8Length t := by
  induction s with
  | nil => simp
  | cons c s ih => simp [ih, Nat.add_assoc]

theorem utf8Length_pos {s : List Char} (h : s ≠ []) : 0 < utf8Length s := by
  obtain ⟨c, s, rfl⟩ := List.exists_cons_of_ne_nil h
  have hc := c.utf8Size_pos
  simp only [utf8Length_cons]
  omega

theorem utf8ByteSize_ofList (s : List Char) : (String.ofList s).utf8ByteSize = utf8Length s := by
  induction s with
  | nil => simp
  | cons c s ih =>
    have hsplit : String.ofList (c :: s) = String.singleton c ++ String.ofList s := by
      rw [String.singleton_eq_ofList, ← String.ofList_append]
      rfl
    rw [hsplit, String.utf8ByteSize_append, String.utf8ByteSize_singleton, ih, utf8Length_cons]

theorem utf8Length_toList (s : String) : utf8Length s.toList = s.utf8ByteSize := by
  rw [← utf8ByteSize_ofList, String.ofList_toList]

/-! ## joints -/

/-- How often something that is no blank comes right after a semicolon. -/
def joints : List Char → Nat
  | [] => 0
  | c :: s => (if c == ';' && s.head?.any fun d => !isBlank d then 1 else 0) + joints s

theorem joints_append {s : List Char} (h : ';' ∉ s) (t : List Char) : joints (s ++ t) = joints t := by
  induction s with
  | nil => rfl
  | cons c s ih =>
    rw [List.mem_cons, not_or] at h
    simp [joints, ih h.2, Ne.symm h.1]

theorem joints_append_of_allBlank {s : List Char} (h : allBlank s = true) (t : List Char) :
    joints (s ++ t) = joints t :=
  joints_append (fun hmem => absurd (isBlank_of_mem h hmem) (by decide)) t

/-- A semicolon with a statement right behind it is a joint. -/
theorem joints_phrasesText_cons (p : Phrase) (ps : List Phrase) :
    joints (phrasesText (p :: ps)) =
      (if p.after = [] ∧ ps ≠ [] then 1 else 0) + joints (phrasesText ps) := by
  rw [phrasesText_cons, joints_append p.semicolon_not_mem_clause, joints,
    joints_append_of_allBlank p.after_blank]
  congr 1
  cases hafter : p.after with
  | cons c after =>
    have hc : isBlank c = true := isBlank_of_mem p.after_blank (by simp [hafter])
    simp [hc]
  | nil =>
    cases ps with
    | nil => simp [phrasesText]
    | cons q ps =>
      have hq : (phrasesText (q :: ps)).head? = some 'i' := rfl
      have hi : isBlank 'i' = false := by decide
      simp [hq, hi]

/-- The first of some statements has none before it. -/
theorem joints_phrasesText_lt {ps : List Phrase} (h : ps ≠ []) :
    joints (phrasesText ps) < ps.length := by
  induction ps with
  | nil => exact absurd rfl h
  | cons p ps ih =>
    rw [joints_phrasesText_cons, List.length_cons]
    cases ps with
    | nil => simp [phrasesText, joints]
    | cons q ps =>
      have hrest := ih (List.cons_ne_nil q ps)
      split <;> omega

/-! ## one line -/

/-- The bytes of the statements for some targets, with a blank after each. -/
def weight : List (List Char) → Nat
  | [] => 0
  | t :: ts => 9 + utf8Length t + weight ts

theorem utf8Length_statement (t : List Char) : utf8Length (statement t) = 8 + utf8Length t := by
  have hword : utf8Length ['i', 'm', 'p', 'o', 'r', 't', ' '] = 7 := by decide
  have hsemicolon : utf8Length [';'] = 1 := by decide
  rw [statement, utf8Length_append, utf8Length_append, hword, hsemicolon]
  omega

/-- Rebuilt statements lack the last of these blanks. -/
theorem utf8Length_statements {ts : List (List Char)} (h : ts ≠ []) :
    utf8Length (statements ts) + 1 = weight ts := by
  induction ts with
  | nil => exact absurd rfl h
  | cons t ts ih =>
    have ht := utf8Length_statement t
    cases ts with
    | nil =>
      rw [statements_singleton, weight, weight]
      omega
    | cons u us =>
      have hblank : utf8Length (' ' :: statements (u :: us)) =
          1 + utf8Length (statements (u :: us)) := rfl
      have hrest := ih (List.cons_ne_nil u us)
      rw [statements_cons_cons, utf8Length_append, hblank, weight]
      omega

theorem weight_le_of_sublist {ts us : List (List Char)} (h : ts.Sublist us) :
    weight ts ≤ weight us := by
  induction h with
  | slnil => exact Nat.le_refl _
  | cons u _ ih => simp only [weight]; omega
  | cons_cons t _ ih => simp only [weight]; omega

/-- A statement that goes takes ten bytes with it, or more. -/
theorem weight_add_ten_le {ts us : List (List Char)} (h : ts.Sublist us) (hne : ts ≠ us)
    (hus : ∀ u ∈ us, u ≠ []) : weight ts + 10 ≤ weight us := by
  induction h with
  | slnil => exact absurd rfl hne
  | cons u hsub _ =>
    have hle := weight_le_of_sublist hsub
    have hpos := utf8Length_pos (hus u List.mem_cons_self)
    simp only [weight]
    omega
  | cons_cons t _ ih =>
    have hrest := ih (fun heq => hne (by rw [heq])) fun u hu => hus u (List.mem_cons_of_mem t hu)
    simp only [weight]
    omega

theorem utf8Length_clause (p : Phrase) :
    utf8Length p.clause =
      6 + utf8Length p.gap + utf8Length p.target + utf8Length p.before := by
  have hkeyword : utf8Length keyword = 6 := by decide
  simp only [Phrase.clause, utf8Length_append, hkeyword]
  omega

/-- Statements as they stand take up what rebuilt ones do, but for a blank at each joint. -/
theorem exists_body_phrasesText {ps : List Phrase} (h : ps ≠ []) :
    ∃ body tail, phrasesText ps = body ++ [';'] ++ tail ∧ allBlank tail = true ∧
      weight (ps.map Phrase.target) ≤
        utf8Length (body ++ [';']) + joints (phrasesText ps) + 1 := by
  have hsemicolon : utf8Length [';'] = 1 := by decide
  induction ps with
  | nil => exact absurd rfl h
  | cons p ps ih =>
    have hclause := utf8Length_clause p
    have hgap := utf8Length_pos p.gap_ne_nil
    rw [joints_phrasesText_cons]
    cases ps with
    | nil =>
      refine ⟨p.clause, p.after, by simp [phrasesText, Phrase.text], p.after_blank, ?_⟩
      simp only [List.map_cons, List.map_nil, weight, utf8Length_append]
      omega
    | cons q qs =>
      obtain ⟨body, tail, htext, htail, hle⟩ := ih (List.cons_ne_nil q qs)
      refine ⟨p.clause ++ ';' :: (p.after ++ body), tail, ?_, htail, ?_⟩
      · rw [phrasesText_cons, htext]
        simp
      · -- what comes after the semicolon is a blank or makes a joint
        have hafter : 1 ≤ utf8Length p.after +
            if p.after = [] ∧ q :: qs ≠ [] then 1 else 0 := by
          by_cases hnil : p.after = []
          · simp [hnil]
          · have hpos := utf8Length_pos hnil
            omega
        have hjoint : utf8Length (';' :: (p.after ++ body)) =
            1 + utf8Length p.after + utf8Length body := by
          rw [utf8Length_cons, utf8Length_append, ← Nat.add_assoc]
          rfl
        rw [utf8Length_append] at hle
        rw [List.map_cons, weight, utf8Length_append, utf8Length_append, hjoint]
        omega

/-- **One line**: a rebuilt line is shorter by ten bytes than the line that it stands for, but for a
blank at each joint of that. -/
theorem utf8Length_rebuilt_le {line : List Char} {ts kept : List (List Char)}
    (hread : targets? line = .ok ts) (hsub : kept.Sublist ts) (hnil : kept ≠ []) (hne : kept ≠ ts) :
    utf8Length (rebuilt line kept) + 10 ≤ utf8Length line + joints line := by
  obtain ⟨d, rfl, rfl⟩ := targets?_eq_ok_iff.mp hread
  obtain ⟨body, tail, htext, htail, hle⟩ := exists_body_phrasesText d.phrases_ne_nil
  have hsolid : Solid (body ++ [';']) := by
    refine ⟨by simp, fun c hc => isBlank_head_phrasesText d.phrases c ?_, fun c hc => ?_⟩
    · rwa [htext, List.head?_append_of_ne_nil _ (by simp)]
    · rw [List.getLast?_concat] at hc
      obtain rfl : ';' = c := Option.some.inj hc
      decide
  have hparts : d.text = d.indent ++ (body ++ [';']) ++ tail := by
    rw [Derivation.text, htext, ← List.append_assoc]
  have hjoints : joints d.text = joints (phrasesText d.phrases) :=
    joints_append_of_allBlank d.indent_blank _
  have hstatements := utf8Length_statements hnil
  have hten : weight kept + 10 ≤ weight d.targets :=
    weight_add_ten_le hsub hne fun t ht => (isTarget_of_targets? hread t ht).1.solid.ne_nil
  have hlost : weight d.targets = weight (d.phrases.map Phrase.target) := rfl
  rw [hjoints, rebuilt_eq, hparts, leading_between d.indent_blank hsolid,
    trailing_between _ hsolid htail]
  simp only [utf8Length_append] at hle ⊢
  omega

/-- The joints of an import line; other lines have none that matter. -/
def Line.joints (line : Line) : Nat := if line.targets.isSome then Imports.joints line.text else 0

/-- A line has fewer joints than statements. -/
theorem Line.IsRead.joints_lt {line : Line} (h : line.IsRead) (hpos : 0 < line.joints) :
    line.joints < line.imported.length := by
  unfold joints at hpos ⊢
  cases htargets : line.targets with
  | none => simp [htargets] at hpos
  | some ts =>
    obtain ⟨d, htext, rfl⟩ := targets?_eq_ok_iff.mp (h.targets? htargets)
    have hlt := joints_phrasesText_lt d.phrases_ne_nil
    have hjoints : Imports.joints line.text = Imports.joints (phrasesText d.phrases) := by
      rw [← htext]
      exact joints_append_of_allBlank d.indent_blank _
    rw [Option.isSome_some, if_pos rfl, hjoints, imported, htargets, Option.getD_some,
      Derivation.targets, List.length_map]
    exact hlt

/-- What pruning writes for a line is longer by no more than the line has joints above ten. -/
theorem Line.IsRead.utf8Length_pruned_le {line : Line} (h : line.IsRead)
    (used seen : List (List Char)) :
    utf8Length (line.pruned used seen) ≤ utf8Length line.text + (line.joints - 10) := by
  cases htargets : line.targets with
  | none =>
    rw [pruned_of_none htargets]
    omega
  | some ts =>
    rw [pruned_of_some htargets]
    split
    · omega
    · next hne =>
      split
      · rw [utf8Length_nil]
        omega
      · next hnil =>
        have hle := utf8Length_rebuilt_le (h.targets? htargets)
          (keptTargets_sublist used seen ts) hnil hne
        have hjoints : line.joints = Imports.joints line.text := by rw [joints, htargets]; rfl
        omega

/-! ## whole texts -/

/-- The joints above ten of all lines. -/
def excess : List Line → Nat
  | [] => 0
  | line :: file => (line.joints - 10) + excess file

/-- A file that exceeds has a line that does. -/
theorem exists_of_excess_pos {file : List Line} (h : 0 < excess file) :
    ∃ line ∈ file, 10 < line.joints := by
  induction file with
  | nil => exact absurd h (Nat.lt_irrefl 0)
  | cons line file ih =>
    by_cases hline : 10 < line.joints
    · exact ⟨line, List.mem_cons_self, hline⟩
    · rw [excess] at h
      obtain ⟨line', hmem, hline'⟩ := ih (by omega)
      exact ⟨line', List.mem_cons_of_mem line hmem, hline'⟩

theorem utf8Length_prunedLines_le {file : List Line} (h : ∀ line ∈ file, line.IsRead)
    (used seen : List (List Char)) :
    utf8Length (prunedLines used seen file).flatten ≤
      utf8Length (file.map Line.text).flatten + excess file := by
  induction file generalizing seen with
  | nil => exact Nat.le_refl 0
  | cons line file ih =>
    obtain ⟨hline, hfile⟩ := List.forall_mem_cons.mp h
    have hfirst := hline.utf8Length_pruned_le used seen
    have hrest := ih hfile (line.imported ++ seen)
    rw [prunedLines, List.map_cons, List.flatten_cons, List.flatten_cons, utf8Length_append,
      utf8Length_append, excess]
    omega

/-- **Size**: a text grows by no more than its lines have joints above ten, so only when some line
has more than eleven statements. -/
theorem utf8ByteSize_pruneText_le {source out : String} (h : pruneText source = .ok out) :
    ∃ file, parse source.toList = .ok file ∧
      out.utf8ByteSize ≤ source.utf8ByteSize + excess file ∧
      (source.utf8ByteSize < out.utf8ByteSize →
        ∃ line ∈ file, 10 < line.joints ∧ 11 < line.imported.length) := by
  obtain ⟨file, hparse, hout⟩ := prune_eq_ok.mp (pruneText_eq_ok.mp h)
  obtain ⟨hfile, hsource⟩ := parse_eq_ok.mp hparse
  have hle := utf8Length_prunedLines_le hfile.read (usedNames file) []
  rw [hout, hsource, utf8Length_toList, utf8Length_toList] at hle
  refine ⟨file, hparse, hle, fun hgrows => ?_⟩
  have hexcess : 0 < excess file := by omega
  obtain ⟨line, hmem, hline⟩ := exists_of_excess_pos hexcess
  have hstatements := (hfile.read line hmem).joints_lt (by omega)
  exact ⟨line, hmem, hline, by omega⟩

/-- A line with two joints that keeps two of its three statements, and so loses nine bytes. -/
theorem utf8ByteSize_pruneText_le_three :
    pruneText "import a.*;import b.*;import c.D;\n" = .ok "import a.*; import b.*;\n" ∧
      ∃ file, parse "import a.*;import b.*;import c.D;\n".toList = .ok file ∧
        "import a.*; import b.*;\n".utf8ByteSize ≤
          "import a.*;import b.*;import c.D;\n".utf8ByteSize + excess file ∧
        ("import a.*;import b.*;import c.D;\n".utf8ByteSize <
            "import a.*; import b.*;\n".utf8ByteSize →
          ∃ line ∈ file, 10 < line.joints ∧ 11 < line.imported.length) :=
  ⟨rfl, utf8ByteSize_pruneText_le rfl⟩

/-- A line with eleven joints loses one statement and grows. -/
theorem pruneText_grows :
    let source := "import a.*;import b.*;import c.*;import d.*;import e.*;import f.*;" ++
      "import g.*;import h.*;import i.*;import j.*;import k.*;import l;\n"
    let out := "import a.*; import b.*; import c.*; import d.*; import e.*; import f.*; " ++
      "import g.*; import h.*; import i.*; import j.*; import k.*;\n"
    pruneText source = .ok out ∧ out.utf8ByteSize = source.utf8ByteSize + 1 := by
  intro source out
  have happend (s t : List Char) : (String.ofList s ++ String.ofList t).toList = s ++ t := by
    rw [String.toList_append, String.toList_ofList, String.toList_ofList]
  have hsource : source.toList = _ := happend _ _
  have hout : out.toList = _ := happend _ _
  have hprune : prune source.toList = .ok out.toList := by
    rw [hsource, hout]
    decide +kernel
  have hsize : out.utf8ByteSize = source.utf8ByteSize + 1 := by
    rw [← utf8Length_toList, ← utf8Length_toList, hsource, hout]
    decide +kernel
  exact ⟨pruneText_eq_ok.mpr hprune, hsize⟩

end FixBatch.Imports
