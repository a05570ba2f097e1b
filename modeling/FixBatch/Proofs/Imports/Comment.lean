import FixBatch.Proofs.Imports.Grammar
import FixBatch.Proofs.Imports.Prune
import FixBatch.Proofs.Imports.Use
import Mathlib.Data.List.Nodup

/-!
# FixBatch.Proofs.Imports.Comment

Imports and comment blocks.  A block is opened by a line `/*` of its own and closed by a line `*/`.
Pruning goes by lines and knows no comments, so an import in a block is one like any other: it may
be the first import of its target, and then those outside are repetitions and go.

* `openAfter_prunedLines` — pruning leaves blocks as they are;
* `outside_pruneText` — an import in use stands outside the blocks of a pruned text just in case the
  first import of its target stands outside those of the source;
* `pruneText_drops_outside` — one that goes.
-/

namespace FixBatch.Imports

open Text

/-! ## blocks -/

/-- The text of a line that opens a block. -/
def opening : List Char := ['/', '*']

/-- The text of a line that closes a block. -/
def closing : List Char := ['*', '/']

/-- Whether a block is open after a line, from whether one is open before it. -/
def openAfter (before : Bool) (line : List Char) : Bool :=
  if trim line = opening then true else if trim line = closing then false else before

/-- Whether a block is open after some lines. -/
def endsInBlock (lines : List Line) : Bool := (lines.map Line.text).foldl openAfter false

/-- A line of a file before which no block is open. -/
def StandsOutside (line : Line) (file : List Line) : Prop :=
  ∃ before after, file = before ++ line :: after ∧ endsInBlock before = false

/-- An import line neither opens nor closes a block. -/
theorem openAfter_of_opens {line : List Char} (h : Opens (trim line)) (before : Bool) :
    openAfter before line = before := by
  have hkeyword : (trim line).head? = some 'i' := by
    rcases h with h | ⟨c, rest, -, h⟩ <;> rw [h] <;> rfl
  have hopening : trim line ≠ opening := fun heq => by
    rw [heq] at hkeyword
    exact absurd hkeyword (by decide)
  have hclosing : trim line ≠ closing := fun heq => by
    rw [heq] at hkeyword
    exact absurd hkeyword (by decide)
  rw [openAfter, if_neg hopening, if_neg hclosing]

/-- What is written for a line opens and closes what the line does. -/
theorem openAfter_pruned {line : Line} (h : line.IsRead) (used seen : List (List Char))
    (before : Bool) : openAfter before (line.pruned used seen) = openAfter before line.text := by
  cases htargets : line.targets with
  | none => rw [Line.pruned_of_none htargets]
  | some targets =>
    have hread := h.targets? htargets
    rw [Line.pruned_of_some htargets]
    split
    · rfl
    · rw [openAfter_of_opens (opens_of_targets? hread)]
      split
      · rfl
      · next hne =>
        have htarget : ∀ t ∈ keptTargets used seen targets, IsTarget t := fun t ht =>
          (isTarget_of_targets? hread t ((keptTargets_sublist ..).subset ht)).1
        exact openAfter_of_opens (opens_of_targets? (targets?_rebuilt hne htarget)) before

/-- **Blocks**: pruning leaves open what was open. -/
theorem openAfter_prunedLines {file : List Line} (h : ∀ line ∈ file, line.IsRead)
    (used seen : List (List Char)) (before : Bool) :
    (prunedLines used seen file).foldl openAfter before =
      (file.map Line.text).foldl openAfter before := by
  induction file generalizing seen before with
  | nil => rfl
  | cons line file ih =>
    obtain ⟨hline, hfile⟩ := List.forall_mem_cons.mp h
    rw [prunedLines, List.map_cons, List.foldl_cons, List.foldl_cons, openAfter_pruned hline,
      ih hfile]

/-- Lines that are gone open and close nothing. -/
theorem openAfter_filter (lines : List (List Char)) (before : Bool) :
    (lines.filter (!·.isEmpty)).foldl openAfter before = lines.foldl openAfter before := by
  induction lines generalizing before with
  | nil => rfl
  | cons line lines ih =>
    cases line with
    | nil => exact ih before
    | cons c line => exact ih (openAfter before (c :: line))

/-! ## the first import of a target -/

/-- A line that imports a target, and the lines before it, which do not. -/
structure IsFirstImport (target : List Char) (before : List Line) (line : Line)
    (file : List Line) : Prop where
  split : ∃ after, file = before ++ line :: after
  mem : target ∈ line.imported
  fresh : target ∉ before.flatMap Line.imported

/-- What a file imports is imported first somewhere. -/
theorem exists_isFirstImport {file : List Line} {target : List Char}
    (h : target ∈ file.flatMap Line.imported) :
    ∃ before line, IsFirstImport target before line file := by
  induction file with
  | nil => contradiction
  | cons line file ih =>
    by_cases hline : target ∈ line.imported
    · exact ⟨[], line, ⟨file, rfl⟩, hline, List.not_mem_nil⟩
    · rw [List.flatMap_cons, List.mem_append] at h
      obtain ⟨before, first, ⟨after, hsplit⟩, hmem, hfresh⟩ := ih (h.resolve_left hline)
      refine ⟨line :: before, first, ⟨after, by rw [hsplit, List.cons_append]⟩, hmem, ?_⟩
      rw [List.flatMap_cons, List.mem_append]
      exact not_or.mpr ⟨hline, hfresh⟩

/-- Where no target is imported twice, no two lines import the same one. -/
theorem before_eq_of_nodup {before before' after after' : List Line} {line line' : Line}
    {target : List Char} (hnodup : ((before ++ line :: after).flatMap Line.imported).Nodup)
    (hsame : before ++ line :: after = before' ++ line' :: after') (hline : target ∈ line.imported)
    (hline' : target ∈ line'.imported) : before = before' := by
  have hdisjoint := (List.nodup_flatMap.mp hnodup).2
  -- the longer part before would hold the line that comes first
  rcases List.append_eq_append_iff.mp hsame with ⟨between, rfl, hrest⟩ | ⟨between, rfl, hrest⟩
  · cases between with
    | nil => rw [List.append_nil]
    | cons first between =>
      obtain ⟨rfl, rfl⟩ := List.cons.inj hrest
      have hpair := (List.pairwise_append.mp hdisjoint).2.1
      exact absurd hline' (List.disjoint_left.mp
        ((List.pairwise_cons.mp hpair).1 line' (by simp)) hline)
  · cases between with
    | nil => rw [List.append_nil]
    | cons first between =>
      obtain ⟨rfl, rfl⟩ := List.cons.inj hrest
      rw [List.append_assoc] at hdisjoint
      have hpair := (List.pairwise_append.mp hdisjoint).2.1
      exact absurd hline (List.disjoint_left.mp
        ((List.pairwise_cons.mp hpair).1 line (by simp)) hline')

/-! ## what is written for a line -/

/-- What is written for a file up to one of its lines, for that line, and for the lines after it. -/
theorem prunedLines_append (used : List (List Char)) (before : List Line) (line : Line)
    (after : List Line) : ∀ seen, ∃ seen',
      (∀ t, t ∈ seen' ↔ t ∈ before.flatMap Line.imported ∨ t ∈ seen) ∧
      prunedLines used seen (before ++ line :: after) =
        prunedLines used seen before ++
          line.pruned used seen' :: prunedLines used (line.imported ++ seen') after := by
  induction before with
  | nil => exact fun seen => ⟨seen, by simp, rfl⟩
  | cons first before ih =>
    intro seen
    obtain ⟨seen', hseen', hlines⟩ := ih (first.imported ++ seen)
    refine ⟨seen', fun t => ?_, ?_⟩
    · rw [hseen', List.flatMap_cons, List.mem_append, List.mem_append]
      tauto
    · rw [List.cons_append, prunedLines, hlines, prunedLines, List.cons_append]

/-- A used target that was not seen before a line is kept there. -/
theorem mem_keptTargets {used seen targets : List (List Char)} {target : List Char}
    (hused : isUsed used target = true) (hseen : target ∉ seen) (h : target ∈ targets) :
    target ∈ keptTargets used seen targets := by
  have hfirst : IsFirstOccurrence targets target :=
    mem_firstOccurrences_iff_isFirstOccurrence.mp (mem_firstOccurrences_iff.mpr h)
  have hany : seen.any (· == target) = false := by
    rw [List.any_eq_false]
    exact fun t ht hsame => hseen (eq_of_beq hsame ▸ ht)
  exact List.mem_filter.mpr ⟨mem_firstOccurrencesAfter_iff.mpr ⟨hany, hfirst⟩, hused⟩

/-- What is written for a line that keeps a target is a line that imports it. -/
theorem exists_line_of_mem_kept {line : Line} {used seen : List (List Char)} {target : List Char}
    (hread : line.IsRead) (hline : EndAlike line.text line.text)
    (h : target ∈ keptTargets used seen line.imported) :
    line.pruned used seen ≠ [] ∧ ∀ line' : Line, line'.IsRead →
      line'.text = line.pruned used seen → target ∈ line'.imported := by
  obtain ⟨left, hleft, hpruned, hleft'⟩ := exists_remnant hread hline used seen
  have himported : left.toList.flatMap Line.imported = keptTargets used seen line.imported :=
    hleft.imported
  cases left with
  | none =>
    rw [← himported] at h
    contradiction
  | some written =>
    obtain ⟨hwritten, hend⟩ := hleft' written rfl
    have htext : written.text = line.pruned used seen := hpruned
    refine ⟨htext ▸ hend.ne_nil, fun line' hread' htext' => ?_⟩
    -- a text is read in one way
    have hsame : line' = written := by
      rw [Line.IsRead, htext', ← htext, hwritten] at hread'
      exact (Except.ok.inj hread').symm
    rw [hsame]
    simpa [← himported] using h

/-- The lines of a file from some point on. -/
theorem IsFile.drop {before file : List Line} (h : IsFile (before ++ file)) : IsFile file := by
  induction before with
  | nil => exact h
  | cons line before ih => exact ih h.tail

theorem statement_infix_statements {ts : List (List Char)} {t : List Char} (h : t ∈ ts) :
    statement t <:+: statements ts := by
  induction ts with
  | nil => contradiction
  | cons u us ih =>
    cases us with
    | nil =>
      have hsame : statements [u] = statement t := by
        rw [List.mem_singleton.mp h, statements_singleton]
      exact hsame ▸ List.infix_rfl
    | cons v vs =>
      rw [statements_cons_cons]
      rcases List.mem_cons.mp h with rfl | h
      · exact (List.prefix_append ..).isInfix
      · exact (ih h).trans ((List.suffix_cons ..).trans (List.suffix_append ..)).isInfix

/-- A statement with a single blank in it stays so if its target is kept. -/
theorem statement_infix_pruned {line : Line} {used seen : List (List Char)} {target : List Char}
    (h : target ∈ keptTargets used seen line.imported) (htext : statement target <:+: line.text) :
    statement target <:+: line.pruned used seen := by
  cases htargets : line.targets with
  | none => rwa [Line.pruned_of_none htargets]
  | some targets =>
    rw [Line.imported, htargets, Option.getD_some] at h
    rw [Line.pruned_of_some htargets, if_neg (List.ne_nil_of_mem h), rebuilt_eq]
    split
    · exact htext
    · exact (statement_infix_statements h).trans ⟨leading line.text, trailing line.text, rfl⟩

/-! ## whole sources -/

/-- **First imports**: the first import of a target in use stays, and so does what is open before
it. -/
theorem exists_isFirstImport_of_prune {source out : List Char} (h : prune source = .ok out) :
    ∃ file file', parse source = .ok file ∧ parse out = .ok file' ∧
      (file'.flatMap Line.imported).Nodup ∧
      ∀ target before line, Needs file target → IsFirstImport target before line file →
        ∃ before' line', IsFirstImport target before' line' file' ∧
          endsInBlock before' = endsInBlock before ∧
          (statement target <:+: line.text → statement target <:+: line'.text) := by
  obtain ⟨file, file', hparse, hparse', hred, htexts⟩ := exists_pruned_of_prune h
  obtain ⟨hfile, -⟩ := parse_eq_ok.mp hparse
  obtain ⟨hfile', -⟩ := parse_eq_ok.mp hparse'
  have hnodup : (file'.flatMap Line.imported).Nodup := by
    rw [hred.imported]
    exact (nodup_firstOccurrences _).filter _
  refine ⟨file, file', hparse, hparse', hnodup, fun target before line hneeds hfirst => ?_⟩
  obtain ⟨after, hsplit⟩ := hfirst.split
  obtain ⟨seen, hseen, hlines⟩ := prunedLines_append (usedNames file) before line after []
  have hkept : target ∈ keptTargets (usedNames file) seen line.imported := by
    refine mem_keptTargets (isUsed_iff.mpr hneeds) ?_ hfirst.mem
    rw [hseen]
    exact not_or.mpr ⟨hfirst.fresh, List.not_mem_nil⟩
  have hread : ∀ l ∈ before ++ line :: after, l.IsRead := hsplit ▸ hfile.read
  obtain ⟨hbefore, hrest⟩ := List.forall_mem_append.mp hread
  have hend : EndAlike line.text line.text := (hsplit ▸ hfile).drop.broken.endAlike_head
  obtain ⟨hne, himports⟩ := exists_line_of_mem_kept (hrest line List.mem_cons_self) hend hkept
  -- the lines of the pruned text up to the one that is written for `line`
  rw [← hsplit] at hlines
  rw [hlines, List.filter_append, List.filter_cons_of_pos (by simpa using hne)] at htexts
  obtain ⟨before', rest, rfl, hbefore', hrest'⟩ := List.map_eq_append_iff.mp htexts
  obtain ⟨line', after', rfl, hline', -⟩ := List.map_eq_cons_iff.mp hrest'
  have hmem' : target ∈ line'.imported :=
    himports line' (hfile'.read line' (by simp)) hline'
  have hopen : endsInBlock before' = endsInBlock before := by
    rw [endsInBlock, hbefore', openAfter_filter, openAfter_prunedLines hbefore, endsInBlock]
  have hfresh' : target ∉ before'.flatMap Line.imported := fun hmem => by
    rw [List.flatMap_append, List.flatMap_cons] at hnodup
    exact (List.nodup_append.mp hnodup).2.2 target hmem target
      (List.mem_append_left _ hmem') rfl
  refine ⟨before', line', ⟨⟨after', rfl⟩, hmem', hfresh'⟩, hopen, fun htext => ?_⟩
  rw [hline']
  exact statement_infix_pruned hkept htext

/-- **Comment blocks**: of an import in use, what counts is where its target is imported first.  If
that is outside the blocks, the import stays outside, written out if it was; if it is in a block,
all those outside go. -/
theorem outside_pruneText {source out : String} (h : pruneText source = .ok out) :
    ∃ file file', parse source.toList = .ok file ∧ parse out.toList = .ok file' ∧
      ∀ target ∈ file.flatMap Line.imported, Needs file target →
        ∃ before line, IsFirstImport target before line file ∧
          (endsInBlock before = false →
            ∃ line', StandsOutside line' file' ∧ target ∈ line'.imported ∧
              (statement target <:+: line.text → statement target <:+: line'.text)) ∧
          (endsInBlock before = true →
            ∀ line', StandsOutside line' file' → target ∉ line'.imported) := by
  obtain ⟨file, file', hparse, hparse', hnodup, hfirsts⟩ :=
    exists_isFirstImport_of_prune (pruneText_eq_ok.mp h)
  refine ⟨file, file', hparse, hparse', fun target htarget hneeds => ?_⟩
  obtain ⟨before, line, hfirst⟩ := exists_isFirstImport htarget
  obtain ⟨before', line', hfirst', hopen, htext⟩ := hfirsts target before line hneeds hfirst
  obtain ⟨after', hsplit⟩ := hfirst'.split
  refine ⟨before, line, hfirst, fun houtside => ?_, fun hinside other hother hmem => ?_⟩
  · exact ⟨line', ⟨before', after', hsplit, hopen.trans houtside⟩, hfirst'.mem, htext⟩
  · -- another import of the target would be the same line
    obtain ⟨before'', after'', hsplit', houtside⟩ := hother
    rw [hsplit] at hnodup hsplit'
    have hsame : before' = before'' := before_eq_of_nodup hnodup hsplit' hfirst'.mem hmem
    rw [← hsame, hopen, hinside] at houtside
    cases houtside

/-- An import in use that comes first outside a block, and again in one. -/
theorem outside_pruneText_before_block :
    pruneText "import a.b.C;\n/*\nimport a.b.C;\n*/\nclass A extends C {}\n" =
        .ok "import a.b.C;\n/*\n*/\nclass A extends C {}\n" ∧
      ∃ file file',
        parse "import a.b.C;\n/*\nimport a.b.C;\n*/\nclass A extends C {}\n".toList = .ok file ∧
        parse "import a.b.C;\n/*\n*/\nclass A extends C {}\n".toList = .ok file' ∧
        ∀ target ∈ file.flatMap Line.imported, Needs file target →
          ∃ before line, IsFirstImport target before line file ∧
            (endsInBlock before = false →
              ∃ line', StandsOutside line' file' ∧ target ∈ line'.imported ∧
                (statement target <:+: line.text → statement target <:+: line'.text)) ∧
            (endsInBlock before = true →
              ∀ line', StandsOutside line' file' → target ∉ line'.imported) :=
  ⟨rfl, outside_pruneText rfl⟩

/-- The import of a type that the code after it extends goes, for one in a block before it. -/
theorem pruneText_drops_outside :
    pruneText "/*\nimport a.b.C;\n*/\nimport a.b.C;\nclass A extends C {}\n" =
        .ok "/*\nimport a.b.C;\n*/\nclass A extends C {}\n" ∧
      ∃ file file' live code,
        parse "/*\nimport a.b.C;\n*/\nimport a.b.C;\nclass A extends C {}\n".toList = .ok file ∧
        parse "/*\nimport a.b.C;\n*/\nclass A extends C {}\n".toList = .ok file' ∧
        StandsOutside live file ∧ live.text = "import a.b.C;\n".toList ∧
        live.targets = some ["a.b.C".toList] ∧ IsSingleType "a.b.C".toList ∧
        StandsOutside code file ∧ code.targets = none ∧ IsSimpleName "C".toList "a.b.C".toList ∧
        IsWord "C".toList code.text ∧
        ∀ line', StandsOutside line' file' → "a.b.C".toList ∉ line'.imported := by
  let opens : Line := ⟨"/*\n".toList, none⟩
  let live : Line := ⟨"import a.b.C;\n".toList, some ["a.b.C".toList]⟩
  let closes : Line := ⟨"*/\n".toList, none⟩
  let code : Line := ⟨"class A extends C {}\n".toList, none⟩
  have hlive : StandsOutside live [opens, live, closes, live, code] :=
    ⟨[opens, live, closes], [code], rfl, by decide⟩
  have hcode : StandsOutside code [opens, live, closes, live, code] :=
    ⟨[opens, live, closes, live], [], rfl, by decide⟩
  have hsingle : IsSingleType "a.b.C".toList := by unfold IsSingleType; decide
  have hname : IsSimpleName "C".toList "a.b.C".toList := isSimpleName_iff.mpr rfl
  have hword : IsWord "C".toList code.text := mem_words_iff.mp (by decide +kernel)
  have hnone : ∀ line', StandsOutside line' [opens, live, closes, code] →
      "a.b.C".toList ∉ line'.imported := by
    rintro line' ⟨before, after, hsplit, houtside⟩ hmem
    have hbefore : [opens] = before :=
      before_eq_of_nodup (by decide) hsplit (show "a.b.C".toList ∈ live.imported by decide) hmem
    rw [← hbefore] at houtside
    exact absurd houtside (by decide)
  exact ⟨rfl, [opens, live, closes, live, code], [opens, live, closes, code], live, code, rfl, rfl,
    hlive, rfl, rfl, hsingle, hcode, rfl, hname, hword, hnone⟩

end FixBatch.Imports
