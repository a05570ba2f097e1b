import FixBatch.Proofs.Imports.File

/-!
# FixBatch.Proofs.Imports.Grammar

The form of import lines, said without trimming and cutting.  A line imports targets when it is made
up of blanks and phrases, of which there is at least one:

```
line = blanks phrase phrase*
phrase = `import` blanks⁺ target blanks `;` blanks
```

* `Derivation.eq_of_text_eq` — a line is made up in one way only;
* `targets?_eq_ok_iff` — the targets of a line are those of what it is made up of;
* `ReadsAs` — what any line is, and what is wrong with it;
* `pruneText_faults` — a source is refused for its first line with something wrong.
-/

namespace FixBatch.Imports

open Text

/-! ## phrases -/

/-- One statement as it stands in a line, with all its blanks. -/
structure Phrase where
  gap : List Char
  target : List Char
  /-- The blanks before the semicolon. -/
  before : List Char
  /-- The blanks after the semicolon. -/
  after : List Char
  gap_ne_nil : gap ≠ []
  gap_blank : allBlank gap = true
  isTarget : IsTarget target
  before_blank : allBlank before = true
  after_blank : allBlank after = true

namespace Phrase

/-- A phrase up to its semicolon. -/
def clause (p : Phrase) : List Char := keyword ++ (p.gap ++ p.target ++ p.before)

/-- A phrase. -/
def text (p : Phrase) : List Char := p.clause ++ ';' :: p.after

theorem semicolon_not_mem_clause (p : Phrase) : ';' ∉ p.clause := by
  have hblank {s : List Char} (h : allBlank s = true) : ';' ∉ s := fun hmem =>
    absurd (isBlank_of_mem h hmem) (by decide)
  simp [clause, keyword, hblank p.gap_blank, hblank p.before_blank, p.isTarget.no_semicolon]

/-- The parts of a phrase are found again before its semicolon. -/
theorem parts_eq_of_clause_eq {p q : Phrase} (h : p.clause = q.clause) :
    p.gap = q.gap ∧ p.target = q.target ∧ p.before = q.before := by
  have hparts : p.gap ++ p.target ++ p.before = q.gap ++ q.target ++ q.before :=
    List.append_cancel_left h
  refine ⟨?_, ?_, ?_⟩
  · rw [← leading_between p.gap_blank p.isTarget.solid p.before, hparts,
      leading_between q.gap_blank q.isTarget.solid]
  · rw [← trim_between p.gap_blank p.isTarget.solid p.before_blank, hparts,
      trim_between q.gap_blank q.isTarget.solid q.before_blank]
  · rw [← trailing_between p.gap p.isTarget.solid p.before_blank, hparts,
      trailing_between q.gap q.isTarget.solid q.before_blank]

end Phrase

/-! ## derivations -/

/-- What some phrases make up. -/
def phrasesText (ps : List Phrase) : List Char := ps.flatMap Phrase.text

theorem phrasesText_cons (p : Phrase) (ps : List Phrase) :
    phrasesText (p :: ps) = p.clause ++ ';' :: (p.after ++ phrasesText ps) := by
  simp [phrasesText, Phrase.text]

/-- Phrases never start with a blank. -/
theorem isBlank_head_phrasesText (ps : List Phrase) :
    ∀ c ∈ (phrasesText ps).head?, isBlank c = false := by
  intro c hc
  cases ps with
  | nil => cases hc
  | cons p ps =>
    obtain rfl : 'i' = c := Option.some.inj hc
    decide

/-- A way in which an import line is made up: blanks, and then phrases. -/
structure Derivation where
  indent : List Char
  phrases : List Phrase
  indent_blank : allBlank indent = true
  phrases_ne_nil : phrases ≠ []

namespace Derivation

/-- The line that is made up. -/
def text (d : Derivation) : List Char := d.indent ++ phrasesText d.phrases

/-- What the line imports, left to right. -/
def targets (d : Derivation) : List (List Char) := d.phrases.map Phrase.target

end Derivation

/-- Blanks before phrases are told apart from them. -/
theorem eq_of_blank_append_phrases {a b : List Char} {ps qs : List Phrase}
    (ha : allBlank a = true) (hb : allBlank b = true)
    (h : a ++ phrasesText ps = b ++ phrasesText qs) :
    a = b ∧ phrasesText ps = phrasesText qs := by
  have hab : a = b := by
    rw [← leading_append ha (isBlank_head_phrasesText ps), h,
      leading_append hb (isBlank_head_phrasesText qs)]
  rw [hab] at h
  exact ⟨hab, List.append_cancel_left h⟩

/-- Phrases are told apart by what they make up. -/
theorem phrases_eq_of_text_eq {ps qs : List Phrase} (h : phrasesText ps = phrasesText qs) :
    ps = qs := by
  induction ps generalizing qs with
  | nil =>
    cases qs with
    | nil => rfl
    | cons q qs => cases h
  | cons p ps ih =>
    cases qs with
    | nil => cases h
    | cons q qs =>
      rw [phrasesText_cons, phrasesText_cons] at h
      -- the first semicolon ends the first clause on both sides
      have hcut := congrArg (cutAt ';') h
      rw [cutAt_append p.semicolon_not_mem_clause, cutAt_append q.semicolon_not_mem_clause,
        Option.some.injEq, Prod.mk.injEq] at hcut
      obtain ⟨hclause, hrest⟩ := hcut
      obtain ⟨hgap, htarget, hbefore⟩ := Phrase.parts_eq_of_clause_eq hclause
      obtain ⟨hafter, hrest⟩ := eq_of_blank_append_phrases p.after_blank q.after_blank hrest
      rw [ih hrest]
      cases p
      cases q
      cases hgap
      cases htarget
      cases hbefore
      cases hafter
      rfl

/-- **One way only**: derivations of one line are the same. -/
theorem Derivation.eq_of_text_eq {d d' : Derivation} (h : d.text = d'.text) : d = d' := by
  obtain ⟨hindent, hphrases⟩ := eq_of_blank_append_phrases d.indent_blank d'.indent_blank h
  have hsame := phrases_eq_of_text_eq hphrases
  cases d
  cases d'
  cases hindent
  cases hsame
  rfl

/-! ## pieces between semicolons -/

/-- A piece before a semicolon that imports a target: blanks, and then a phrase up to there. -/
def IsStatementOf (piece target : List Char) : Prop :=
  ∃ lead, ∃ p : Phrase, allBlank lead = true ∧ piece = lead ++ p.clause ∧ p.target = target

theorem IsStatementOf.semicolon_not_mem {piece target : List Char}
    (h : IsStatementOf piece target) : ';' ∉ piece := by
  obtain ⟨lead, p, hlead, rfl, -⟩ := h
  rw [List.mem_append, not_or]
  exact ⟨fun hmem => absurd (isBlank_of_mem hlead hmem) (by decide), p.semicolon_not_mem_clause⟩

/-- A text without a semicolon is read as what it imports, if it is a statement. -/
theorem statementTarget_eq_ok_iff {piece target : List Char} (hfree : ';' ∉ piece) :
    statementTarget piece = .ok target ↔ IsStatementOf piece target := by
  constructor
  · intro h
    obtain ⟨hne, rest, hrest, rfl⟩ := statementTarget_eq_ok.mp h
    obtain ⟨htrim, hhead⟩ := afterKeyword?_eq_some_iff.mp hrest
    have hpiece : leading piece ++ trim piece ++ trailing piece = piece :=
      between_trim (by simp [htrim, keyword])
    have htrailing : trailing rest = [] := trailing_eq_nil fun c hc => by
      have hsolid : Solid (trim piece) := solid_trim (by simp [htrim, keyword])
      refine hsolid.last c ?_
      rw [htrim, List.getLast?_append, hc, Option.some_or]
      rfl
    have hsplit : leading rest ++ trim rest = rest := by
      have hbetween := between_trim hne
      rwa [htrailing, List.append_nil] at hbetween
    have hgap : leading rest ≠ [] := by
      obtain ⟨c, rest, rfl⟩ := List.exists_cons_of_ne_nil (l := rest) (by rintro rfl; exact hne rfl)
      rw [leading, List.takeWhile_cons_of_pos (hhead c rfl)]
      exact List.cons_ne_nil _ _
    obtain ⟨hsolid, hmem⟩ := solid_of_statementTarget h
    refine ⟨leading piece, ⟨leading rest, trim rest, trailing piece, [], hgap, allBlank_leading rest,
      ⟨hsolid, fun hsemi => hfree (hmem ';' hsemi)⟩, allBlank_trailing piece, allBlank_nil⟩,
      allBlank_leading piece, ?_, rfl⟩
    calc
      piece = leading piece ++ trim piece ++ trailing piece := hpiece.symm
      _ = leading piece ++ (keyword ++ (leading rest ++ trim rest ++ trailing piece)) := by
        rw [hsplit, htrim, List.append_assoc, List.append_assoc]
  · rintro ⟨lead, p, hlead, rfl, rfl⟩
    have hread := statementTarget_between hlead p.gap_ne_nil p.gap_blank p.isTarget.solid
      p.before_blank
    simpa [Phrase.clause] using hread

/-- What stands between semicolons holds none. -/
theorem semicolon_not_mem_piece {piece body : List Char} (h : piece ∈ segments (· == ';') body) :
    ';' ∉ piece := fun hmem => by
  simpa using not_sep_of_mem_segments h ';' hmem

/-- Pieces without semicolons are read as what they import, if they are statements. -/
theorem mapM_statementTarget_eq_ok {pieces ts : List (List Char)} (h : ∀ s ∈ pieces, ';' ∉ s) :
    pieces.mapM statementTarget = .ok ts ↔ List.Forall₂ IsStatementOf pieces ts := by
  rw [mapM_eq_ok]
  induction pieces generalizing ts with
  | nil => simp
  | cons piece pieces ih =>
    obtain ⟨hpiece, hpieces⟩ := List.forall_mem_cons.mp h
    simp only [List.forall₂_cons_left_iff, statementTarget_eq_ok_iff hpiece, ih hpieces]

/-- Statements between semicolons are phrases after blanks: the blanks at the start of a piece
belong to the phrase before it. -/
theorem exists_phrases {pieces ts : List (List Char)} (h : List.Forall₂ IsStatementOf pieces ts)
    (hne : pieces ≠ []) {tail : List Char} (htail : allBlank tail = true) :
    ∃ lead ps, allBlank lead = true ∧ ps ≠ [] ∧ ps.map Phrase.target = ts ∧
      [';'].intercalate pieces ++ ';' :: tail = lead ++ phrasesText ps := by
  induction h with
  | nil => exact absurd rfl hne
  | @cons piece t pieces ts hpiece hpieces ih =>
    obtain ⟨lead, p, hlead, rfl, rfl⟩ := hpiece
    cases hpieces with
    | nil =>
      refine ⟨lead, [{ p with after := tail, after_blank := htail }], hlead, List.cons_ne_nil _ _,
        rfl, ?_⟩
      simp [phrasesText, Phrase.text, Phrase.clause]
    | @cons piece' t' pieces ts hpiece' hpieces' =>
      obtain ⟨lead', ps, hlead', -, htargets, htext⟩ := ih (List.cons_ne_nil _ _)
      refine ⟨lead, { p with after := lead', after_blank := hlead' } :: ps, hlead,
        List.cons_ne_nil _ _, congrArg _ htargets, ?_⟩
      rw [List.intercalate_cons_cons, phrasesText_cons, ← htext]
      simp [Phrase.clause]

/-- Phrases after blanks are statements between semicolons, up to the blanks after the last. -/
theorem exists_pieces {ps : List Phrase} (hne : ps ≠ []) {lead : List Char}
    (hlead : allBlank lead = true) :
    ∃ pieces tail, List.Forall₂ IsStatementOf pieces (ps.map Phrase.target) ∧ pieces ≠ [] ∧
      allBlank tail = true ∧ lead ++ phrasesText ps = [';'].intercalate pieces ++ ';' :: tail := by
  induction ps generalizing lead with
  | nil => exact absurd rfl hne
  | cons p ps ih =>
    have hpiece : IsStatementOf (lead ++ p.clause) p.target := ⟨lead, p, hlead, rfl, rfl⟩
    rw [phrasesText_cons]
    cases ps with
    | nil =>
      refine ⟨[lead ++ p.clause], p.after, .cons hpiece .nil, List.cons_ne_nil _ _, p.after_blank,
        ?_⟩
      simp [phrasesText]
    | cons q qs =>
      obtain ⟨pieces, tail, hpieces, hpiecesne, htail, htext⟩ :=
        ih (List.cons_ne_nil q qs) p.after_blank
      obtain ⟨piece, pieces, rfl⟩ := List.exists_cons_of_ne_nil hpiecesne
      refine ⟨(lead ++ p.clause) :: piece :: pieces, tail, .cons hpiece hpieces,
        List.cons_ne_nil _ _, htail, ?_⟩
      rw [htext, List.intercalate_cons_cons]
      simp

/-! ## lines -/

/-- **Targets**: a line is read as importing what it is made up of. -/
theorem targets?_eq_ok_iff {line : List Char} {ts : List (List Char)} :
    targets? line = .ok ts ↔ ∃ d : Derivation, d.text = line ∧ d.targets = ts := by
  constructor
  · intro h
    obtain ⟨body, hbody, hts⟩ := targets?_eq_ok.mp h
    have hpieces := (mapM_statementTarget_eq_ok fun _ => semicolon_not_mem_piece).mp hts
    obtain ⟨lead, ps, hlead, hps, htargets, htext⟩ :=
      exists_phrases hpieces (segments_ne_nil _ body) (allBlank_trailing line)
    refine ⟨⟨leading line ++ lead, ps, by simp [allBlank_leading, hlead], hps⟩, ?_, htargets⟩
    rw [intercalate_segments] at htext
    calc
      leading line ++ lead ++ phrasesText ps = leading line ++ (body ++ ';' :: trailing line) := by
        rw [htext, List.append_assoc]
      _ = leading line ++ trim line ++ trailing line := by simp [hbody]
      _ = line := between_trim (trim_ne_nil_of_targets? h)
  · rintro ⟨d, rfl, rfl⟩
    obtain ⟨pieces, tail, hpieces, hne, htail, htext⟩ := exists_pieces d.phrases_ne_nil allBlank_nil
    have hfree : ∀ s ∈ pieces, ';' ∉ s := fun s hs => by
      obtain ⟨t, -, ht⟩ := exists_of_mem_forall₂ (R := flip IsStatementOf) hpieces.flip hs
      exact ht.semicolon_not_mem
    have hbody : phrasesText d.phrases = [';'].intercalate pieces ++ [';'] ++ tail := by
      simpa using htext
    have hsolid : Solid ([';'].intercalate pieces ++ [';']) := by
      refine ⟨by simp, fun c hc => isBlank_head_phrasesText d.phrases c ?_, fun c hc => ?_⟩
      · rwa [hbody, List.head?_append_of_ne_nil _ (by simp)]
      · rw [List.getLast?_concat] at hc
        obtain rfl : ';' = c := Option.some.inj hc
        decide
    refine targets?_eq_ok.mpr ⟨[';'].intercalate pieces, ?_, ?_⟩
    · rw [Derivation.text, hbody, ← List.append_assoc, trim_between d.indent_blank hsolid htail]
    · have hcut : segments (· == ';') ([';'].intercalate pieces) = pieces := by
        refine segments_intercalate rfl hne fun s hs c hc => beq_false_of_ne ?_
        rintro rfl
        exact hfree s hs hc
      rw [hcut]
      exact (mapM_statementTarget_eq_ok hfree).mpr hpieces

/-! ## what a line is -/

/-- A text that starts as an import does: the keyword, alone or before a blank. -/
def Opens (text : List Char) : Prop :=
  text = keyword ∨ ∃ c rest, isBlank c = true ∧ text = keyword ++ c :: rest

theorem opens_iff {text : List Char} : Opens text ↔ ∃ rest, afterKeyword? text = some rest := by
  simp only [afterKeyword?_eq_some_iff]
  constructor
  · rintro (rfl | ⟨c, rest, hc, rfl⟩)
    · exact ⟨[], (List.append_nil _).symm, by simp⟩
    · exact ⟨c :: rest, rfl, by simpa using hc⟩
  · rintro ⟨rest, rfl, hrest⟩
    cases rest with
    | nil => exact .inl (List.append_nil _)
    | cons c rest => exact .inr ⟨c, rest, hrest c rfl, rfl⟩

theorem isImportLine_iff {line : List Char} : isImportLine line = true ↔ Opens (trim line) := by
  rw [isImportLine, Option.isSome_iff_exists, opens_iff]

/-- What is wrong with a piece: it does not start as an import does, or it is the keyword alone. -/
theorem statementTarget_eq_error {piece : List Char} {fault : Fault} :
    statementTarget piece = .error fault ↔
      (¬Opens (trim piece) ∧ fault = .trailingCode) ∨ (trim piece = keyword ∧ fault = .empty) := by
  have hkeyword : Opens keyword := .inl rfl
  rw [opens_iff, statementTarget]
  cases h : afterKeyword? (trim piece) with
  | none =>
    have hne : trim piece ≠ keyword := fun heq => by
      obtain ⟨rest, hrest⟩ := opens_iff.mp hkeyword
      rw [heq, hrest] at h
      cases h
    simp [hne, eq_comm]
  | some rest =>
    obtain ⟨htrim, -⟩ := afterKeyword?_eq_some_iff.mp h
    have hnil : trim rest = [] ↔ trim piece = keyword := by
      rw [trim_eq_nil_iff, htrim, List.append_right_eq_self]
      refine ⟨fun hblank => ?_, fun hrest => by rw [hrest]; rfl⟩
      -- the trimmed piece does not end with a blank
      rcases List.eq_nil_or_concat rest with rfl | ⟨rest, c, rfl⟩
      · rfl
      · have hsolid : Solid (trim piece) := solid_trim (by simp [htrim, keyword])
        have hlast := hsolid.last c (by simp [htrim])
        rw [isBlank_of_mem hblank (by simp)] at hlast
        cases hlast
    by_cases hempty : trim rest = []
    · simp [hempty, hnil.mp hempty, eq_comm]
    · have hne : trim piece ≠ keyword := fun heq => hempty (hnil.mpr heq)
      simp [hempty, hne]

/-- A line that imports something starts as an import does. -/
theorem opens_of_targets? {line : List Char} {ts : List (List Char)} (h : targets? line = .ok ts) :
    Opens (trim line) := by
  obtain ⟨body, hbody, hts⟩ := targets?_eq_ok.mp h
  have hpieces := (mapM_statementTarget_eq_ok fun _ => semicolon_not_mem_piece).mp hts
  obtain ⟨piece, pieces, hcut⟩ := List.exists_cons_of_ne_nil (segments_ne_nil (· == ';') body)
  obtain ⟨rest, hrest⟩ := exists_append_of_segments hcut
  rw [hcut, List.forall₂_cons_left_iff] at hpieces
  obtain ⟨t, ts, ⟨lead, p, hlead, rfl, -⟩, -⟩ := hpieces
  have hsolid : Solid (trim line) := solid_trim (by simp [hbody])
  rw [hbody, hrest] at hsolid ⊢
  cases lead with
  | nil =>
    obtain ⟨c, gap, hgap⟩ := List.exists_cons_of_ne_nil p.gap_ne_nil
    refine .inr ⟨c, gap ++ p.target ++ p.before ++ rest ++ [';'], ?_, ?_⟩
    · exact isBlank_of_mem p.gap_blank (by simp [hgap])
    · simp [Phrase.clause, hgap]
  | cons c lead =>
    -- a trimmed line does not start with a blank
    have hhead := hsolid.head c rfl
    rw [isBlank_of_mem hlead List.mem_cons_self] at hhead
    cases hhead

/-- What a line is: no import line, an import line of some targets, or one with something wrong.
With its last semicolon there, what is wrong is found in the first piece that is no statement. -/
inductive ReadsAs (line : List Char) : Except Fault (Option (List (List Char))) → Prop
  | code : ¬Opens (trim line) → ReadsAs line (.ok none)
  | imports (d : Derivation) : d.text = line → ReadsAs line (.ok (some d.targets))
  | unterminated : Opens (trim line) → (trim line).getLast? ≠ some ';' →
      ReadsAs line (.error (.unterminated (String.ofList (trim line))))
  | trailingCode : Opens (trim line) → trim line = body ++ [';'] →
      segments (· == ';') body = before ++ piece :: after →
      (∀ s ∈ before, ∃ t, IsStatementOf s t) → ¬Opens (trim piece) →
      ReadsAs line (.error .trailingCode)
  | empty : Opens (trim line) → trim line = body ++ [';'] →
      segments (· == ';') body = before ++ piece :: after →
      (∀ s ∈ before, ∃ t, IsStatementOf s t) → trim piece = keyword →
      ReadsAs line (.error .empty)

/-- What is wrong with an import line: its last semicolon, or its first piece that is no
statement. -/
theorem targets?_eq_error {line : List Char} {fault : Fault} :
    targets? line = .error fault ↔
      ((trim line).getLast? ≠ some ';' ∧ fault = .unterminated (String.ofList (trim line))) ∨
        ∃ body before piece after, trim line = body ++ [';'] ∧
          segments (· == ';') body = before ++ piece :: after ∧
          (∀ s ∈ before, ∃ t, IsStatementOf s t) ∧
          ((¬Opens (trim piece) ∧ fault = .trailingCode) ∨
            (trim piece = keyword ∧ fault = .empty)) := by
  by_cases hlast : (trim line).getLast? = some ';'
  · obtain ⟨body, hbody⟩ := List.getLast?_eq_some_iff.mp hlast
    have hread (s : List Char) (hs : s ∈ segments (· == ';') body) :
        (∃ t, statementTarget s = .ok t) ↔ ∃ t, IsStatementOf s t :=
      exists_congr fun t => statementTarget_eq_ok_iff (semicolon_not_mem_piece hs)
    rw [targets?, if_pos hlast, hbody, List.dropLast_concat, mapM_eq_error]
    constructor
    · rintro ⟨before, piece, after, hcut, hbefore, hpiece⟩
      refine .inr ⟨body, before, piece, after, rfl, hcut, fun s hs => ?_,
        statementTarget_eq_error.mp hpiece⟩
      exact (hread s (by rw [hcut]; exact List.mem_append_left _ hs)).mp (hbefore s hs)
    · rintro (⟨hne, -⟩ | ⟨body', before, piece, after, hbody', hcut, hbefore, hpiece⟩)
      · exact absurd (by simp) hne
      · obtain rfl : body = body' := List.append_cancel_right hbody'
        refine ⟨before, piece, after, hcut, fun s hs => ?_, statementTarget_eq_error.mpr hpiece⟩
        exact (hread s (by rw [hcut]; exact List.mem_append_left _ hs)).mpr (hbefore s hs)
  · rw [targets?, if_neg hlast]
    constructor
    · intro h
      cases h
      exact .inl ⟨hlast, rfl⟩
    · rintro (⟨-, rfl⟩ | ⟨body, before, piece, after, hbody, -⟩)
      · rfl
      · exact absurd (by simp [hbody]) hlast

/-- What is read from a line: nothing from one that is no import line, otherwise its targets. -/
theorem map_targets_ofText (line : List Char) : (Line.ofText line).map Line.targets =
    if isImportLine line then (targets? line).map some else .ok none := by
  rw [Line.ofText]
  cases isImportLine line with
  | false => rfl
  | true => cases targets? line <;> rfl

/-- **Lines**: every line is read as what it is. -/
theorem readsAs_iff {line : List Char} {outcome : Except Fault (Option (List (List Char)))} :
    ReadsAs line outcome ↔ (Line.ofText line).map Line.targets = outcome := by
  rw [map_targets_ofText]
  constructor
  · intro h
    cases h with
    | code hopens => rw [if_neg (isImportLine_iff.not.mpr hopens)]
    | imports d hd =>
      have hread := targets?_eq_ok_iff.mpr ⟨d, hd, rfl⟩
      rw [if_pos (isImportLine_iff.mpr (opens_of_targets? hread)), hread]
      rfl
    | unterminated hopens hlast =>
      rw [if_pos (isImportLine_iff.mpr hopens), targets?_eq_error.mpr (.inl ⟨hlast, rfl⟩)]
      rfl
    | trailingCode hopens hbody hcut hbefore hpiece =>
      rw [if_pos (isImportLine_iff.mpr hopens), targets?_eq_error.mpr
        (.inr ⟨_, _, _, _, hbody, hcut, hbefore, .inl ⟨hpiece, rfl⟩⟩)]
      rfl
    | empty hopens hbody hcut hbefore hpiece =>
      rw [if_pos (isImportLine_iff.mpr hopens), targets?_eq_error.mpr
        (.inr ⟨_, _, _, _, hbody, hcut, hbefore, .inr ⟨hpiece, rfl⟩⟩)]
      rfl
  · rintro rfl
    by_cases himport : isImportLine line = true
    · have hopens := isImportLine_iff.mp himport
      rw [if_pos himport]
      cases hread : targets? line with
      | ok ts =>
        obtain ⟨d, hd, rfl⟩ := targets?_eq_ok_iff.mp hread
        exact .imports d hd
      | error fault =>
        rcases targets?_eq_error.mp hread with ⟨hlast, rfl⟩ |
          ⟨body, before, piece, after, hbody, hcut, hbefore, ⟨hpiece, rfl⟩ | ⟨hpiece, rfl⟩⟩
        · exact .unterminated hopens hlast
        · exact .trailingCode hopens hbody hcut hbefore hpiece
        · exact .empty hopens hbody hcut hbefore hpiece
    · rw [if_neg himport]
      exact .code (isImportLine_iff.not.mp himport)

/-! ## sources -/

/-- An import line with something wrong. -/
def IsMalformed (line : List Char) : Prop := ∃ fault, ReadsAs line (.error fault)

theorem readsAs_error_iff {line : List Char} {fault : Fault} :
    ReadsAs line (.error fault) ↔ Line.ofText line = .error fault := by
  rw [readsAs_iff, map_eq_error]

/-- A line that is read has nothing wrong with it. -/
theorem not_isMalformed_iff {line : List Char} :
    ¬IsMalformed line ↔ ∃ read, Line.ofText line = .ok read := by
  simp only [IsMalformed, readsAs_error_iff]
  cases Line.ofText line <;> simp

/-- The import lines with something wrong are those that are not made up as import lines are. -/
theorem isMalformed_iff {line : List Char} :
    IsMalformed line ↔ Opens (trim line) ∧ ¬∃ d : Derivation, d.text = line := by
  obtain ⟨outcome, houtcome⟩ : ∃ outcome, ReadsAs line outcome := ⟨_, readsAs_iff.mpr rfl⟩
  constructor
  · rintro ⟨fault, hfault⟩
    refine ⟨?_, fun ⟨d, hd⟩ => ?_⟩
    · cases hfault with
      | unterminated hopens | trailingCode hopens | empty hopens => exact hopens
    · have hread := (readsAs_iff.mp hfault).symm.trans (readsAs_iff.mp (.imports d hd))
      cases hread
  · rintro ⟨hopens, hnone⟩
    cases outcome with
    | error fault => exact ⟨fault, houtcome⟩
    | ok targets =>
      cases houtcome with
      | code hcode => exact absurd hopens hcode
      | imports d hd => exact absurd ⟨d, hd⟩ hnone

/-- **Faults**: a source is refused when some line of it is an import line with something wrong, for
the first such line.  Every line is read as the one thing that it is, an import line as importing
what it is made up of, which is so in one way only. -/
theorem pruneText_faults (source : String) :
    (∀ m, pruneText source = .error m ↔ ∃ before line after,
      lines source.toList = before ++ line :: after ∧ (∀ l ∈ before, ¬IsMalformed l) ∧
      m.line = before.length + 1 ∧ ReadsAs line (.error m.fault)) ∧
    ((∃ m, pruneText source = .error m) ↔ ∃ line ∈ lines source.toList, IsMalformed line) ∧
    ∀ line,
      (∀ outcome, ReadsAs line outcome ↔ (Line.ofText line).map Line.targets = outcome) ∧
      (IsMalformed line ↔ Opens (trim line) ∧ ¬∃ d : Derivation, d.text = line) ∧
      ∀ d d' : Derivation, d.text = line → d'.text = line → d = d' := by
  have hfirst (m : Malformed) : pruneText source = .error m ↔ ∃ before line after,
      lines source.toList = before ++ line :: after ∧ (∀ l ∈ before, ¬IsMalformed l) ∧
      m.line = before.length + 1 ∧ ReadsAs line (.error m.fault) := by
    rw [pruneText, map_eq_error, prune, map_eq_error, parse, parseLines_eq_error]
    simp only [not_isMalformed_iff, readsAs_error_iff, Nat.add_comm 1]
  refine ⟨hfirst, ?_, fun line => ⟨fun _ => readsAs_iff, isMalformed_iff, ?_⟩⟩
  · constructor
    · rintro ⟨m, hm⟩
      obtain ⟨before, line, after, hlines, -, -, hline⟩ := (hfirst m).mp hm
      exact ⟨line, by simp [hlines], m.fault, hline⟩
    · rintro ⟨line, hmem, hline⟩
      cases hprune : pruneText source with
      | error m => exact ⟨m, rfl⟩
      | ok out =>
        obtain ⟨_, hprune, -⟩ := map_eq_ok.mp hprune
        obtain ⟨file, hfile, -⟩ := map_eq_ok.mp hprune
        obtain ⟨hlines, hread⟩ := parseLines_eq_ok.mp hfile
        rw [← hlines] at hmem
        obtain ⟨read, hreadmem, rfl⟩ := List.mem_map.mp hmem
        exact absurd hline (not_isMalformed_iff.mpr ⟨read, hread read hreadmem⟩)
  · rintro d d' rfl h
    exact Derivation.eq_of_text_eq h.symm

/-- The first line is no import line, and of the two faults after it the first one counts. -/
example : pruneText "import;\nimport a.B; import ;\nimport c" = .error ⟨2, .empty⟩ := rfl

end FixBatch.Imports
