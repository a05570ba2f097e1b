import FixBatch.Imports.Line
import FixBatch.Proofs.Except
import FixBatch.Proofs.Text.Blank
import FixBatch.Proofs.Text.Lines
import FixBatch.Proofs.Text.Segments

/-!
# FixBatch.Proofs.Imports.Line

Writing import lines and reading them back.  A target is a solid text without a semicolon, and the
statements for some targets are

```
statements [t₁, …, tₙ] = `import t₁; … import tₙ;`
```

which a rebuilt line has between the blanks of the line it stands for:

* `isTarget_of_targets?` — reading gives targets and nothing else;
* `targets?_rebuilt` — a rebuilt line is an import line of the targets it was built from;
* `endAlike_rebuilt` — a rebuilt line ends like the line it stands for.
-/

namespace FixBatch.Imports

open Text

/-! ## the keyword -/

/-- The word that every import statement starts with. -/
def keyword : List Char := ['i', 'm', 'p', 'o', 'r', 't']

theorem afterKeyword?_eq_some_iff {s rest : List Char} :
    afterKeyword? s = some rest ↔ s = keyword ++ rest ∧ ∀ c ∈ rest.head?, isBlank c = true := by
  constructor
  · intro h
    unfold afterKeyword? at h
    split at h
    · next rest' =>
      cases rest' with
      | nil => cases h; exact ⟨rfl, by simp⟩
      | cons c r =>
        simp only [Option.ite_none_right_eq_some, Option.some.injEq] at h
        obtain ⟨hc, rfl⟩ := h
        exact ⟨rfl, by simpa using hc⟩
    · contradiction
  · rintro ⟨rfl, h⟩
    cases rest with
    | nil => rfl
    | cons c r => simp [keyword, afterKeyword?, h c rfl]

/-! ## statements -/

/-- What can be imported: a solid text that holds no semicolon. -/
structure IsTarget (t : List Char) : Prop where
  solid : Solid t
  no_semicolon : ';' ∉ t

theorem isTarget_iff {t : List Char} : IsTarget t ↔ Solid t ∧ ';' ∉ t :=
  ⟨fun h => ⟨h.solid, h.no_semicolon⟩, fun h => ⟨h.1, h.2⟩⟩

instance : DecidablePred IsTarget := fun _ => decidable_of_iff _ isTarget_iff.symm

theorem solid_keyword_append {t : List Char} (gap : List Char) (ht : Solid t) :
    Solid (keyword ++ (gap ++ t)) where
  ne_nil := by simp [keyword]
  head := by
    intro c hc
    obtain rfl : 'i' = c := Option.some.inj hc
    decide
  last := by
    intro c hc
    rw [List.getLast?_append_of_ne_nil _ (by simp [ht.ne_nil]),
      List.getLast?_append_of_ne_nil _ ht.ne_nil] at hc
    exact ht.last c hc

theorem statementTarget_eq_ok {s t : List Char} :
    statementTarget s = .ok t ↔
      t ≠ [] ∧ ∃ rest, afterKeyword? (trim s) = some rest ∧ trim rest = t := by
  unfold statementTarget
  cases afterKeyword? (trim s) with
  | none => simp
  | some rest =>
    simp only [Option.some.injEq, exists_eq_left']
    split
    · next hnil =>
      rw [List.isEmpty_iff.mp hnil]
      exact ⟨fun h => absurd h (by simp), fun ⟨hne, h⟩ => absurd h.symm hne⟩
    · next hne =>
      rw [List.isEmpty_iff] at hne
      exact ⟨fun h => ⟨Except.ok.inj h ▸ hne, Except.ok.inj h⟩, fun ⟨_, h⟩ => by rw [h]⟩

/-- A statement without its semicolon is read as what it imports, whatever blanks it has. -/
theorem statementTarget_between {lead gap t before : List Char} (hlead : allBlank lead = true)
    (hne : gap ≠ []) (hgap : allBlank gap = true) (ht : Solid t)
    (hbefore : allBlank before = true) :
    statementTarget (lead ++ (keyword ++ (gap ++ t)) ++ before) = .ok t := by
  refine statementTarget_eq_ok.mpr ⟨ht.ne_nil, gap ++ t, ?_, ?_⟩
  · rw [trim_between hlead (solid_keyword_append gap ht) hbefore]
    refine afterKeyword?_eq_some_iff.mpr ⟨rfl, fun c hc => ?_⟩
    obtain ⟨b, gap, rfl⟩ := List.exists_cons_of_ne_nil hne
    obtain rfl : b = c := Option.some.inj hc
    exact isBlank_of_mem hgap List.mem_cons_self
  · have htrim := trim_between hgap ht allBlank_nil
    rwa [List.append_nil] at htrim

/-- A statement with a single blank in it is read as what it imports. -/
theorem statementTarget_keyword {t : List Char} (ht : Solid t) :
    statementTarget (keyword ++ ' ' :: t) = .ok t := by
  have hread := statementTarget_between allBlank_nil (List.cons_ne_nil ' ' []) (by decide) ht
    allBlank_nil
  rwa [List.append_nil] at hread

/-- What a statement imports stands in the statement and is solid. -/
theorem solid_of_statementTarget {s t : List Char} (h : statementTarget s = .ok t) :
    Solid t ∧ ∀ c ∈ t, c ∈ s := by
  obtain ⟨hne, rest, hrest, rfl⟩ := statementTarget_eq_ok.mp h
  obtain ⟨hs, -⟩ := afterKeyword?_eq_some_iff.mp hrest
  refine ⟨solid_trim hne, fun c hc => mem_of_mem_trim ?_⟩
  rw [hs]
  exact List.mem_append_right _ (mem_of_mem_trim hc)

/-! ## reading a line -/

theorem targets?_eq_ok {line : List Char} {ts : List (List Char)} :
    targets? line = .ok ts ↔ ∃ body, trim line = body ++ [';'] ∧
      (segments (· == ';') body).mapM statementTarget = .ok ts := by
  simp only [targets?]
  constructor
  · intro h
    split at h
    · next hlast =>
      obtain ⟨body, hbody⟩ := List.getLast?_eq_some_iff.mp hlast
      rw [hbody, List.dropLast_concat] at h
      exact ⟨body, hbody, h⟩
    · contradiction
  · rintro ⟨body, hbody, h⟩
    rw [hbody, List.getLast?_concat, if_pos rfl, List.dropLast_concat]
    exact h

/-- An import line has something in it. -/
theorem trim_ne_nil_of_targets? {line : List Char} {ts : List (List Char)}
    (h : targets? line = .ok ts) : trim line ≠ [] := by
  obtain ⟨body, hbody, -⟩ := targets?_eq_ok.mp h
  simp [hbody]

/-- An import line imports something. -/
theorem ne_nil_of_targets? {line : List Char} {ts : List (List Char)}
    (h : targets? line = .ok ts) : ts ≠ [] := by
  obtain ⟨body, -, hts⟩ := targets?_eq_ok.mp h
  rintro rfl
  have hnil := List.forall₂_nil_right_iff.mp (mapM_eq_ok.mp hts)
  exact segments_ne_nil _ body hnil

/-- **Reading targets**: what is read from a line stands in its trimmed text and is a target. -/
theorem isTarget_of_targets? {line : List Char} {ts : List (List Char)}
    (h : targets? line = .ok ts) : ∀ t ∈ ts, IsTarget t ∧ ∀ c ∈ t, c ∈ trim line := by
  obtain ⟨body, hbody, hts⟩ := targets?_eq_ok.mp h
  intro t ht
  obtain ⟨s, hs, hst⟩ := exists_of_mem_mapM hts ht
  obtain ⟨hsolid, hmem⟩ := solid_of_statementTarget hst
  refine ⟨⟨hsolid, fun hsemi => ?_⟩, fun c hc => ?_⟩
  · simpa using not_sep_of_mem_segments hs ';' (hmem ';' hsemi)
  · rw [hbody]
    exact List.mem_append_left _ (mem_of_mem_segments hs (hmem c hc))

/-! ## statements on one line -/

/-- The statements for some targets, one blank apart. -/
def statements (ts : List (List Char)) : List Char := [' '].intercalate (ts.map statement)

theorem rebuilt_eq (line : List Char) (ts : List (List Char)) :
    rebuilt line ts = leading line ++ statements ts ++ trailing line := rfl

theorem statement_eq (t : List Char) : statement t = keyword ++ ' ' :: t ++ [';'] := rfl

theorem statements_singleton (t : List Char) : statements [t] = statement t := by
  simp [statements]

theorem statements_cons_cons (t u : List Char) (ts : List (List Char)) :
    statements (t :: u :: ts) = statement t ++ ' ' :: statements (u :: ts) := by
  simp [statements, List.intercalate]

/-- A blank before a line of statements changes nothing of what they import. -/
theorem mapM_statementTarget_cons_blank (body : List Char) :
    (segments (· == ';') (' ' :: body)).mapM statementTarget =
      (segments (· == ';') body).mapM statementTarget := by
  rw [segments_cons_not_sep (by decide)]
  cases segments (· == ';') body with
  | nil => rfl
  | cons s ss =>
    have hs : statementTarget (' ' :: s) = statementTarget s := by
      rw [statementTarget, trim_cons_of_isBlank (by decide), ← statementTarget]
    rw [List.modifyHead_cons, List.mapM_cons, List.mapM_cons, hs]

/-- The statements for some targets end with a semicolon and are read as these targets. -/
theorem exists_body_statements {ts : List (List Char)} (hne : ts ≠ [])
    (h : ∀ t ∈ ts, IsTarget t) : ∃ body, statements ts = body ++ [';'] ∧
      (segments (· == ';') body).mapM statementTarget = .ok ts := by
  induction ts with
  | nil => exact absurd rfl hne
  | cons t ts ih =>
    have ht : IsTarget t := h t List.mem_cons_self
    have hfree : ∀ c ∈ keyword ++ ' ' :: t, (c == ';') = false := by
      intro c hc
      rw [beq_eq_false_iff_ne]
      rintro rfl
      simp [keyword, ht.no_semicolon] at hc
    cases ts with
    | nil =>
      refine ⟨keyword ++ ' ' :: t, by rw [statements_singleton, statement_eq], ?_⟩
      rw [segments_eq_singleton hfree, List.mapM_cons, statementTarget_keyword ht.solid]
      rfl
    | cons u us =>
      obtain ⟨body, hbody, hread⟩ := ih (by simp) fun t' ht' => h t' (List.mem_cons_of_mem t ht')
      refine ⟨keyword ++ ' ' :: t ++ ';' :: ' ' :: body, ?_, ?_⟩
      · rw [statements_cons_cons, hbody, statement_eq]
        simp
      · rw [segments_cut hfree (by decide), List.mapM_cons, statementTarget_keyword ht.solid,
          mapM_statementTarget_cons_blank, hread]
        rfl

theorem exists_statements_eq_keyword {ts : List (List Char)} (hne : ts ≠ []) :
    ∃ rest, statements ts = keyword ++ ' ' :: rest := by
  cases ts with
  | nil => exact absurd rfl hne
  | cons t ts =>
    cases ts with
    | nil => exact ⟨t ++ [';'], by simp [statements_singleton, statement_eq]⟩
    | cons u us =>
      exact ⟨t ++ ';' :: ' ' :: statements (u :: us), by
        simp [statements_cons_cons, statement_eq]⟩

theorem solid_statements {ts : List (List Char)} (hne : ts ≠ []) (h : ∀ t ∈ ts, IsTarget t) :
    Solid (statements ts) := by
  obtain ⟨rest, hstart⟩ := exists_statements_eq_keyword hne
  obtain ⟨body, hend, -⟩ := exists_body_statements hne h
  refine ⟨by simp [hend], fun c hc => ?_, fun c hc => ?_⟩
  · rw [hstart] at hc
    obtain rfl : 'i' = c := Option.some.inj hc
    decide
  · rw [hend, List.getLast?_concat] at hc
    obtain rfl : ';' = c := Option.some.inj hc
    decide

theorem mem_statements {ts : List (List Char)} {c : Char} (h : c ∈ statements ts) :
    c ∈ keyword ∨ c = ' ' ∨ c = ';' ∨ ∃ t ∈ ts, c ∈ t := by
  induction ts with
  | nil => simp [statements] at h
  | cons t ts ih =>
    have hhead : c ∈ statement t →
        c ∈ keyword ∨ c = ' ' ∨ c = ';' ∨ ∃ u ∈ t :: ts, c ∈ u := by
      intro hc
      rw [statement_eq] at hc
      simp only [List.mem_append, List.mem_cons, List.not_mem_nil, or_false] at hc
      rcases hc with (hc | hc | hc) | hc
      · exact .inl hc
      · exact .inr (.inl hc)
      · exact .inr (.inr (.inr ⟨t, List.mem_cons_self, hc⟩))
      · exact .inr (.inr (.inl hc))
    cases ts with
    | nil => exact hhead (by rwa [statements_singleton] at h)
    | cons u us =>
      rw [statements_cons_cons, List.mem_append, List.mem_cons] at h
      rcases h with h | rfl | h
      · exact hhead h
      · exact .inr (.inl rfl)
      · rcases ih h with h | h | h | ⟨v, hv, hc⟩
        · exact .inl h
        · exact .inr (.inl h)
        · exact .inr (.inr (.inl h))
        · exact .inr (.inr (.inr ⟨v, List.mem_cons_of_mem t hv, hc⟩))

/-! ## rebuilt lines -/

section

variable {line : List Char} {ts : List (List Char)} (hne : ts ≠ []) (hts : ∀ t ∈ ts, IsTarget t)

include hne hts

theorem trim_rebuilt : trim (rebuilt line ts) = statements ts :=
  trim_between (allBlank_leading line) (solid_statements hne hts) (allBlank_trailing line)

theorem leading_rebuilt : leading (rebuilt line ts) = leading line :=
  leading_between (allBlank_leading line) (solid_statements hne hts) _

theorem trailing_rebuilt : trailing (rebuilt line ts) = trailing line :=
  trailing_between _ (solid_statements hne hts) (allBlank_trailing line)

theorem isImportLine_rebuilt : isImportLine (rebuilt line ts) = true := by
  obtain ⟨rest, hrest⟩ := exists_statements_eq_keyword hne
  rw [isImportLine, trim_rebuilt hne hts, hrest,
    afterKeyword?_eq_some_iff.mpr ⟨rfl, by simp [isBlank]⟩]
  rfl

/-- **Reading back**: a rebuilt line imports the targets it was built from. -/
theorem targets?_rebuilt : targets? (rebuilt line ts) = .ok ts := by
  obtain ⟨body, hbody, hread⟩ := exists_body_statements hne hts
  exact targets?_eq_ok.mpr ⟨body, by rw [trim_rebuilt hne hts, hbody], hread⟩

end

/-- The line feed of a line stands in the blanks at its end. -/
theorem eq_of_trim_ne_nil {body : List Char} (hne : trim (body ++ ['\n']) ≠ []) :
    body = leading (body ++ ['\n']) ++ trim (body ++ ['\n']) ++ trailing body := by
  have hsplit := between_trim hne
  rw [trailing_concat (by decide), ← List.append_assoc] at hsplit
  exact (List.append_cancel_right hsplit).symm

/-- **Line ends**: a rebuilt line ends like the line it stands for. -/
theorem endAlike_rebuilt {line : List Char} {ts : List (List Char)} (hline : EndAlike line line)
    (htrim : trim line ≠ []) (hne : ts ≠ []) (hts : ∀ t ∈ ts, ∀ c ∈ t, c ∈ trim line) :
    EndAlike line (rebuilt line ts) := by
  have hfree (h : '\n' ∉ trim line) : '\n' ∉ statements ts := by
    intro hmem
    rcases mem_statements hmem with hc | hc | hc | ⟨t, ht, hc⟩
    · exact absurd hc (by decide)
    · exact absurd hc (by decide)
    · exact absurd hc (by decide)
    · exact h (hts t ht _ hc)
  rw [rebuilt_eq]
  rcases hline with ⟨-, hmem, -⟩ | ⟨body, _, hbody, -, rfl, -⟩
  · have hsplit := between_trim htrim
    rw [← hsplit] at hmem
    simp only [List.mem_append, not_or] at hmem
    obtain ⟨rest, hrest⟩ := exists_statements_eq_keyword hne
    refine .inl ⟨by simp [hrest], by rw [← hsplit]; simp [hmem], ?_⟩
    simp only [List.mem_append, not_or]
    exact ⟨⟨hmem.1.1, hfree hmem.1.2⟩, hmem.2⟩
  · have hbody' := hbody
    rw [eq_of_trim_ne_nil htrim] at hbody'
    simp only [List.mem_append, not_or] at hbody'
    refine .inr
      ⟨body, leading (body ++ ['\n']) ++ statements ts ++ trailing body, hbody, ?_, rfl, ?_⟩
    · simp only [List.mem_append, not_or]
      exact ⟨⟨hbody'.1.1, hfree hbody'.1.2⟩, hbody'.2⟩
    · rw [trailing_concat (by decide), ← List.append_assoc]

end FixBatch.Imports
