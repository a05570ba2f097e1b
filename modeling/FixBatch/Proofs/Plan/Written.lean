import FixBatch.Proofs.Json.Part
import FixBatch.Proofs.Plan.Json
import FixBatch.Proofs.Plan.Targets

/-!
# FixBatch.Proofs.Plan.Written

Plans, selections and targets from any text.  What a text says is looked up in its document, part
by part; the value that is decoded is that with repetitions left out, so it is as good as one that
was made here, and it is read again from what is written for it.

* `Plan.written?`, `Selection.written?`, `targets?` — what a document says;
* `Selection.madeFrom_of_decoder` — a selection is its mode and its rules, in whatever order;
* `Plan.decode_once` — plans, selections and targets from a text, against what it says.
-/

namespace FixBatch

open Json

/-! ## what a document says -/

/-- The target that stands in a document. -/
def Target.written? (d : Doc) : Option Target := do
  let path ← (d.part? 0 "path").bind Doc.text?
  let kind ← (d.part? 1 "kind").bind (Doc.oneOf? Kind.known)
  return ⟨⟨path⟩, kind⟩

/-- The targets that stand in a document, repeated ones and all. -/
def targets? (d : Doc) : Option (List Target) := d.listOf? Target.written?

/-- The rules that stand in a document, repeated ones and all. -/
def rules? (d : Doc) : Option (List String) := d.listOf? Doc.text?

/-- The selection that stands in a document. -/
def Selection.written? (d : Doc) : Option Selection := do
  match ← (d.part? 0 "mode").bind (Doc.oneOf? SelectionTag.known) with
  | .all => return .all
  | .only => return .only (← (d.part? 1 "rules").bind rules?)
  | .allBut => return .allBut (← (d.part? 1 "rules").bind rules?)

namespace Plan

/-- The selection that stands in a plan's document, none if there is nothing or null. -/
def selectionWritten? (d : Doc) : Option (Option Selection) :=
  match d.part? 2 "rule_selection" with
  | none | some .null => some none
  | some v => (Selection.written? v).map some

/-- What stands in a document for a plan. -/
def written? (d : Doc) : Option Draft := do
  let schema ← (d.part? 0 "schema").bind Doc.text?
  let targets ← (d.part? 1 "paths").bind targets?
  let selection ← selectionWritten? d
  let ignoreTestFiles ← (d.part? 3 "ignore_test_files").bind Doc.truth?
  return ⟨schema, targets, selection, ignoreTestFiles⟩

end Plan

/-- A path is among those of a kind if the first of the targets of its place has that kind, and that
spelling. -/
theorem Plan.mem_pathsOf_plan_iff (w : Draft) (kind : Kind) (path : Path) :
    path ∈ w.plan.pathsOf kind ↔ IsFirstOccurrence w.targets ⟨path, kind⟩ := by
  rw [mem_pathsOf_iff, Draft.targets_plan, mem_firstOccurrences_iff_isFirstOccurrence]

/-! ## targets and rules -/

variable {d : Doc}

theorem Target.written?_of_decoder {t : Target} (h : decoder d = .ok t) : written? d = some t := by
  obtain ⟨found, hread, h⟩ := bind_eq_ok.mp h
  obtain ⟨path, hpath, h⟩ := bind_eq_ok.mp h
  obtain ⟨kind, hkind, h⟩ := bind_eq_ok.mp h
  cases h
  have hnames : (record.fields.map Field.name).Nodup := by decide
  obtain ⟨pathDoc, hpathDoc, hpath⟩ := Record.part?_of_get hnames hread hpath 0 rfl
  obtain ⟨kindDoc, hkindDoc, hkind⟩ := Record.part?_of_get hnames hread hkind 1 rfl
  obtain ⟨text, htext, rfl⟩ := map_eq_ok.mp hpath
  have hword : kindDoc.oneOf? Kind.known = some kind := oneOf?_of_words (by decide) hkind
  simp [written?, hpathDoc, hkindDoc, text?_of_string htext, hword]

theorem targetsDecoder_eq_firstOccurrences :
    targetsDecoder = fun d => (array Target.decoder d).map firstOccurrences := by
  funext d
  rw [targetsDecoder]
  exact congrArg (Except.map · _) (funext Distinct.toList_ofList)

theorem rulesDecoder_eq_firstOccurrences :
    rulesDecoder = fun d => (array (string "a string") d).map firstOccurrences := by
  funext d
  simp only [rulesDecoder, Distinct.toList_ofList]

theorem targets_once_of_decoder {ts : List Target} (h : targetsDecoder d = .ok ts) :
    ∃ l, targets? d = some l ∧ ts = firstOccurrences l := by
  rw [targetsDecoder_eq_firstOccurrences] at h
  obtain ⟨l, hl, rfl⟩ := map_eq_ok.mp h
  exact ⟨l, listOf?_of_array Target.written?_of_decoder hl, rfl⟩

theorem rules_once_of_decoder {rules : List String} (h : rulesDecoder d = .ok rules) :
    ∃ l, rules? d = some l ∧ rules = firstOccurrences l := by
  rw [rulesDecoder_eq_firstOccurrences] at h
  obtain ⟨l, hl, rfl⟩ := map_eq_ok.mp h
  exact ⟨l, listOf?_of_array text?_of_string hl, rfl⟩

/-! ## selections -/

theorem SelectionTag.nodup_known : (known.map Prod.fst).Nodup := by decide

namespace Selection

variable {ms rest : Members} {s s' : Selection} {depth : Nat}

/-- A member is one of the two of a selection, or is passed over. -/
theorem nextPart_member_cases {key : Reading (List Char)} {value : Doc}
    {next : Option (Part × Doc × Members)} (h : nextPart (.member key value rest) = .ok next) :
    ∃ name, key.string? = some name ∧
      ((∃ p : Part, p.name = name ∧ next = some (p, value, rest)) ∨
        (∀ p : Part, p.name ≠ name) ∧ nextPart rest = .ok next) := by
  obtain ⟨cs, hkey, h⟩ := bind_eq_ok.mp h
  refine ⟨String.ofList cs, string?_of_get hkey, ?_⟩
  have hname {p : Part} (hp : (cs == p.name.toList) = true) : p.name = String.ofList cs := by
    rw [eq_of_beq hp, String.ofList_toList]
  split at h
  · next hmode => cases h; exact .inl ⟨.mode, hname hmode, rfl⟩
  · next hmode =>
    split at h
    · next hrules => cases h; exact .inl ⟨.rules, hname hrules, rfl⟩
    · next hrules =>
      obtain ⟨_, -, h⟩ := bind_eq_ok.mp h
      refine .inr ⟨fun p hp => ?_, h⟩
      have hcs : cs = p.name.toList := by rw [hp, String.toList_ofList]
      cases p with
      | mode => exact hmode (beq_iff_eq.mpr hcs)
      | rules => exact hrules (beq_iff_eq.mpr hcs)

/-- What stands under either name stands there in the next member or in those after it. -/
theorem under?_of_nextPart {q : Part} :
    ∀ {ms : Members} {next : Option (Part × Doc × Members)}, nextPart ms = .ok next →
      ms.under? q.name = next.bind fun (p, value, rest) =>
        if p.name = q.name then some value else rest.under? q.name
  | .closed, next, h => by
    cases h
    rfl
  | .broken _, _, h | .stray _, _, h => by cases h
  | .member key value rest, next, h => by
    obtain ⟨name, hkey, ⟨p, rfl, rfl⟩ | ⟨hother, h⟩⟩ := nextPart_member_cases h
    · simp only [Members.under?, hkey, Option.some.injEq, Option.bind_some]
    · have hne : ¬some name = some q.name := fun heq => hother q (Option.some.inj heq).symm
      rw [Members.under?, hkey, if_neg hne, under?_of_nextPart h]

theorem under?_of_nextPart_none (q : Part) (h : nextPart ms = .ok none) :
    ms.under? q.name = none := under?_of_nextPart h

theorem under?_of_nextPart_self {p : Part} {value : Doc}
    (h : nextPart ms = .ok (some (p, value, rest))) : ms.under? p.name = some value := by
  rw [under?_of_nextPart h]
  exact if_pos rfl

theorem under?_of_nextPart_ne {p q : Part} (hne : p.name ≠ q.name) {value : Doc}
    (h : nextPart ms = .ok (some (p, value, rest))) : ms.under? q.name = rest.under? q.name := by
  rw [under?_of_nextPart h]
  exact if_neg hne

theorem eq_of_finish (h : finish s rest = .ok s') : s' = s := by
  obtain ⟨next, -, h⟩ := bind_eq_ok.mp h
  cases next with
  | none => cases h; rfl
  | some part => cases h

/-- What a selection is made from: its tag, and what stands under `rules`, if anything. -/
def MadeFrom (s : Selection) (mode rules : Option Doc) : Prop :=
  ∃ tag, mode.bind (Doc.oneOf? SelectionTag.known) = some tag ∧
    match rules with
    | none => tag.alone = .ok s
    | some rulesDoc => tag.content rulesDoc = .ok s

theorem madeFrom_of_readMembers (h : readMembers depth ms = .ok s) :
    s.MadeFrom (ms.under? Part.mode.name) (ms.under? Part.rules.name) := by
  obtain ⟨next, hnext, h⟩ := bind_eq_ok.mp h
  match next with
  | none => cases h
  | some (.mode, modeDoc, rest) =>
    obtain ⟨tag, htag, h⟩ := bind_eq_ok.mp h
    obtain ⟨next', hnext', h⟩ := bind_eq_ok.mp h
    rw [under?_of_nextPart_self hnext, under?_of_nextPart_ne (by decide) hnext]
    refine ⟨tag, oneOf?_of_words SelectionTag.nodup_known htag, ?_⟩
    match next' with
    | none =>
      rw [under?_of_nextPart_none .rules hnext']
      exact h
    | some (.mode, _) => cases h
    | some (.rules, rulesDoc, rest') =>
      obtain ⟨s', hs', h⟩ := bind_eq_ok.mp h
      rw [under?_of_nextPart_self hnext', eq_of_finish h]
      exact hs'
  | some (.rules, rulesDoc, rest) =>
    obtain ⟨_, -, h⟩ := bind_eq_ok.mp h
    obtain ⟨next', hnext', h⟩ := bind_eq_ok.mp h
    match next' with
    | none | some (.rules, _) => cases h
    | some (.mode, modeDoc, rest') =>
      obtain ⟨tag, htag, h⟩ := bind_eq_ok.mp h
      obtain ⟨s', hs', h⟩ := bind_eq_ok.mp h
      rw [under?_of_nextPart_ne (by decide) hnext, under?_of_nextPart_self hnext',
        under?_of_nextPart_self hnext, eq_of_finish h]
      exact ⟨tag, oneOf?_of_words SelectionTag.nodup_known htag, hs'⟩

theorem madeFrom_of_readItems {is : Items} (h : readItems is = .ok s) :
    ∃ modeDoc rulesDoc, is.docs? = some [modeDoc, rulesDoc] ∧
      s.MadeFrom (some modeDoc) (some rulesDoc) := by
  cases is with
  | closed | broken => cases h
  | item modeDoc rest =>
    obtain ⟨word, hword, h⟩ := bind_eq_ok.mp h
    obtain ⟨tag, htag, h⟩ := bind_eq_ok.mp h
    cases rest with
    | closed | broken => cases h
    | item rulesDoc rest =>
      obtain ⟨s', hs', h⟩ := bind_eq_ok.mp h
      cases rest with
      | broken | item => cases h
      | closed =>
        cases h
        have hmode := oneOf?_of_ofWord SelectionTag.nodup_known hword htag
        exact ⟨modeDoc, rulesDoc, rfl, tag, hmode, hs'⟩

/-- A selection is made from its mode and its rules, whichever comes first and whatever else stands
beside them. -/
theorem madeFrom_of_decoder (h : decoder depth d = .ok s) :
    s.MadeFrom (d.part? 0 "mode") (d.part? 1 "rules") := by
  unfold decoder at h
  split at h
  · exact madeFrom_of_readMembers h
  · obtain ⟨modeDoc, rulesDoc, hdocs, hmade⟩ := madeFrom_of_readItems h
    rw [Doc.part?, Doc.part?, hdocs]
    exact hmade
  · exact absurd h wrongType_ne_ok

/-- A selection of rules is made from the rules that stand there, with repeated ones left out. -/
theorem exists_rules? {make : List String → Selection} (h : (rulesDecoder d).map make = .ok s) :
    ∃ l, rules? d = some l ∧ s = make (firstOccurrences l) := by
  obtain ⟨rules, hrules, rfl⟩ := map_eq_ok.mp h
  obtain ⟨l, hl, rfl⟩ := rules_once_of_decoder hrules
  exact ⟨l, hl, rfl⟩

/-- A selection that is decoded is the one that stands there, with repeated rules left out. -/
theorem once_of_decoder (h : decoder depth d = .ok s) :
    ∃ w, written? d = some w ∧ s = w.once := by
  obtain ⟨tag, hmode, hmade⟩ := madeFrom_of_decoder h
  cases hpart : d.part? 1 "rules" with
  | none =>
    rw [hpart] at hmade
    cases tag with
    | all => cases hmade; exact ⟨all, by simp [written?, hmode], rfl⟩
    | only | allBut => cases hmade
  | some rulesDoc =>
    rw [hpart] at hmade
    cases tag with
    | all =>
      obtain ⟨_, -, rfl⟩ := map_eq_ok.mp hmade
      exact ⟨all, by simp [written?, hmode], rfl⟩
    | only =>
      obtain ⟨l, hl, rfl⟩ := exists_rules? hmade
      refine ⟨only l, by simp [written?, hmode, hpart, hl], ?_⟩
      rw [once, Distinct.toList_ofList]
    | allBut =>
      obtain ⟨l, hl, rfl⟩ := exists_rules? hmade
      refine ⟨allBut l, by simp [written?, hmode, hpart, hl], ?_⟩
      rw [once, Distinct.toList_ofList]

end Selection

/-! ## plans -/

namespace Plan

variable {p : Plan}

/-- The selection of a plan, from what stands in its place. -/
theorem selection_once {o : Option Selection}
    (h : (d.part? 2 "rule_selection" = none ∧ o = none) ∨
      ∃ v, d.part? 2 "rule_selection" = some v ∧ selectionDecoder v = .ok o) :
    ∃ w, selectionWritten? d = some w ∧ o = w.map Selection.once := by
  obtain ⟨hpart, rfl⟩ | ⟨v, hpart, hv⟩ := h
  · exact ⟨none, by rw [selectionWritten?, hpart], rfl⟩
  obtain ⟨rfl, rfl⟩ | ⟨s, rfl, hs⟩ := eq_null_or_of_nullable hv
  · exact ⟨none, by rw [selectionWritten?, hpart], rfl⟩
  · obtain ⟨w, hw, rfl⟩ := Selection.once_of_decoder hs
    refine ⟨some w, ?_, rfl⟩
    cases v with
    | null =>
      have hrefused : wrongType .null Selection.expected = .ok w.once := hs
      exact absurd hrefused wrongType_ne_ok
    | _ => simp [selectionWritten?, hpart, hw]

/-- A plan that is decoded is that of what stands there. -/
theorem plan_of_decoder (h : decoder d = .ok p) : ∃ w, written? d = some w ∧ p = w.plan := by
  obtain ⟨draft, hdraft, rfl⟩ := map_eq_ok.mp h
  obtain ⟨found, hread, h⟩ := bind_eq_ok.mp hdraft
  obtain ⟨schema, hschema, h⟩ := bind_eq_ok.mp h
  obtain ⟨targets, htargets, h⟩ := bind_eq_ok.mp h
  obtain ⟨selection, hselection, h⟩ := bind_eq_ok.mp h
  obtain ⟨ignoreTestFiles, hignore, h⟩ := bind_eq_ok.mp h
  cases h
  have hnames : (record.fields.map Field.name).Nodup := by decide
  obtain ⟨schemaDoc, hschemaDoc, hschema⟩ := Record.part?_of_get hnames hread hschema 0 rfl
  obtain ⟨targetsDoc, htargetsDoc, htargets⟩ := Record.part?_of_get hnames hread htargets 1 rfl
  obtain ⟨s, hs, rfl⟩ := selection_once (Record.part?_of_getD hnames hread hselection 2 rfl)
  obtain ⟨ignoreDoc, hignoreDoc, hignore⟩ := Record.part?_of_get hnames hread hignore 3 rfl
  obtain ⟨l, hl, rfl⟩ := targets_once_of_decoder htargets
  refine ⟨⟨schema, l, s, ignoreTestFiles⟩, ?_, plan_once ⟨schema, l, s, ignoreTestFiles⟩⟩
  simp [written?, hschemaDoc, htargetsDoc, hignoreDoc, hs, hl, text?_of_string hschema,
    truth?_of_truth hignore]

/-! ## texts -/

/-- A value is read from what is written for it, in either layout. -/
def ComesBack {α : Type} (decoder : Decoder α) (v : Value) (a : α) : Prop :=
  decode decoder v.compact.toList = .ok a ∧ decode decoder v.pretty.toList = .ok a

theorem comesBack_of_doc {α : Type} {decoder : Decoder α} {v : Value} {a : α}
    (h : decoder v.doc = .ok a) : ComesBack decoder v a :=
  ⟨(decode_compact decoder v).trans h, (decode_pretty decoder v).trans h⟩

/-- **Texts**: whatever text a plan comes from, it is what the text says with repetitions left out.
Of targets of one place the first decides which spelling and which kind there is, and no rule comes
twice; what is written for the plan is read as the same plan.  So it is with selections and with
targets by themselves. -/
theorem decode_once (s : List Char) :
    (∀ p, decode decoder s = .ok p →
      ∃ w, written? (Doc.read s).1 = some w ∧ p = w.plan ∧
        p.targets = firstOccurrences w.targets ∧
        p.rules = w.selection.map (firstOccurrences ·.rules) ∧
        (p.targets.Pairwise fun t u => (t == u) = false) ∧ (∀ s ∈ p.selection, s.rules.Nodup) ∧
        (∀ kind path, path ∈ p.pathsOf kind ↔ IsFirstOccurrence w.targets ⟨path, kind⟩) ∧
        ComesBack decoder p.toJson p) ∧
    (∀ selection, decode (Selection.decoder 0) s = .ok selection →
      ∃ w, Selection.written? (Doc.read s).1 = some w ∧ selection = w.once ∧
        selection.rules = firstOccurrences w.rules ∧ selection.rules.Nodup ∧
        ComesBack (Selection.decoder 0) selection.toJson selection) ∧
    (∀ targets, decode targetsDecoder s = .ok targets →
      ∃ l, targets? (Doc.read s).1 = some l ∧ targets = firstOccurrences l ∧
        (targets.Pairwise fun t u => (t == u) = false) ∧
        (∀ t, t ∈ targets ↔ IsFirstOccurrence l t) ∧
        ComesBack targetsDecoder (.array (targets.map Target.toJson)) targets) := by
  refine ⟨fun p h => ?_, fun selection h => ?_, fun targets h => ?_⟩
  · obtain ⟨w, hw, rfl⟩ := plan_of_decoder (decoder_of_decode h)
    exact ⟨w, hw, rfl, w.targets_plan, w.rules_plan, w.plan.places_distinct, w.plan.rules_nodup,
      mem_pathsOf_plan_iff w, comesBack_of_doc w.plan.decoder_doc⟩
  · obtain ⟨w, hw, rfl⟩ := Selection.once_of_decoder (decoder_of_decode h)
    exact ⟨w, hw, rfl, w.rules_once, w.nodup_rules_once,
      comesBack_of_doc (Selection.decoder_doc w.nodup_rules_once (by decide))⟩
  · obtain ⟨l, hl, rfl⟩ := targets_once_of_decoder (decoder_of_decode h)
    have hdistinct : (firstOccurrences l).Pairwise fun t u => (t == u) = false :=
      pairwise_firstOccurrencesAfter [] l
    exact ⟨l, hl, rfl, hdistinct, fun t => mem_firstOccurrences_iff_isFirstOccurrence,
      comesBack_of_doc (targetsDecoder_doc hdistinct)⟩

/-- In a plan that is an array, a directory comes again as a file with another spelling, and a rule
comes twice before the mode is known. -/
theorem decode_once_respelled :
    let text := ("[\"\",[[\"a\",\"directory\"],[\"a/\",\"file\"]]," ++
      "\x7b\"rules\":[\"R\",\"R\"],\"mode\":\"include_only\"\x7d,true]").toList
    let p : Plan :=
      { schema := ""
        targets := [⟨⟨"a"⟩, .directory⟩]
        selection := some (.only ["R"])
        ignoreTestFiles := true
        places_distinct := by decide
        rules_nodup := by rintro _ ⟨⟩; decide }
    decode decoder text = .ok p ∧
      ∃ w, written? (Doc.read text).1 = some w ∧ p = w.plan ∧
        p.targets = firstOccurrences w.targets ∧
        p.rules = w.selection.map (firstOccurrences ·.rules) ∧
        (p.targets.Pairwise fun t u => (t == u) = false) ∧ (∀ s ∈ p.selection, s.rules.Nodup) ∧
        (∀ kind path, path ∈ p.pathsOf kind ↔ IsFirstOccurrence w.targets ⟨path, kind⟩) ∧
        ComesBack decoder p.toJson p := by
  intro text p
  have hdraft : decode Draft.decoder text = .ok p.toDraft := by
    -- hash tables cannot be evaluated here, but lists can
    delta decode Draft.decoder record selectionDecoder Selection.decoder Selection.readMembers
      Selection.readItems SelectionTag.content
    simp only [targetsDecoder_eq_firstOccurrences, rulesDecoder_eq_firstOccurrences]
    decide +kernel
  have hdecode : decode decoder text = .ok p := by
    refine (decode_map Draft.decoder Draft.plan text).trans ?_
    rw [hdraft]
    exact congrArg Except.ok p.plan_toDraft
  exact ⟨hdecode, (decode_once text).1 p hdecode⟩

end Plan

end FixBatch
