import FixBatch.Plan.Json
import FixBatch.Proofs.Json.Record
import FixBatch.Proofs.Plan.Targets
import Mathlib.Data.List.Permutation

/-!
# FixBatch.Proofs.Plan.Json

Plans survive their JSON form, and do not depend on how it is written.  A plan holds no place and no
rule twice, so leaving out repetitions when it is read leaves it as it was.  In each of its objects
the members may stand in any order, beside others whose names are not known; what it leaves unsaid
may as well be null.

* `Target.SaidBy`, `Selection.SaidBy`, `Plan.SaidBy` — the documents that say a plan;
* `Plan.decoder_of_saidBy` — a plan, read from any of them;
* `Plan.decode_toJson` — from the text that is written for it, in either layout;
* `Plan.decode_of_isText` — from any text of any document that says it.
-/

namespace FixBatch

open Json

/-! ## targets -/

theorem Kind.decoder_doc (kind : Kind) : Kind.decoder (Value.text kind.word).doc = .ok kind := by
  apply words_doc (by decide)
  cases kind <;> simp [Kind.known]

theorem Path.decoder_doc (p : Path) : Path.decoder p.toJson.doc = .ok p := by
  rw [Path.decoder, Path.toJson, string_doc]
  rfl

namespace Target

/-- The members of a target's JSON form. -/
def members (t : Target) : List (String × Value) :=
  [("path", t.path.toJson), ("kind", .text t.kind.word)]

/-- A document says a target: its path and its kind, in either order, beside members of other
names. -/
def SaidBy (t : Target) (d : Doc) : Prop := d.IsObjectOf record.names (docsOf t.members)

theorem admits (t : Target) : record.Admits (docsOf t.members) where
  names := by decide
  keys := by simp [docsOf, members]
  takes := by
    simp only [docsOf, members, List.map_cons, List.map_nil]
    rw [List.forall_mem_cons, List.forall_mem_singleton]
    exact ⟨Record.takes_of (by simp [record]) t.path.decoder_doc,
      Record.takes_of (by simp [record]) t.kind.decoder_doc⟩
  complete := by simp [record, Field.of, docsOf, members]

variable {t : Target} {d : Doc}

theorem decoder_of_saidBy (h : t.SaidBy d) (hscan : d.scan = none) : decoder d = .ok t := by
  obtain ⟨found, hfound, hread⟩ := t.admits.read h hscan
  have hpath : found.get "path" Path.decoder = .ok t.path :=
    t.admits.get hfound (by simp [docsOf, members]) t.path.decoder_doc
  have hkind : found.get "kind" Kind.decoder = .ok t.kind :=
    t.admits.get hfound (by simp [docsOf, members]) t.kind.decoder_doc
  rw [decoder, hread]
  simp only [bind, Except.bind, hpath, hkind]
  rfl

theorem saidBy_toJson (t : Target) : t.SaidBy t.toJson.doc := isObjectOf_doc _ t.members

theorem forall₂_saidBy_toJson (targets : List Target) :
    List.Forall₂ SaidBy targets (targets.map fun t => t.toJson.doc) :=
  List.forall₂_map_right_iff.mpr (List.forall₂_same.mpr fun t _ => t.saidBy_toJson)

end Target

section

variable {targets : List Target} (hdistinct : targets.Pairwise fun s t => (s == t) = false)
include hdistinct

/-- Targets of different places are read in their order. -/
theorem targetsDecoder_of_saidBy {ds : List Doc} (h : List.Forall₂ Target.SaidBy targets ds)
    (hscan : ∀ d ∈ ds, d.scan = none) : targetsDecoder (.array (.ofList ds)) = .ok targets := by
  have hitems : List.Forall₂ (fun t d => Target.decoder d = .ok t) targets ds := by
    rw [List.forall₂_iff_get] at h ⊢
    exact ⟨h.1, fun i hi hi' =>
      Target.decoder_of_saidBy (h.2 i hi hi') (hscan _ (List.get_mem ds ⟨i, hi'⟩))⟩
  rw [targetsDecoder, array_ofList hitems, Except.map,
    distinctTargets_eq_self hdistinct]

/-- Targets of different places come back in their order. -/
theorem targetsDecoder_doc :
    targetsDecoder (Value.array (targets.map Target.toJson)).doc = .ok targets := by
  have hscan : ∀ d ∈ targets.map fun t => t.toJson.doc, d.scan = none :=
    List.forall_mem_map.mpr fun t _ => scan_doc t.toJson
  rw [Value.doc, itemDocs_eq_ofList, List.map_map]
  exact targetsDecoder_of_saidBy hdistinct (Target.forall₂_saidBy_toJson targets) hscan

end

/-! ## selections -/

theorem rulesDecoder_doc {rules : List String} (h : rules.Nodup) :
    rulesDecoder (Value.texts rules).doc = .ok rules := by
  rw [rulesDecoder, Value.texts, array_doc fun s _ => string_doc _ s, Except.map,
    toList_ofList_of_nodup h]

/-- Rules can be kept as long as brackets may be opened. -/
theorem keep_texts (rules : List String) {depth : Nat} (h : depth < maxDepth) :
    (Value.texts rules).doc.keep depth = none := by
  have hitems : ∀ n, (itemDocs (rules.map Value.text)).keep n = none := by
    intro n
    induction rules with
    | nil => rfl
    | cons s rules ih => rw [List.map_cons, itemDocs, Items.keep, ih]; rfl
  rw [Value.texts, Value.doc, Doc.keep, if_neg (Nat.not_le.mpr h), hitems]

namespace Selection

/-- The members of a selection's JSON form. -/
def members : Selection → List (String × Value)
  | all => [("mode", .text "all_rules")]
  | only rules => [("mode", .text "include_only"), ("rules", .texts rules)]
  | allBut rules => [("mode", .text "exclude_only"), ("rules", .texts rules)]

theorem toJson_eq (s : Selection) : s.toJson = .object s.members := by
  cases s <;> rfl

/-- The names of the members that a selection may have. -/
def partNames : List String := [Part.mode.name, Part.rules.name]

/-- A document says a selection: its mode and its rules, in either order, beside members of other
names. -/
def SaidBy (s : Selection) (d : Doc) : Prop := d.IsObjectOf partNames (docsOf s.members)

/-! ### part by part -/

variable {ms kept : List (String × Doc)} {k : String} {d : Doc}

theorem nextPart_other (hk : k ∉ partNames) (hd : d.scan = none) (rest : Members) :
    nextPart (.member (writtenText k) d rest) = nextPart rest := by
  have hmode : (k.toList == Part.mode.name.toList) = false := by
    rw [beq_eq_false_iff_ne, ne_eq, String.toList_inj]
    exact fun h => hk (h ▸ List.mem_cons_self)
  have hrules : (k.toList == Part.rules.name.toList) = false := by
    rw [beq_eq_false_iff_ne, ne_eq, String.toList_inj]
    exact fun h => hk (h ▸ List.mem_cons_of_mem _ List.mem_cons_self)
  simp only [nextPart, get_writtenText, hmode, hrules, hd, noFault, bind, Except.bind,
    Bool.false_eq_true, if_false]

theorem nextPart_part (part : Part) (d : Doc) (rest : Members) :
    nextPart (.member (writtenText part.name) d rest) = .ok (some (part, d, rest)) := by
  cases part <;> rfl

/-- The members of other names are passed over up to the next part. -/
theorem nextPart_sifted (h : Sifted partNames ms kept) :
    (kept = [] ∧ nextPart (.ofList ms) = .ok none) ∨
      ∃ (part : Part) (d : Doc) (kept' rest : List (String × Doc)), kept = (part.name, d) :: kept' ∧
        nextPart (.ofList ms) = .ok (some (part, d, .ofList rest)) ∧
        Sifted partNames rest kept' := by
  induction h with
  | nil => exact .inl ⟨rfl, rfl⟩
  | @keep k d ms kept hk h =>
    obtain ⟨part, rfl⟩ : ∃ part : Part, k = part.name := by
      rcases List.mem_cons.mp hk with rfl | hk
      · exact ⟨.mode, rfl⟩
      · exact ⟨.rules, List.mem_singleton.mp hk⟩
    exact .inr ⟨part, d, kept, ms, rfl, nextPart_part part d _, h⟩
  | pass hk hd _ ih => rwa [Members.ofList, nextPart_other hk hd]

theorem nextPart_of_sifted_nil (h : Sifted partNames ms []) : nextPart (.ofList ms) = .ok none := by
  obtain ⟨-, h⟩ | ⟨_, _, _, _, hcons, -⟩ := nextPart_sifted h
  · exact h
  · cases hcons

theorem nextPart_of_sifted_cons (part : Part) (h : Sifted partNames ms ((part.name, d) :: kept)) :
    ∃ rest, nextPart (.ofList ms) = .ok (some (part, d, .ofList rest)) ∧
      Sifted partNames rest kept := by
  obtain ⟨hnil, -⟩ | ⟨part', d', kept', rest, hcons, hnext, hrest⟩ := nextPart_sifted h
  · cases hnil
  · obtain ⟨hhead, rfl⟩ := List.cons.inj hcons
    obtain ⟨hname, rfl⟩ := Prod.mk.inj hhead
    have hpart : part = part' := by cases part <;> cases part' <;> simp_all [Part.name]
    exact ⟨rest, hpart ▸ hnext, hrest⟩

/-! ### whole selections -/

variable {s : Selection} {tag : SelectionTag} {modeDoc rulesDoc : Doc} {depth : Nat}

theorem words_mode {word : String} {tag : SelectionTag} (h : (word, tag) ∈ SelectionTag.known) :
    words SelectionTag.known (Value.text word).doc = .ok tag :=
  words_doc (by decide) h

/-- A mode alone. -/
theorem readMembers_mode (h : Sifted partNames ms [("mode", modeDoc)])
    (hword : words SelectionTag.known modeDoc = .ok tag) :
    readMembers depth (.ofList ms) = tag.alone := by
  obtain ⟨rest, hmode, hrest⟩ := nextPart_of_sifted_cons .mode h
  have hend := nextPart_of_sifted_nil hrest
  rw [readMembers]
  simp only [hmode, hword, hend, bind, Except.bind]

/-- A mode and rules, in either order: rules that come first are kept until the mode is known. -/
theorem readMembers_mode_rules (h : Sifted partNames ms kept)
    (hkept : kept.Perm [("mode", modeDoc), ("rules", rulesDoc)])
    (hword : words SelectionTag.known modeDoc = .ok tag) (hcontent : tag.content rulesDoc = .ok s)
    (hkeep : rulesDoc.keep depth = none) : readMembers depth (.ofList ms) = .ok s := by
  rcases List.perm_pair.mp hkept with rfl | rfl
  · obtain ⟨rest, hmode, hrest⟩ := nextPart_of_sifted_cons .mode h
    obtain ⟨rest', hrules, hrest'⟩ := nextPart_of_sifted_cons .rules hrest
    have hend := nextPart_of_sifted_nil hrest'
    rw [readMembers]
    simp only [hmode, hword, hrules, hcontent, finish, hend, bind, Except.bind]
    rfl
  · obtain ⟨rest, hrules, hrest⟩ := nextPart_of_sifted_cons .rules h
    obtain ⟨rest', hmode, hrest'⟩ := nextPart_of_sifted_cons .mode hrest
    have hend := nextPart_of_sifted_nil hrest'
    rw [readMembers]
    simp only [hrules, hkeep, noFault, hmode, hword, hcontent, finish, hend, bind, Except.bind]
    rfl

/-- A selection is read from any document that says it. -/
theorem decoder_of_saidBy (hrules : s.rules.Nodup) (hdepth : depth + 1 < maxDepth)
    (h : s.SaidBy d) (hscan : d.scan = none) : decoder depth d = .ok s := by
  have hnames : ∀ m ∈ docsOf s.members, m.1 ∈ partNames := by
    cases s <;> simp [docsOf, members, partNames, Part.name]
  obtain ⟨ms, kept, rfl, hsifted, hkept⟩ := h.exists_sifted hnames hscan
  rw [decoder]
  cases s with
  | all =>
    rw [List.perm_singleton.mp hkept] at hsifted
    have hall : ("all_rules", SelectionTag.all) ∈ SelectionTag.known := by simp [SelectionTag.known]
    exact readMembers_mode hsifted (words_mode hall)
  | only rules =>
    have hread : rulesDecoder (Value.texts rules).doc = .ok rules := rulesDecoder_doc hrules
    have hcontent : SelectionTag.only.content (Value.texts rules).doc = .ok (only rules) := by
      simp only [SelectionTag.content, hread]
      rfl
    exact readMembers_mode_rules hsifted hkept (words_mode (by simp [SelectionTag.known])) hcontent
      (keep_texts rules hdepth)
  | allBut rules =>
    have hread : rulesDecoder (Value.texts rules).doc = .ok rules := rulesDecoder_doc hrules
    have hcontent : SelectionTag.allBut.content (Value.texts rules).doc = .ok (allBut rules) := by
      simp only [SelectionTag.content, hread]
      rfl
    exact readMembers_mode_rules hsifted hkept (words_mode (by simp [SelectionTag.known])) hcontent
      (keep_texts rules hdepth)

theorem saidBy_toJson (s : Selection) : s.SaidBy s.toJson.doc := by
  rw [toJson_eq]
  exact isObjectOf_doc _ s.members

/-- A selection comes back, with its rules in their order if it names any. -/
theorem decoder_doc (hrules : s.rules.Nodup) (hdepth : depth + 1 < maxDepth) :
    decoder depth s.toJson.doc = .ok s :=
  decoder_of_saidBy hrules hdepth s.saidBy_toJson (scan_doc _)

end Selection

/-! ## plans -/

namespace Plan

/-- What may stand in a plan's document for its selection: if the plan makes none, nothing or
null. -/
inductive SelectionSaidBy : Option Selection → List (String × Doc) → Prop
  | unsaid : SelectionSaidBy none []
  | null : SelectionSaidBy none [("rule_selection", .null)]
  | said {s : Selection} {d : Doc} (h : s.SaidBy d) :
      SelectionSaidBy (some s) [("rule_selection", d)]

/-- The members of a plan's document, given what says its targets and its selection. -/
def saidMembers (p : Plan) (targets : List Doc) (selection : List (String × Doc)) :
    List (String × Doc) :=
  [("schema", (Value.text p.schema).doc), ("paths", .array (.ofList targets))] ++ selection ++
    [("ignore_test_files", (Value.bool p.ignoreTestFiles).doc)]

/-- The members of a plan's JSON form. -/
def members (p : Plan) : List (String × Value) :=
  [("schema", .text p.schema), ("paths", .array (p.targets.map Target.toJson))] ++
    (p.selection.map fun s => ("rule_selection", s.toJson)).toList ++
    [("ignore_test_files", .bool p.ignoreTestFiles)]

/-- A document says a plan: its members in any order, beside members of other names, and in each of
them whatever says the same. -/
inductive SaidBy (p : Plan) (d : Doc) : Prop
  | intro {targets : List Doc} {selection : List (String × Doc)}
      (htargets : List.Forall₂ Target.SaidBy p.targets targets)
      (hselection : SelectionSaidBy p.selection selection)
      (hd : d.IsObjectOf record.names (p.saidMembers targets selection)) : SaidBy p d

variable {p : Plan} {targets : List Doc} {selection : List (String × Doc)} {d : Doc}

/-- What says a selection is read as it. -/
theorem selectionDecoder_of_saidBy {s : Selection} (hrules : s.rules.Nodup) (h : s.SaidBy d)
    (hscan : d.scan = none) : selectionDecoder d = .ok (some s) := by
  have hnull : d ≠ .null := by
    obtain ⟨_, _, rfl, -⟩ := h
    nofun
  exact nullable_of_ne_null hnull (Selection.decoder_of_saidBy hrules (by decide) h hscan)

/-- What stands for the selection is read as it, unless nothing does. -/
theorem SelectionSaidBy.eq_nil_or (h : SelectionSaidBy p.selection selection)
    (hscan : ∀ m ∈ selection, m.2.scan = none) :
    (selection = [] ∧ p.selection = none) ∨
      ∃ d, selection = [("rule_selection", d)] ∧ selectionDecoder d = .ok p.selection := by
  have hrules := p.rules_nodup
  generalize p.selection = o at h hrules
  cases h with
  | unsaid => exact .inl ⟨rfl, rfl⟩
  | null => exact .inr ⟨.null, rfl, rfl⟩
  | said h =>
    exact .inr ⟨_, rfl, selectionDecoder_of_saidBy (hrules _ rfl) h (hscan _ List.mem_cons_self)⟩

section

variable (htargets : targetsDecoder (.array (.ofList targets)) = .ok p.targets)
  (hselection : (selection = [] ∧ p.selection = none) ∨
    ∃ d, selection = [("rule_selection", d)] ∧ selectionDecoder d = .ok p.selection)
include htargets hselection

theorem admits_saidMembers : record.Admits (p.saidMembers targets selection) where
  names := by decide
  keys := by
    rcases hselection with ⟨rfl, -⟩ | ⟨d, rfl, -⟩ <;> simp [saidMembers]
  takes := by
    have hschema : record.Takes ("schema", (Value.text p.schema).doc) :=
      Record.takes_of (by simp [record]) (string_doc "a string" p.schema)
    have hpaths : record.Takes ("paths", .array (.ofList targets)) :=
      Record.takes_of (by simp [record]) htargets
    have hignore : record.Takes ("ignore_test_files", (Value.bool p.ignoreTestFiles).doc) :=
      Record.takes_of (by simp [record]) (truth_doc p.ignoreTestFiles)
    rcases hselection with ⟨rfl, -⟩ | ⟨d, rfl, hd⟩
    · simp [saidMembers, hschema, hpaths, hignore]
    · have hsaid : record.Takes ("rule_selection", d) :=
        Record.takes_optional (by simp [record]) hd
      simp [saidMembers, hschema, hpaths, hsaid, hignore]
  complete := by simp [record, Field.of, Field.optional, saidMembers]

/-- A plan is what its members are read as. -/
theorem decoder_of_isObjectOf (hd : d.IsObjectOf record.names (p.saidMembers targets selection))
    (hscan : d.scan = none) : decoder d = .ok p := by
  have hadmits := admits_saidMembers htargets hselection
  obtain ⟨found, hfound, hread⟩ := hadmits.read hd hscan
  have hschema : found.get "schema" (string "a string") = .ok p.schema :=
    hadmits.get hfound (by simp [saidMembers]) (string_doc _ _)
  have hpaths : found.get "paths" targetsDecoder = .ok p.targets :=
    hadmits.get hfound (by simp [saidMembers]) htargets
  have hignore : found.get "ignore_test_files" truth = .ok p.ignoreTestFiles :=
    hadmits.get hfound (by simp [saidMembers]) (truth_doc _)
  have hselected : found.getD "rule_selection" selectionDecoder none = .ok p.selection := by
    rcases hselection with ⟨rfl, hnone⟩ | ⟨said, rfl, hsaid⟩
    · rw [hnone]
      exact Record.getD_of_not_mem hfound (by simp [saidMembers]) _ _
    · exact hadmits.getD hfound (by simp [saidMembers]) hsaid _
  have hdraft : Draft.decoder d = .ok p.toDraft := by
    rw [Draft.decoder, hread]
    simp only [bind, Except.bind, hschema, hpaths, hselected, hignore]
    rfl
  rw [decoder, hdraft]
  exact congrArg Except.ok p.plan_toDraft

end

/-- A plan is read from any document that says it. -/
theorem decoder_of_saidBy (hd : p.SaidBy d) (hscan : d.scan = none) : decoder d = .ok p := by
  obtain @⟨targets, selection, htargets, hselection, hd⟩ := hd
  have hmembers := hd.scan hscan
  have hitems := hmembers ("paths", .array (.ofList targets)) (by simp [saidMembers])
  have hpaths := targetsDecoder_of_saidBy p.places_distinct htargets (scan_of_mem_items hitems)
  have hselected := hselection.eq_nil_or fun m hm => hmembers m (by simp [saidMembers, hm])
  exact decoder_of_isObjectOf hpaths hselected hd hscan

/-- What is written for a plan says it. -/
theorem saidBy_toJson (p : Plan) : p.SaidBy p.toJson.doc := by
  let targets := p.targets.map fun t => t.toJson.doc
  let selection := docsOf (p.selection.map fun s => ("rule_selection", s.toJson)).toList
  have htargets : List.Forall₂ Target.SaidBy p.targets targets :=
    Target.forall₂_saidBy_toJson p.targets
  have hselection : SelectionSaidBy p.selection selection := by
    cases hs : p.selection with
    | none => simpa [selection, hs, docsOf] using SelectionSaidBy.unsaid
    | some s => simpa [selection, hs, docsOf] using SelectionSaidBy.said s.saidBy_toJson
  have hmembers : docsOf p.members = p.saidMembers targets selection := by
    simp [docsOf, members, saidMembers, targets, selection, Value.doc, itemDocs_eq_ofList,
      Function.comp_def]
  exact .intro htargets hselection (hmembers ▸ isObjectOf_doc record.names p.members)

theorem decoder_doc (p : Plan) : decoder p.toJson.doc = .ok p :=
  decoder_of_saidBy p.saidBy_toJson (scan_doc _)

/-- **Plans**: a plan comes back from its text, be that laid out on one line or over several, with
all its spellings and in its order. -/
theorem decode_toJson (p : Plan) :
    decode decoder p.toJson.compact.toList = .ok p ∧
      decode decoder p.toJson.pretty.toList = .ok p := by
  constructor
  · rw [decode_compact, p.decoder_doc]
  · rw [decode_pretty, p.decoder_doc]

/-- Quotes, controls and a list of no rules come back as they were. -/
theorem decode_toJson_no_rules :
    let p : Plan :=
      { schema := "v\"\\\x01"
        targets := [⟨⟨"./A\n.java"⟩, .file⟩, ⟨⟨"lib//é/"⟩, .directory⟩]
        selection := some (.only [])
        ignoreTestFiles := true
        places_distinct := by decide
        rules_nodup := by rintro _ ⟨⟩; exact .nil }
    decode decoder p.toJson.compact.toList = .ok p ∧
      decode decoder p.toJson.pretty.toList = .ok p :=
  decode_toJson _

/-! ### texts -/

/-- The texts of a plan: those of the documents that say it. -/
def IsText (p : Plan) (s : List Char) : Prop := ∃ d, p.SaidBy d ∧ d.WrittenAs s

/-- **Texts of a plan**: what is written for a plan is one of its texts, and from each of its texts
that very plan is read: whatever blanks stand between the tokens, in whatever order the members of
its objects stand, and whatever stands beside them under other names. -/
theorem decode_of_isText (p : Plan) :
    (∀ layout, p.IsText (p.toJson.write layout 0)) ∧
      ∀ s, p.IsText s → decode decoder s = .ok p := by
  refine ⟨fun layout => ⟨_, p.saidBy_toJson, writtenAs_write layout 0 p.toJson⟩, ?_⟩
  rintro s ⟨d, hd, hs⟩
  rw [decode_of_writtenAs decoder hs]
  exact decoder_of_saidBy hd hs.scan

/-- Members of a plan, of its selection and of its target in another order, and others between
them. -/
theorem decode_of_isText_shuffled :
    let p : Plan :=
      { schema := "v"
        targets := [⟨⟨"A.java"⟩, .file⟩]
        selection := some (.only ["R"])
        ignoreTestFiles := true
        places_distinct := by decide
        rules_nodup := by rintro _ ⟨⟩; decide }
    let target : Value := .object [("kind", .text "file"), ("path", .text "A.java")]
    let selection : Value :=
      .object [("rules", .texts ["R"]), ("note", .null), ("mode", .text "include_only")]
    let later : Value := .array [.object [("paths", .number 7)], .text "\x01"]
    let v : Value := .object [("rule_selection", selection), ("ignore_test_files", .bool true),
      ("later", later), ("schema", .text "v"), ("paths", .array [target])]
    p.IsText (v.write .pretty 0) ∧ decode decoder (v.write .pretty 0) = .ok p := by
  intro p target selection later v
  have htarget : Target.SaidBy ⟨⟨"A.java"⟩, .file⟩ target.doc :=
    ⟨_, [], rfl, .swap _ _ [], nofun⟩
  have hselection : (Selection.only ["R"]).SaidBy selection.doc :=
    ⟨_, [("note", .null)], rfl, @List.perm_append_comm _ [_, _] [_], by decide⟩
  have hv : v.doc.IsObjectOf record.names
      (p.saidMembers [target.doc] [("rule_selection", selection.doc)]) :=
    ⟨_, [("later", later.doc)], rfl, @List.perm_append_comm _ [_, _, _] [_, _], by decide⟩
  have htext : p.IsText (v.write .pretty 0) :=
    ⟨v.doc, .intro (.cons htarget .nil) (.said hselection) hv, writtenAs_write .pretty 0 v⟩
  exact ⟨htext, (decode_of_isText p).2 _ htext⟩

end Plan

end FixBatch
