import FixBatch.Proofs.Settings.Section
import FixBatch.Proofs.Toml.Document

/-!
# FixBatch.Proofs.Settings

What a configuration file settles.  A document says a value for a key of a section if the section
is a table of it and holds the key with this value, wherever the two stand.  It has settings just in
case it knows no other sections and keys, and every value is written as those of its key are; then
each key settles its own setting, which is what the document says, or else the default.

* `exists_ofTable_iff` — which documents have settings;
* `settled_of_ofTable` — what they are;
* `parse_eq_ok_iff_settled` — both, for the text of a document.
-/

namespace FixBatch.Settings

variable {α : Type}

/-! ## shapes of values -/

theorem truth_eq_ok {v : Toml.Value} {b : Bool} : truth v = .ok b ↔ v = .bool b := by
  cases v <;> simp [truth, wrongType]

theorem string_eq_ok {v : Toml.Value} {s : String} : string v = .ok s ↔ v = .text s := by
  cases v <;> simp [string, wrongType]

/-- A list of strings is written as an array; an array of tables, which is not empty, is none. -/
theorem strings_eq_ok {v : Toml.Value} (hv : v.Proper) {l : List String} :
    strings v = .ok l ↔ v = .array (l.map .text) := by
  cases v with
  | array items =>
    rw [strings, mapM_eq_ok, Toml.Value.array.injEq]
    simp only [string_eq_ok]
    rw [← List.forall₂_map_right_iff, List.forall₂_eq_eq_eq]
  | tables elements =>
    obtain ⟨hne, -⟩ := Toml.Value.proper_tables_iff.mp hv
    obtain ⟨e, es, hreverse⟩ := List.exists_cons_of_ne_nil (List.reverse_ne_nil_iff.mpr hne)
    refine ⟨fun h => ?_, fun h => by contradiction⟩
    rw [strings, hreverse, mapM_eq_ok, List.forall₂_cons_left_iff] at h
    obtain ⟨s, rest, hs, -⟩ := h
    contradiction
  | text | integer | float | bool | datetime | table => simp [strings, wrongType]

/-- The word for a policy. -/
def word : Policy → String
  | .proceed => "continue"
  | .stop => "abort"

theorem lookup_policies {w : String} {p : Policy} :
    policies.lookup w = some p ↔ w = word p := by
  by_cases hgo : w = word .proceed
  · rw [hgo]
    cases p <;> decide
  · by_cases hstop : w = word .stop
    · rw [hstop]
      cases p <;> decide
    · have hnone : policies.lookup w = none := by
        rw [List.lookup_eq_none_iff]
        intro entry hentry
        rcases List.mem_pair.mp hentry with rfl | rfl
        · simpa [word] using hgo
        · simpa [word] using hstop
      rw [hnone]
      cases p <;> simp [hgo, hstop]

theorem policyOf_eq_ok {w : String} {p : Policy} : policyOf w = .ok p ↔ w = word p := by
  rw [← lookup_policies, policyOf]
  cases policies.lookup w <;> simp

/-- A policy is written as its word, where it is not written as a table. -/
theorem policyValue_eq_ok {v : Toml.Value} (hv : ∀ origin entries, v ≠ .table origin entries)
    {p : Policy} : policyValue v = .ok p ↔ v = .text (word p) := by
  cases v with
  | text w => rw [policyValue, policyOf_eq_ok, Toml.Value.text.injEq]
  | table origin entries => exact absurd rfl (hv origin entries)
  | integer | float | bool | datetime | array | tables => simp [policyValue]

/-! ## keys -/

/-- A key of a section: how its values are written, each in one way, and the setting that it
settles. -/
structure Key (α : Type) where
  sec : String
  name : String
  written : α → Toml.Value
  injective : Function.Injective written
  place : Settings → α

namespace Key

def command : Key (List String) where
  sec := "engine"
  name := "command"
  written l := .array (l.map .text)
  injective l l' h := by
    have htext : Function.Injective Toml.Value.text := fun _ _ h => Toml.Value.text.inj h
    exact htext.list_map (Toml.Value.array.inj h)
  place := Settings.command

def onError : Key Policy where
  sec := "dispatch"
  name := "on_error"
  written p := .text (word p)
  injective p p' h := by
    have hword : word p = word p' := Toml.Value.text.inj h
    cases p <;> cases p' <;> first | rfl | exact absurd hword (by decide)
  place := Settings.policy

def ignoreTestFiles : Key Bool where
  sec := "dispatch"
  name := "ignore_test_files"
  written := .bool
  injective _ _ := Toml.Value.bool.inj
  place := Settings.ignoreTestFiles

def sourceSuffix : Key String where
  sec := "dispatch"
  name := "source_suffix"
  written := .text
  injective _ _ := Toml.Value.text.inj
  place := Settings.sourceSuffix

def enabled : Key Bool where
  sec := "cleanup"
  name := "enabled"
  written := .bool
  injective _ _ := Toml.Value.bool.inj
  place := Settings.cleanup

end Key

/-! ## what a document says -/

/-- Whether a document has a value for a key of a section. -/
def Says (table : Toml.Entries) (sec key : String) (v : Toml.Value) : Prop :=
  ∃ origin entries, (sec, .table origin entries) ∈ table ∧ (key, v) ∈ entries

/-- A value as those of a key are written, for that key. -/
def Key.Admits (k : Key α) (sec key : String) (v : Toml.Value) : Prop :=
  sec = k.sec ∧ key = k.name ∧ ∃ a, v = k.written a

/-- A value as some key has them. -/
def Admitted (sec key : String) (v : Toml.Value) : Prop :=
  Key.command.Admits sec key v ∨ Key.onError.Admits sec key v ∨
    Key.ignoreTestFiles.Admits sec key v ∨ Key.sourceSuffix.Admits sec key v ∨
    Key.enabled.Admits sec key v

/-- The names of the sections. -/
def sectionNames : List String := ["engine", "dispatch", "cleanup"]

/-- A document of which every section and every key is known, with values as they have them. -/
structure Fits (table : Toml.Entries) : Prop where
  sections : ∀ entry ∈ table, entry.1 ∈ sectionNames
  values : ∀ sec key v, Says table sec key v → Admitted sec key v

/-- Settings in which a key has settled what the document says, or left what is there without a
document. -/
structure Key.Settled (k : Key α) (table : Toml.Entries) (s : Settings) : Prop where
  said : ∀ v, Says table k.sec k.name v → v = k.written (k.place s)
  unsaid : (∀ v, ¬ Says table k.sec k.name v) → k.place s = k.place default

/-- Settings in which every key has settled what it has to. -/
structure Settled (table : Toml.Entries) (s : Settings) : Prop where
  command : Key.command.Settled table s
  onError : Key.onError.Settled table s
  ignoreTestFiles : Key.ignoreTestFiles.Settled table s
  sourceSuffix : Key.sourceSuffix.Settled table s
  enabled : Key.enabled.Settled table s

/-! ## the sections of a file -/

theorem reads_command : engineSection.Reads "command" Settings.command (Given strings) :=
  List.forall_mem_singleton.mpr (.inl ⟨rfl, Field.moves_of fun _ _ => rfl⟩)

theorem reads_onError : dispatchSection.Reads "on_error" Settings.policy (Given policyValue) :=
  forall_mem_three.mpr ⟨.inl ⟨rfl, Field.moves_of fun _ _ => rfl⟩,
    .inr ⟨by decide, Field.leaves_of fun _ _ => rfl⟩,
    .inr ⟨by decide, Field.leaves_of fun _ _ => rfl⟩⟩

theorem reads_ignoreTestFiles :
    dispatchSection.Reads "ignore_test_files" Settings.ignoreTestFiles (Given truth) :=
  forall_mem_three.mpr ⟨.inr ⟨by decide, Field.leaves_of fun _ _ => rfl⟩,
    .inl ⟨rfl, Field.moves_of fun _ _ => rfl⟩,
    .inr ⟨by decide, Field.leaves_of fun _ _ => rfl⟩⟩

theorem reads_sourceSuffix :
    dispatchSection.Reads "source_suffix" Settings.sourceSuffix (Given string) :=
  forall_mem_three.mpr ⟨.inr ⟨by decide, Field.leaves_of fun _ _ => rfl⟩,
    .inr ⟨by decide, Field.leaves_of fun _ _ => rfl⟩,
    .inl ⟨rfl, Field.moves_of fun _ _ => rfl⟩⟩

theorem reads_enabled : cleanupSection.Reads "enabled" Settings.cleanup (Given truth) :=
  List.forall_mem_singleton.mpr (.inl ⟨rfl, Field.moves_of fun _ _ => rfl⟩)

section

variable {place : Settings → α}

theorem leaves_engine (h : ∀ s command, place { s with command } = place s) :
    (Field.mk "engine" engineSection.put).Leaves place := by
  have hfields : ∀ f ∈ engineSection.fields, f.Leaves place :=
    List.forall_mem_singleton.mpr (Field.leaves_of h)
  exact Section.leaves_put hfields _

theorem leaves_dispatch (hpolicy : ∀ s policy, place { s with policy } = place s)
    (htests : ∀ s ignoreTestFiles, place { s with ignoreTestFiles } = place s)
    (hsuffix : ∀ s sourceSuffix, place { s with sourceSuffix } = place s) :
    (Field.mk "dispatch" dispatchSection.put).Leaves place := by
  have hfields : ∀ f ∈ dispatchSection.fields, f.Leaves place :=
    forall_mem_three.mpr
      ⟨Field.leaves_of hpolicy, Field.leaves_of htests, Field.leaves_of hsuffix⟩
  exact Section.leaves_put hfields _

theorem leaves_cleanup (h : ∀ s cleanup, place { s with cleanup } = place s) :
    (Field.mk "cleanup" cleanupSection.put).Leaves place := by
  have hfields : ∀ f ∈ cleanupSection.fields, f.Leaves place :=
    List.forall_mem_singleton.mpr (Field.leaves_of h)
  exact Section.leaves_put hfields _

end

open Section (Inside)

theorem reads_engine_command :
    sections.Reads "engine" Settings.command (Inside "command" (Given strings)) :=
  forall_mem_three.mpr ⟨.inl ⟨rfl, reads_command.moves_put _⟩,
    .inr ⟨by decide, leaves_dispatch (fun _ _ => rfl) (fun _ _ => rfl) fun _ _ => rfl⟩,
    .inr ⟨by decide, leaves_cleanup fun _ _ => rfl⟩⟩

theorem reads_dispatch {key : String} {place : Settings → α} {R : Toml.Value → α → α → Prop}
    (h : dispatchSection.Reads key place R)
    (hengine : ∀ s command, place { s with command } = place s)
    (hcleanup : ∀ s cleanup, place { s with cleanup } = place s) :
    sections.Reads "dispatch" place (Inside key R) :=
  forall_mem_three.mpr ⟨.inr ⟨by decide, leaves_engine hengine⟩, .inl ⟨rfl, h.moves_put _⟩,
    .inr ⟨by decide, leaves_cleanup hcleanup⟩⟩

theorem reads_cleanup_enabled :
    sections.Reads "cleanup" Settings.cleanup (Inside "enabled" (Given truth)) :=
  forall_mem_three.mpr ⟨.inr ⟨by decide, leaves_engine fun _ _ => rfl⟩,
    .inr ⟨by decide, leaves_dispatch (fun _ _ => rfl) (fun _ _ => rfl) fun _ _ => rfl⟩,
    .inl ⟨rfl, reads_enabled.moves_put _⟩⟩

/-! ## whole documents -/

/-- A table, however it came to be. -/
def IsTable (v : Toml.Value) : Prop := ∃ origin entries, v = .table origin entries

instance (v : Toml.Value) : Decidable (IsTable v) :=
  match v with
  | .table origin entries => .isTrue ⟨origin, entries, rfl⟩
  | .text _ | .integer _ | .float _ | .bool _ | .datetime | .array _ | .tables _ =>
    .isFalse fun ⟨_, _, h⟩ => nomatch h

/-- A document whose sections are tables where they are there, and whose policy is none. -/
structure Sectioned (table : Toml.Entries) : Prop where
  sections : ∀ sec ∈ sectionNames, ∀ v, (sec, v) ∈ table → IsTable v
  policy : ∀ v, Says table "dispatch" "on_error" v → ¬ IsTable v

theorem Says.proper {table : Toml.Entries} {sec key : String} {v : Toml.Value}
    (h : Says table sec key v) (htable : table.Proper) : v.Proper := by
  obtain ⟨origin, entries, hsec, hkey⟩ := h
  exact (Toml.Value.proper_table_iff.mp (htable.values _ hsec)).values _ hkey

/-- **One key**: it settles what the document says, if the shape of its values is how they are
written. -/
theorem Key.settled {k : Key α} {shape : Toml.Value → Except Misfit α} {table : Toml.Entries}
    {s : Settings} (htable : table.Proper) (hsec : ∀ v, (k.sec, v) ∈ table → IsTable v)
    (hreads : sections.Reads k.sec k.place (Inside k.name (Given shape)))
    (hshape : ∀ v, Says table k.sec k.name v → ∀ a, shape v = .ok a → v = k.written a)
    (h : ofTable table = .ok s) : k.Settled table s := by
  obtain ⟨hthere, hmissing⟩ := hreads.putTable htable.nodup h
  constructor
  · intro v hv
    obtain ⟨origin, entries, hentries, hkey⟩ := id hv
    have hnodup := (Toml.Value.proper_table_iff.mp (htable.values _ hentries)).nodup
    obtain ⟨hsaid, -⟩ := hthere _ hentries origin entries rfl hnodup
    exact hshape v hv _ (hsaid v hkey)
  · intro hnone
    by_cases hv : ∃ v, (k.sec, v) ∈ table
    · obtain ⟨v, hv⟩ := hv
      obtain ⟨origin, entries, rfl⟩ := hsec v hv
      have hnodup := (Toml.Value.proper_table_iff.mp (htable.values _ hv)).nodup
      obtain ⟨-, hunsaid⟩ := hthere _ hv origin entries rfl hnodup
      exact hunsaid fun w hw => hnone w ⟨origin, entries, hv, hw⟩
    · exact hmissing fun v hmem => hv ⟨v, hmem⟩

/-- **Settling**: the settings of a document are what its keys settle. -/
theorem settled_of_ofTable {table : Toml.Entries} {s : Settings} (htable : table.Proper)
    (hsectioned : Sectioned table) (h : ofTable table = .ok s) : Settled table s := by
  have hengine := hsectioned.sections "engine" (by decide)
  have hdispatch := hsectioned.sections "dispatch" (by decide)
  have hcleanup := hsectioned.sections "cleanup" (by decide)
  constructor
  · refine Key.settled htable hengine reads_engine_command (fun v hv l hl => ?_) h
    exact (strings_eq_ok (hv.proper htable)).mp hl
  · refine Key.settled htable hdispatch
      (reads_dispatch reads_onError (fun _ _ => rfl) fun _ _ => rfl) (fun v hv p hp => ?_) h
    have hno : ∀ origin entries, v ≠ .table origin entries := fun origin entries heq =>
      hsectioned.policy v hv ⟨origin, entries, heq⟩
    exact (policyValue_eq_ok hno).mp hp
  · exact Key.settled htable hdispatch
      (reads_dispatch reads_ignoreTestFiles (fun _ _ => rfl) fun _ _ => rfl)
      (fun v _ b hb => truth_eq_ok.mp hb) h
  · exact Key.settled htable hdispatch
      (reads_dispatch reads_sourceSuffix (fun _ _ => rfl) fun _ _ => rfl)
      (fun v _ t ht => string_eq_ok.mp ht) h
  · exact Key.settled htable hcleanup reads_cleanup_enabled (fun v _ b hb => truth_eq_ok.mp hb) h

/-- What a key settles is one thing. -/
theorem Key.Settled.unique {k : Key α} {table : Toml.Entries} {s s' : Settings}
    (h : k.Settled table s) (h' : k.Settled table s') : k.place s = k.place s' := by
  by_cases hv : ∃ v, Says table k.sec k.name v
  · obtain ⟨v, hv⟩ := hv
    exact k.injective ((h.said v hv).symm.trans (h'.said v hv))
  · have hnone : ∀ v, ¬ Says table k.sec k.name v := fun v hsaid => hv ⟨v, hsaid⟩
    rw [h.unsaid hnone, h'.unsaid hnone]

theorem Settled.unique {table : Toml.Entries} {s s' : Settings} (h : Settled table s)
    (h' : Settled table s') : s = s' := by
  have hcommand : s.command = s'.command := h.command.unique h'.command
  have hpolicy : s.policy = s'.policy := h.onError.unique h'.onError
  have htests : s.ignoreTestFiles = s'.ignoreTestFiles :=
    h.ignoreTestFiles.unique h'.ignoreTestFiles
  have hsuffix : s.sourceSuffix = s'.sourceSuffix := h.sourceSuffix.unique h'.sourceSuffix
  have hcleanup : s.cleanup = s'.cleanup := h.enabled.unique h'.enabled
  cases s
  cases s'
  exact Settings.mk.injEq .. ▸ ⟨hcommand, hpolicy, htests, hsuffix, hcleanup⟩

/-! ### which documents fit -/

theorem admitted_engine_iff {key : String} {v : Toml.Value} :
    Admitted "engine" key v ↔ key = "command" ∧ ∃ l, v = Key.command.written l := by
  simp [Admitted, Key.Admits, Key.command, Key.onError, Key.ignoreTestFiles, Key.sourceSuffix,
    Key.enabled]

theorem admitted_dispatch_iff {key : String} {v : Toml.Value} :
    Admitted "dispatch" key v ↔ (key = "on_error" ∧ ∃ p, v = Key.onError.written p) ∨
      (key = "ignore_test_files" ∧ ∃ b, v = Key.ignoreTestFiles.written b) ∨
      (key = "source_suffix" ∧ ∃ s, v = Key.sourceSuffix.written s) := by
  simp [Admitted, Key.Admits, Key.command, Key.onError, Key.ignoreTestFiles, Key.sourceSuffix,
    Key.enabled]

theorem admitted_cleanup_iff {key : String} {v : Toml.Value} :
    Admitted "cleanup" key v ↔ key = "enabled" ∧ ∃ b, v = Key.enabled.written b := by
  simp [Admitted, Key.Admits, Key.command, Key.onError, Key.ignoreTestFiles, Key.sourceSuffix,
    Key.enabled]

/-- A value of a section that, if it is a table, holds nothing but what the keys of the section
admit. -/
def SectionFits (sec : String) (v : Toml.Value) : Prop :=
  ∀ origin entries, v = .table origin entries → ∀ entry ∈ entries, Admitted sec entry.1 entry.2

/-- A section is taken if its fields take just the values that its keys have, and those keys are
names of fields. -/
theorem takes_section {sec : Section} {name : String} {origin : Toml.Origin}
    {entries : Toml.Entries}
    (hfields : ∀ f ∈ sec.fields, ∀ v, (f.name, v) ∈ entries → f.Takes v (Admitted name f.name v))
    (hnames : ∀ key v, Admitted name key v → key ∈ sec.fields.map Field.name) :
    (Field.mk name sec.put).Takes (.table origin entries)
      (SectionFits name (.table origin entries)) := by
  intro s
  refine (Section.exists_putTable_iff hfields s).trans ⟨?_, fun h entry hentry => ?_⟩
  · rintro h _ _ ⟨⟩ entry hentry
    exact (h entry hentry).2
  · have hadmitted := h origin entries rfl entry hentry
    exact ⟨hnames entry.1 entry.2 hadmitted, hadmitted⟩

theorem takes_engine {origin : Toml.Origin} {entries : Toml.Entries} (h : entries.Proper) :
    (Field.mk "engine" engineSection.put).Takes (.table origin entries)
      (SectionFits "engine" (.table origin entries)) := by
  refine takes_section (fun f hf v hv => ?_) fun key v hadmitted => ?_
  · obtain rfl := List.mem_singleton.mp hf
    refine Field.takes_of ?_
    rw [Field.of, admitted_engine_iff, and_iff_right rfl]
    exact exists_congr fun l => strings_eq_ok (h.values _ hv)
  · obtain ⟨rfl, -⟩ := admitted_engine_iff.mp hadmitted
    decide

theorem takes_dispatch {origin : Toml.Origin} {entries : Toml.Entries}
    (h : ∀ v, ("on_error", v) ∈ entries → ¬ IsTable v) :
    (Field.mk "dispatch" dispatchSection.put).Takes (.table origin entries)
      (SectionFits "dispatch" (.table origin entries)) := by
  refine takes_section (fun f hf v hv => ?_) fun key v hadmitted => ?_
  · rcases List.mem_cons.mp hf with rfl | hf
    · refine Field.takes_of ?_
      have hno : ∀ origin entries, v ≠ .table origin entries := fun origin entries heq =>
        h v hv ⟨origin, entries, heq⟩
      simp [Field.of, admitted_dispatch_iff, policyValue_eq_ok hno, Key.onError]
    · rcases List.mem_pair.mp hf with rfl | rfl
      · refine Field.takes_of ?_
        simp [Field.of, admitted_dispatch_iff, truth_eq_ok, Key.ignoreTestFiles]
      · refine Field.takes_of ?_
        simp [Field.of, admitted_dispatch_iff, string_eq_ok, Key.sourceSuffix]
  · rcases admitted_dispatch_iff.mp hadmitted with ⟨rfl, -⟩ | ⟨rfl, -⟩ | ⟨rfl, -⟩ <;> decide

theorem takes_cleanup {origin : Toml.Origin} {entries : Toml.Entries} :
    (Field.mk "cleanup" cleanupSection.put).Takes (.table origin entries)
      (SectionFits "cleanup" (.table origin entries)) := by
  refine takes_section (fun f hf v hv => ?_) fun key v hadmitted => ?_
  · obtain rfl := List.mem_singleton.mp hf
    refine Field.takes_of ?_
    simp [Field.of, admitted_cleanup_iff, truth_eq_ok, Key.enabled]
  · obtain ⟨rfl, -⟩ := admitted_cleanup_iff.mp hadmitted
    decide

/-- **Fitting**: the documents that have settings. -/
theorem exists_ofTable_iff {table : Toml.Entries} (htable : table.Proper)
    (hsectioned : Sectioned table) : (∃ s, ofTable table = .ok s) ↔ Fits table := by
  have htakes : ∀ f ∈ sections.fields, ∀ v, (f.name, v) ∈ table →
      f.Takes v (SectionFits f.name v) := by
    intro f hf v hv
    rcases List.mem_cons.mp hf with rfl | hf
    · obtain ⟨origin, entries, rfl⟩ := hsectioned.sections "engine" (by decide) v hv
      exact takes_engine (Toml.Value.proper_table_iff.mp (htable.values _ hv))
    · rcases List.mem_pair.mp hf with rfl | rfl
      · obtain ⟨origin, entries, rfl⟩ := hsectioned.sections "dispatch" (by decide) v hv
        exact takes_dispatch fun w hw => hsectioned.policy w ⟨origin, entries, hv, hw⟩
      · obtain ⟨origin, entries, rfl⟩ := hsectioned.sections "cleanup" (by decide) v hv
        exact takes_cleanup
  rw [ofTable, Section.exists_putTable_iff htakes]
  constructor
  · intro h
    refine ⟨fun entry hentry => (h entry hentry).1, ?_⟩
    rintro sec key v ⟨origin, entries, hsec, hkey⟩
    exact (h _ hsec).2 origin entries rfl (key, v) hkey
  · rintro h ⟨sec, v⟩ hentry
    refine ⟨h.sections _ hentry, ?_⟩
    rintro origin entries rfl ⟨key, w⟩ hkey
    exact h.values sec key w ⟨origin, entries, hentry, hkey⟩

/-! ### whole texts -/

/-- **Settings**: a document has settings just in case every section and every key in it is known
and every value is written as its key's values are.  The settings are then what each key settles by
itself. -/
theorem parse_eq_ok_iff_settled {text : String} {table : Toml.Entries}
    (hread : Toml.read text.toList = .ok table) (hsectioned : Sectioned table) :
    ((∃ s, parse text = .ok s) ↔ Fits table) ∧
      ∀ s, parse text = .ok s ↔ Fits table ∧ Settled table s := by
  have htable : table.Proper := Toml.proper_read hread
  have hparse : parse text = ofTable table := by rw [parse, hread]
  rw [hparse]
  have hfits := exists_ofTable_iff htable hsectioned
  refine ⟨hfits, fun s => ⟨fun h => ?_, fun ⟨hfit, hsettled⟩ => ?_⟩⟩
  · exact ⟨hfits.mp ⟨s, h⟩, settled_of_ofTable htable hsectioned h⟩
  · obtain ⟨s', hs'⟩ := hfits.mpr hfit
    rw [hsettled.unique (settled_of_ofTable htable hsectioned hs')]
    exact hs'

/-- A document that turns the cleanup off and names an engine, and says nothing of the rest. -/
theorem parse_settled_two_sections :
    ∃ table, Toml.read "[cleanup]\nenabled = false\n[engine]\ncommand = [\"fixer\"]\n".toList =
        .ok table ∧ Sectioned table ∧
      ((∃ s, parse "[cleanup]\nenabled = false\n[engine]\ncommand = [\"fixer\"]\n" = .ok s) ↔
        Fits table) ∧
      ∀ s, parse "[cleanup]\nenabled = false\n[engine]\ncommand = [\"fixer\"]\n" = .ok s ↔
        Fits table ∧ Settled table s := by
  have hcheck : (Toml.read
      "[cleanup]\nenabled = false\n[engine]\ncommand = [\"fixer\"]\n".toList).toOption.any
        (fun table => decide (∀ entry ∈ table,
          entry.1 ∈ ["cleanup", "engine"] ∧ IsTable entry.2)) = true := by
    decide +kernel
  generalize hread : Toml.read _ = answer at hcheck ⊢
  cases answer with
  | error e => cases hcheck
  | ok table =>
    have htables := of_decide_eq_true hcheck
    have hsectioned : Sectioned table := by
      refine ⟨fun sec _ v hv => (htables _ hv).2, ?_⟩
      rintro v ⟨origin, entries, hsec, -⟩
      have hname : "dispatch" ∈ ["cleanup", "engine"] := (htables _ hsec).1
      exact absurd hname (by decide)
    exact ⟨table, rfl, hsectioned, parse_eq_ok_iff_settled hread hsectioned⟩

end FixBatch.Settings
