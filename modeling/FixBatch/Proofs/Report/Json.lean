import FixBatch.Proofs.Plan.Json
import FixBatch.Proofs.Timestamp
import FixBatch.Report.Json

/-!
# FixBatch.Proofs.Report.Json

Reports survive their JSON form.  A time that is not set is left unsaid and comes back unset; a flag
or a list that a text leaves out comes back as false or empty, and nothing else changes.

* `Report.Fits` — the range of the counters and of the times;
* `Failure.decoder_doc`, `Timestamp.decoder_doc` — the parts of a report, read again;
* `Report.decode_written` — the whole report, from either layout, with or without what may be left
  out.
-/

namespace FixBatch

open Json

/-! ## words and times -/

theorem Mode.decoder_doc (mode : Mode) : Mode.decoder (Value.text mode.word).doc = .ok mode := by
  apply words_doc (by decide)
  cases mode <;> simp [Mode.known]

theorem Scope.decoder_doc (scope : Scope) :
    Scope.decoder (Value.text scope.word).doc = .ok scope := by
  apply words_doc (by decide)
  cases scope <;> simp [Scope.known]

theorem Timestamp.decoder_doc {t : Timestamp} (h : t.IsInstant) :
    Timestamp.decoder (Value.text t.text).doc = .ok t := by
  have hread : Timestamp.read t.text.toList = .ok t := by
    rw [Timestamp.text, String.toList_ofList, read_chars h]
  simp only [Timestamp.decoder, string_doc, bind, Except.bind, hread]
  rfl

theorem Timestamp.nullableDecoder_doc {t : Timestamp} (h : t.IsInstant) :
    Timestamp.nullableDecoder (Value.text t.text).doc = .ok (some t) :=
  nullable_of_ne_null nofun (Timestamp.decoder_doc h)

/-! ## failures -/

namespace Failure

/-- The members of a failure's JSON form. -/
def members (f : Failure) : List (String × Value) :=
  [("path", f.path.toJson), ("scope", .text f.scope.word), ("message", .text f.message)]

theorem toJson_eq (f : Failure) : f.toJson = .object f.members := rfl

theorem admits (f : Failure) : record.Admits (docsOf f.members) where
  names := by decide
  keys := by simp [docsOf, members]
  takes := by
    simp only [docsOf, members, List.map_cons, List.map_nil]
    rw [List.forall_mem_cons, List.forall_mem_cons, List.forall_mem_singleton]
    exact ⟨Record.takes_of (by simp [record]) f.path.decoder_doc,
      Record.takes_of (by simp [record]) f.scope.decoder_doc,
      Record.takes_of (by simp [record]) (string_doc "a string" f.message)⟩
  complete := by simp [record, Field.of, docsOf, members]

theorem decoder_doc (f : Failure) : decoder f.toJson.doc = .ok f := by
  obtain ⟨found, hfound, hread⟩ := f.admits.read_doc
  have hpath : found.get "path" Path.decoder = .ok f.path :=
    f.admits.get hfound (by simp [docsOf, members]) f.path.decoder_doc
  have hscope : found.get "scope" Scope.decoder = .ok f.scope :=
    f.admits.get hfound (by simp [docsOf, members]) f.scope.decoder_doc
  have hmessage : found.get "message" (string "a string") = .ok f.message :=
    f.admits.get hfound (by simp [docsOf, members]) (string_doc "a string" f.message)
  rw [decoder, toJson_eq, hread]
  simp only [bind, Except.bind, hpath, hscope, hmessage]
  rfl

/-- A list of failures comes back in its order. -/
theorem array_decoder_doc (l : List Failure) :
    array decoder (Value.array (l.map toJson)).doc = .ok l :=
  array_doc fun f _ => f.decoder_doc

end Failure

/-! ## reports -/

namespace Report

/-- A report whose counters have 64 bits and whose times are instants. -/
structure Fits (r : Report) : Prop where
  attempted : r.attempted < Nat.pow 2 64
  succeeded : r.succeeded < Nat.pow 2 64
  failed : r.failed < Nat.pow 2 64
  started : ∀ t ∈ r.started, t.IsInstant
  ended : ∀ t ∈ r.ended, t.IsInstant

/-- The members of a report's JSON form. -/
def members (r : Report) : List (String × Value) :=
  [("schema", .text r.schema), ("mode", .text r.mode.word)] ++
    (r.started.map fun t => ("started_at", .text t.text)).toList ++
    (r.ended.map fun t => ("ended_at", .text t.text)).toList ++
    [("attempted", .number r.attempted), ("succeeded", .number r.succeeded),
      ("failed", .number r.failed), ("aborted", .bool r.aborted),
      ("failures", .array (r.failures.map Failure.toJson)),
      ("cleanup_failures", .array (r.cleanupFailures.map Failure.toJson))]

theorem toJson_eq (r : Report) : r.toJson = .object r.members := rfl

variable {r : Report}

theorem Fits.admits (h : r.Fits) : record.Admits (docsOf r.members) where
  names := by decide
  keys := by
    rw [map_fst_docsOf]
    cases hs : r.started <;> cases he : r.ended <;> simp [members, hs, he]
  takes := by
    have hnumber {k : String} (hk : .of k natural ∈ record.fields) {n : Nat}
        (hn : n < Nat.pow 2 64) : record.Takes (k, (Value.number n).doc) :=
      Record.takes_of hk (natural_doc hn)
    have htime {k : String} (hk : (.of k Timestamp.nullableDecoder : Field).optional ∈ record.fields)
        {t : Timestamp} (ht : t.IsInstant) : record.Takes (k, (Value.text t.text).doc) :=
      Record.takes_optional hk (Timestamp.nullableDecoder_doc ht)
    have hlist {k : String} (hk : (.of k (array Failure.decoder) : Field).optional ∈ record.fields)
        (l : List Failure) : record.Takes (k, (Value.array (l.map Failure.toJson)).doc) :=
      Record.takes_optional hk (Failure.array_decoder_doc l)
    have hschema : record.Takes ("schema", (Value.text r.schema).doc) :=
      Record.takes_of (by simp [record]) (string_doc "a string" r.schema)
    have hmode : record.Takes ("mode", (Value.text r.mode.word).doc) :=
      Record.takes_of (by simp [record]) r.mode.decoder_doc
    have haborted : record.Takes ("aborted", (Value.bool r.aborted).doc) :=
      Record.takes_optional (by simp [record]) (truth_doc r.aborted)
    have hstarted : ∀ t ∈ r.started, record.Takes ("started_at", (Value.text t.text).doc) :=
      fun t ht => htime (by simp [record]) (h.started t ht)
    have hended : ∀ t ∈ r.ended, record.Takes ("ended_at", (Value.text t.text).doc) :=
      fun t ht => htime (by simp [record]) (h.ended t ht)
    have hattempted := hnumber (k := "attempted") (by simp [record]) h.attempted
    have hsucceeded := hnumber (k := "succeeded") (by simp [record]) h.succeeded
    have hfailed := hnumber (k := "failed") (by simp [record]) h.failed
    have hfailures := hlist (k := "failures") (by simp [record]) r.failures
    have hcleanup := hlist (k := "cleanup_failures") (by simp [record]) r.cleanupFailures
    cases hs : r.started <;> cases he : r.ended <;>
      simp_all [docsOf, members]
  complete := by simp [record, Field.of, Field.optional, docsOf, members]

/-! ### with fields left out -/

/-- The fields that a text may leave out although a report always has them. -/
def omissible : List String := ["aborted", "failures", "cleanup_failures"]

/-- Whether the member of a name stays when others go. -/
def stays (gone : List String) (k : String) : Bool := !gone.contains k

/-- The JSON form of a report without the members of some names. -/
def jsonWithout (r : Report) (gone : List String) : Value :=
  .object (r.members.filter fun m => stays gone m.1)

/-- A report in which some fields are as if nothing had been said of them. -/
def without (r : Report) (gone : List String) : Report :=
  { r with
    aborted := if stays gone "aborted" then r.aborted else false
    failures := if stays gone "failures" then r.failures else []
    cleanupFailures := if stays gone "cleanup_failures" then r.cleanupFailures else [] }

theorem jsonWithout_nil (r : Report) : r.jsonWithout [] = r.toJson := by
  simp [jsonWithout, toJson_eq, stays]

theorem without_nil (r : Report) : r.without [] = r := by
  simp [without, stays]

section

variable {gone : List String} (hgone : ∀ k ∈ gone, k ∈ omissible)
include hgone

theorem stays_of_not_omissible {k : String} (hk : k ∉ omissible) : stays gone k = true := by
  simpa [stays] using fun hmem => hk (hgone k hmem)

/-- A record can do without what a text may leave out. -/
theorem stays_of_needed :
    ∀ f ∈ record.fields, f.needed = true → stays gone f.name = true := by
  have hfields : ∀ f ∈ record.fields, f.needed = true → f.name ∉ omissible := by
    simp [record, Field.of, Field.optional, omissible]
  exact fun f hf hneeded => stays_of_not_omissible hgone (hfields f hf hneeded)

variable {found : Found} (h : r.Fits)
  (hfound : found.Perm ((docsOf r.members).filter fun m => stays gone m.1))
include h hfound

/-- A time comes back if it was set. -/
theorem Fits.time {k : String} {time : Option Timestamp} (htime : ∀ t ∈ time, t.IsInstant)
    (hk : k ∉ omissible) (hset : ∀ t ∈ time, (k, (Value.text t.text).doc) ∈ docsOf r.members)
    (hunset : time = none → k ∉ r.members.map Prod.fst) :
    found.getD k Timestamp.nullableDecoder none = .ok time := by
  cases time with
  | none =>
    refine Record.getD_of_not_mem hfound (fun hmem => hunset rfl ?_) _ _
    rw [← map_fst_docsOf]
    exact (List.filter_sublist.map Prod.fst).subset hmem
  | some t =>
    have hget := h.admits.getD_filter (stays_of_needed hgone) hfound (hset t rfl)
      (Timestamp.nullableDecoder_doc (htime t rfl)) none
    rwa [if_pos (stays_of_not_omissible hgone hk)] at hget

omit hfound in
/-- A report comes back, apart from what its text leaves out. -/
theorem Fits.decoder_jsonWithout : decoder (r.jsonWithout gone).doc = .ok (r.without gone) := by
  have hneeded := stays_of_needed hgone
  have hadmits := h.admits.filter hneeded
  rw [← docsOf_filter (stays gone)] at hadmits
  obtain ⟨found, hfound, hread⟩ := hadmits.read_doc
  rw [docsOf_filter (stays gone)] at hfound
  have hget {α : Type} {k : String} {d : Doc} {decoder : Decoder α} {a : α}
      (hk : k ∉ omissible) (hmem : (k, d) ∈ docsOf r.members) (hd : decoder d = .ok a) :
      found.get k decoder = .ok a :=
    h.admits.get_filter hneeded hfound hmem hd (stays_of_not_omissible hgone hk)
  have hschema :=
    hget (k := "schema") (by decide) (by simp [docsOf, members]) (string_doc "a string" r.schema)
  have hmode := hget (k := "mode") (by decide) (by simp [docsOf, members]) r.mode.decoder_doc
  have hstarted := h.time hgone hfound (k := "started_at") h.started (by decide)
    (fun t ht => by simp [docsOf, members, Option.mem_def.mp ht])
    (fun hnone => by cases he : r.ended <;> simp [members, hnone, he])
  have hended := h.time hgone hfound (k := "ended_at") h.ended (by decide)
    (fun t ht => by simp [docsOf, members, Option.mem_def.mp ht])
    (fun hnone => by cases hs : r.started <;> simp [members, hnone, hs])
  have hattempted :=
    hget (k := "attempted") (by decide) (by simp [docsOf, members]) (natural_doc h.attempted)
  have hsucceeded :=
    hget (k := "succeeded") (by decide) (by simp [docsOf, members]) (natural_doc h.succeeded)
  have hfailed :=
    hget (k := "failed") (by decide) (by simp [docsOf, members]) (natural_doc h.failed)
  -- the fields that may be left out
  have haborted := h.admits.getD_filter (k := "aborted") hneeded hfound
    (by simp [docsOf, members]) (truth_doc r.aborted) false
  have hfailures := h.admits.getD_filter (k := "failures") hneeded hfound
    (by simp [docsOf, members]) (Failure.array_decoder_doc r.failures) []
  have hcleanup := h.admits.getD_filter (k := "cleanup_failures") hneeded hfound
    (by simp [docsOf, members]) (Failure.array_decoder_doc r.cleanupFailures) []
  rw [decoder, jsonWithout, hread]
  simp only [bind, Except.bind, hschema, hmode, hstarted, hended, hattempted, hsucceeded,
    hfailed, haborted, hfailures, hcleanup]
  rfl

end

/-- **Reports**: a report comes back from its text, be that laid out on one line or over several,
with its times set or unset as they were; where the text leaves out the flag or one of the lists, it
comes back with false or an empty list there and as it was everywhere else. -/
theorem decode_written (h : r.Fits) :
    (decode decoder r.toJson.compact.toList = .ok r ∧
      decode decoder r.toJson.pretty.toList = .ok r) ∧
    ∀ gone : List String, (∀ k ∈ gone, k ∈ omissible) →
      decode decoder (r.jsonWithout gone).compact.toList = .ok (r.without gone) ∧
        decode decoder (r.jsonWithout gone).pretty.toList = .ok (r.without gone) := by
  have hwithout (gone : List String) (hgone : ∀ k ∈ gone, k ∈ omissible) :
      decode decoder (r.jsonWithout gone).compact.toList = .ok (r.without gone) ∧
        decode decoder (r.jsonWithout gone).pretty.toList = .ok (r.without gone) := by
    rw [decode_compact, decode_pretty, h.decoder_jsonWithout hgone]
    exact ⟨rfl, rfl⟩
  refine ⟨?_, hwithout⟩
  have hwhole := hwithout [] (by simp)
  rwa [jsonWithout_nil, without_nil] at hwhole

/-- The largest counters, a leap second before the year zero and texts full of escapes come back;
without its flag and its cleanup failures the report says false and none of them. -/
theorem decode_written_extreme :
    let r : Report := ⟨"v\"\\", .excluding, none, some ⟨-44, 2, 29, 23, 59, 60, 120000000⟩,
      18446744073709551615, 0, 18446744073709551615, true,
      [⟨⟨"./A\n.java"⟩, .file, "\x01"⟩, ⟨⟨"lib//é/"⟩, .directory, ""⟩],
      [⟨⟨"B.java"⟩, .path, "gone"⟩]⟩
    let gone := ["cleanup_failures", "aborted"]
    (r.Fits ∧ ∀ k ∈ gone, k ∈ omissible) ∧
      (decode decoder r.toJson.compact.toList = .ok r ∧
        decode decoder r.toJson.pretty.toList = .ok r) ∧
      decode decoder (r.jsonWithout gone).pretty.toList =
        .ok { r with aborted := false, cleanupFailures := [] } := by
  intro r gone
  have hfits : r.Fits :=
    { attempted := by decide
      succeeded := by decide
      failed := by decide
      started := nofun
      ended := by
        rintro _ ⟨⟩
        exact ⟨by decide, by decide, by decide, by decide, by decide⟩ }
  have hgone : ∀ k ∈ gone, k ∈ omissible := by decide
  have hreport := decode_written hfits
  exact ⟨⟨hfits, hgone⟩, hreport.1, (hreport.2 gone hgone).2⟩

end Report

end FixBatch
