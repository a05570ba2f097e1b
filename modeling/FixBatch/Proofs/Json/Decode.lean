import FixBatch.Json.Decode
import FixBatch.Proofs.Json.Value
import Mathlib.Data.List.Forall2

/-!
# FixBatch.Proofs.Json.Decode

Decoders on documents.  What a decoder makes of a text it makes of its document, so blanks and
spellings drop out first.

* `decode_of_writtenAs`, `decode_write` — decoding a text is decoding its document;
* `array_ofList`, `words_doc` — arrays item by item, words by their lists.
-/

namespace FixBatch.Json

variable {α : Type}

/-! ## whole texts -/

/-- **Texts**: decoding a text of a document is decoding the document. -/
theorem decode_of_writtenAs (decoder : Decoder α) {d : Doc} {s : List Char} (h : d.WrittenAs s) :
    decode decoder s = decoder d := by
  obtain ⟨w, hw, hread⟩ := h.reads.read
  simp only [decode, hread, Option.getD_some, hw.skipBlanks]
  cases decoder d <;> rfl

/-- What is made from a value that is read is made from what the text says. -/
theorem decode_map {β : Type} (decoder : Decoder α) (f : α → β) (s : List Char) :
    decode (fun d => (decoder d).map f) s = (decode decoder s).map f := by
  simp only [decode]
  cases decoder (Doc.read s).1 with
  | error e => rfl
  | ok a =>
    simp only [Except.map, bind, Except.bind]
    split <;> rfl

theorem decode_write (decoder : Decoder α) (layout : Layout) (v : Value) :
    decode decoder (v.write layout 0) = decoder v.doc :=
  decode_of_writtenAs decoder (writtenAs_write layout 0 v)

theorem decode_compact (decoder : Decoder α) (v : Value) :
    decode decoder v.compact.toList = decoder v.doc := by
  rw [Value.compact, String.toList_ofList, decode_write]

theorem decode_pretty (decoder : Decoder α) (v : Value) :
    decode decoder v.pretty.toList = decoder v.doc := by
  rw [Value.pretty, String.toList_ofList, decode_write]

/-! ## plain values -/

theorem get_writtenText (s : String) : (writtenText s).get = .ok s.toList := rfl

theorem string_doc (expected s : String) : string expected (Value.text s).doc = .ok s := by
  rw [Value.doc, string, get_writtenText, Except.map, String.ofList_toList]

theorem truth_doc (b : Bool) : truth (Value.bool b).doc = .ok b := rfl

/-- A number of 64 bits comes back. -/
theorem natural_doc {n : Nat} (h : n < Nat.pow 2 64) : natural (Value.number n).doc = .ok n := by
  have hget : (writtenNumber n).get = .ok (.natural n) := by
    rw [Reading.get, value_writtenNumber h]
    rfl
  rw [Value.doc, natural, hget]
  rfl

/-- What is not null is decoded and kept. -/
theorem nullable_of_ne_null {decoder : Decoder α} {d : Doc} {a : α} (hd : d ≠ .null)
    (h : decoder d = .ok a) : nullable decoder d = .ok (some a) := by
  rw [nullable, h]
  · rfl
  · exact hd

/-- Items that are decoded one by one are decoded together. -/
theorem array_ofList {decoder : Decoder α} {l : List α} {ds : List Doc}
    (h : List.Forall₂ (fun a d => decoder d = .ok a) l ds) :
    array decoder (.array (.ofList ds)) = .ok l := by
  rw [array]
  induction h with
  | nil => rfl
  | cons ha _ ih => rw [Items.ofList, items, ha, ih]; rfl

theorem array_doc {decoder : Decoder α} {write : α → Value} {l : List α}
    (h : ∀ a ∈ l, decoder (write a).doc = .ok a) :
    array decoder (Value.array (l.map write)).doc = .ok l := by
  rw [Value.doc, itemDocs_eq_ofList, List.map_map]
  exact array_ofList (List.forall₂_map_right_iff.mpr (List.forall₂_same.mpr h))

/-! ## words and fields by name -/

/-- Of values with different names, each is found by its own. -/
theorem find?_of_nodup_names {name : α → String} {l : List α} (hl : (l.map name).Nodup) {a : α}
    (ha : a ∈ l) : (l.find? fun b => (name b).toList == (name a).toList) = some a := by
  induction l with
  | nil => cases ha
  | cons b l ih =>
    obtain ⟨hb, hl⟩ := List.nodup_cons.mp hl
    rcases List.mem_cons.mp ha with rfl | ha
    · rw [List.find?_cons_of_pos (by simp)]
    · have hne : name b ≠ name a := fun h => hb (h ▸ List.mem_map_of_mem ha)
      rw [List.find?_cons_of_neg (by simpa [String.toList_inj] using hne), ih hl ha]

theorem words_doc {known : List (String × α)} (hknown : (known.map Prod.fst).Nodup) {word : String}
    {a : α} (h : (word, a) ∈ known) : words known (Value.text word).doc = .ok a := by
  have hfind := find?_of_nodup_names hknown h
  rw [Value.doc, words, get_writtenText]
  change ofWord known word.toList = .ok a
  rw [ofWord, hfind]

/-- What a name stands for, among pairs of which no two have the same name. -/
theorem lookup_of_mem {β : Type} {l : List (String × β)} (hl : (l.map Prod.fst).Nodup) {k : String}
    {b : β} (h : (k, b) ∈ l) : l.lookup k = some b := by
  obtain ⟨l₁, l₂, rfl⟩ := List.append_of_mem h
  refine List.lookup_eq_some_iff.mpr ⟨l₁, l₂, rfl, fun p hp => ?_⟩
  rw [List.map_append, List.map_cons, List.nodup_append] at hl
  have hne := hl.2.2 p.1 (List.mem_map_of_mem hp) k List.mem_cons_self
  simpa using Ne.symm hne

theorem lookup_of_not_mem {β : Type} {l : List (String × β)} {k : String}
    (h : k ∉ l.map Prod.fst) : l.lookup k = none := by
  refine List.lookup_eq_none_iff.mpr fun p hp => ?_
  have hne : k ≠ p.1 := fun heq => h (heq ▸ List.mem_map_of_mem hp)
  simpa using hne

end FixBatch.Json
