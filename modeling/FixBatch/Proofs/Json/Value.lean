import FixBatch.Proofs.Json.Grammar

/-!
# FixBatch.Proofs.Json.Value

Written values.  A value has one document, whatever the layout of its text: the blanks by which
layouts differ stand between tokens only.

* `Value.doc` — the document of a value;
* `writtenAs_write` — what is written for a value, in either layout and at any depth, is a text of
  its document;
* `scan_doc` — so it holds no fault.
-/

namespace FixBatch.Json

/-! ## documents of values -/

/-- What reading the text of a string gives. -/
def writtenText (s : String) : Reading (List Char) := ⟨.ok s.toList, none⟩

mutual

/-- The document of a value. -/
def Value.doc : Value → Doc
  | .null => .null
  | .bool b => .bool b
  | .number n => .number (writtenNumber n)
  | .text s => .text (writtenText s)
  | .array vs => .array (itemDocs vs)
  | .object ms => .object (memberDocs ms)

/-- The documents of an array's items. -/
def itemDocs : List Value → Items
  | [] => .closed
  | v :: vs => .item v.doc (itemDocs vs)

/-- The keys of an object with their documents. -/
def memberDocs : List (String × Value) → Members
  | [] => .closed
  | (k, v) :: ms => .member (writtenText k) v.doc (memberDocs ms)

end

/-- The items of an array that is closed. -/
def Items.ofList : List Doc → Items
  | [] => .closed
  | d :: ds => .item d (ofList ds)

/-- The members of an object that is closed. -/
def Members.ofList : List (String × Doc) → Members
  | [] => .closed
  | (k, d) :: ms => .member (writtenText k) d (ofList ms)

/-- The documents of members that are written. -/
def docsOf (ms : List (String × Value)) : List (String × Doc) := ms.map fun m => (m.1, m.2.doc)

theorem itemDocs_eq_ofList (vs : List Value) : itemDocs vs = .ofList (vs.map Value.doc) := by
  induction vs with
  | nil => rfl
  | cons v vs ih => rw [itemDocs, ih]; rfl

theorem memberDocs_eq_ofList (ms : List (String × Value)) :
    memberDocs ms = .ofList (docsOf ms) := by
  induction ms with
  | nil => rfl
  | cons m ms ih => rw [memberDocs, ih]; rfl

/-! ## layouts -/

theorem Layout.blanks_lineBreak (layout : Layout) (depth : Nat) :
    Blanks (layout.lineBreak depth) := by
  cases layout with
  | compact => exact blanks_nil
  | pretty =>
    intro c hc
    rcases List.mem_cons.mp hc with rfl | hc
    · rfl
    · rw [List.eq_of_mem_replicate hc]
      rfl

/-- A colon is followed by blanks, if by anything. -/
theorem Layout.colon_eq (layout : Layout) : ∃ w, Blanks w ∧ layout.colon = ':' :: w := by
  cases layout with
  | compact => exact ⟨[], blanks_nil, rfl⟩
  | pretty => exact ⟨[' '], by simp [Blanks, isBlank], rfl⟩

/-! ## texts of values -/

theorem writtenText_writtenAs (s : String) :
    (writtenText s).WrittenAs (s.toList.flatMap escaped ++ ['"']) :=
  .spelled (spells_escaped s.toList)

mutual

/-- **Values**: what is written for a value is a text of its document, in either layout and at any
depth. -/
theorem writtenAs_write (layout : Layout) (depth : Nat) :
    ∀ v : Value, v.doc.WrittenAs (v.write layout depth)
  | .null => .null
  | .bool true => .true
  | .bool false => .false
  | .number n => .natural (isUnsigned_toDigits n) rfl
  | .text s => .text (writtenText_writtenAs s)
  | .array [] => .emptyArray blanks_nil
  | .array (v :: vs) => by
    have hfirst := (writtenAs_write layout (depth + 1) v).prepend (layout.blanks_lineBreak (depth + 1))
    have hitems := writtenAs_writeItems layout (depth + 1) (layout.blanks_lineBreak depth) vs hfirst
    simpa [Value.write, Value.doc, itemDocs] using Doc.WrittenAs.array hitems
  | .object [] => .emptyObject blanks_nil
  | .object ((k, v) :: ms) => by
    have hfirst := writtenAs_write layout (depth + 1) v
    have hmembers := writtenAs_writeMembers layout (depth + 1) (layout.blanks_lineBreak depth) ms
      (layout.blanks_lineBreak (depth + 1)) k hfirst
    simpa [Value.write, Value.doc, memberDocs] using Doc.WrittenAs.object hmembers

/-- An item and the items after it, blanks at the end. -/
theorem writtenAs_writeItems (layout : Layout) (depth : Nat) {w : List Char} (hw : Blanks w) :
    ∀ (vs : List Value) {d : Doc} {t : List Char}, d.WrittenAs t →
      (Items.item d (itemDocs vs)).WrittenAs (t ++ (writeItems layout depth vs ++ w))
  | [], _, _, h => .last (h.append hw)
  | v :: vs, _, _, h => by
    have hnext := (writtenAs_write layout depth v).prepend (layout.blanks_lineBreak depth)
    simpa [writeItems, itemDocs] using
      Items.WrittenAs.item h (writtenAs_writeItems layout depth hw vs hnext)

/-- A member and the members after it, blanks around it. -/
theorem writtenAs_writeMembers (layout : Layout) (depth : Nat) {w : List Char} (hw : Blanks w) :
    ∀ (ms : List (String × Value)) {w' : List Char}, Blanks w' → ∀ (k : String) {d : Doc}
      {t : List Char}, d.WrittenAs t →
      (Members.member (writtenText k) d (memberDocs ms)).WrittenAs
        (w' ++ (writeString k ++ (layout.colon ++ (t ++ (writeMembers layout depth ms ++ w)))))
  | [], _, hw', k, _, _, h => by
    obtain ⟨w₂, hw₂, hcolon⟩ := layout.colon_eq
    simpa [writeString, writeMembers, memberDocs, hcolon] using
      Members.WrittenAs.last hw' (writtenText_writtenAs k) blanks_nil
        ((h.append hw).prepend hw₂)
  | (k', v) :: ms, _, hw', k, _, _, h => by
    obtain ⟨w₂, hw₂, hcolon⟩ := layout.colon_eq
    have hnext := writtenAs_writeMembers layout depth hw ms (layout.blanks_lineBreak depth) k'
      (writtenAs_write layout depth v)
    simpa [writeString, writeMembers, memberDocs, hcolon] using
      Members.WrittenAs.member hw' (writtenText_writtenAs k) blanks_nil (h.prepend hw₂) hnext

end

/-- What is written holds no fault. -/
theorem scan_doc (v : Value) : v.doc.scan = none := (writtenAs_write .compact 0 v).scan

end FixBatch.Json
