import FixBatch.Proofs.Json.Doc

/-!
# FixBatch.Proofs.Json.Grammar

Which texts are JSON, and which document each of them holds, said without the reader:

```
document  =  blanks ( word | number | string | [ items ] | { members } ) blanks
items     =  document , … , document
members   =  blanks string blanks : document , … , blanks string blanks : document
```

A document forgets the blanks of its text, how its strings are spelled and what its numbers look
like.  Any nesting is allowed, numbers may be out of reach, and escapes may be halves of pairs.

* `Doc.WrittenAs`, `Items.WrittenAs`, `Members.WrittenAs` — the grammar;
* `Doc.WrittenAs.reads` — a text of a document is read as that document;
* `Doc.WrittenAs.scan` — and scanned without a fault.
-/

namespace FixBatch.Json

/-! ## the grammar -/

/-- The texts of a string after its opening quote.  What spells nothing has no value. -/
inductive Reading.WrittenAs : Reading (List Char) → List Char → Prop
  | spelled {s t : List Char} (h : Spells s t) : Reading.WrittenAs ⟨.ok s, none⟩ (t ++ ['"'])
  | unpaired {t : List Char} (h : IsStringBody t) (hunpaired : ∀ s, ¬Spells s t) :
      Reading.WrittenAs ⟨.error .malformed, none⟩ (t ++ ['"'])

mutual

/-- The texts of a document. -/
inductive Doc.WrittenAs : Doc → List Char → Prop
  | blanks {d : Doc} {w t w' : List Char} (hw : Blanks w) (h : Doc.WrittenAs d t)
      (hw' : Blanks w') : Doc.WrittenAs d (w ++ (t ++ w'))
  | null : Doc.WrittenAs .null ['n', 'u', 'l', 'l']
  | true : Doc.WrittenAs (.bool .true) ['t', 'r', 'u', 'e']
  | false : Doc.WrittenAs (.bool .false) ['f', 'a', 'l', 's', 'e']
  | natural {n : Numeral} {t : List Char} (h : n.IsUnsigned t) (hn : n.negative = .false) :
      Doc.WrittenAs (.number ⟨n.value, none⟩) t
  | negative {n : Numeral} {t : List Char} (h : n.IsUnsigned t) (hn : n.negative = .true) :
      Doc.WrittenAs (.number ⟨n.value, none⟩) ('-' :: t)
  | text {r : Reading (List Char)} {t : List Char} (h : r.WrittenAs t) :
      Doc.WrittenAs (.text r) ('"' :: t)
  | emptyArray {w : List Char} (hw : Blanks w) : Doc.WrittenAs (.array .closed) ('[' :: (w ++ [']']))
  | array {is : Items} {t : List Char} (h : Items.WrittenAs is t) :
      Doc.WrittenAs (.array is) ('[' :: (t ++ [']']))
  | emptyObject {w : List Char} (hw : Blanks w) :
      Doc.WrittenAs (.object .closed) ('\x7b' :: (w ++ ['\x7d']))
  | object {ms : Members} {t : List Char} (h : Members.WrittenAs ms t) :
      Doc.WrittenAs (.object ms) ('\x7b' :: (t ++ ['\x7d']))

/-- The texts of one item or more. -/
inductive Items.WrittenAs : Items → List Char → Prop
  | last {d : Doc} {t : List Char} (h : Doc.WrittenAs d t) : Items.WrittenAs (.item d .closed) t
  | item {d : Doc} {is : Items} {t ts : List Char} (h : Doc.WrittenAs d t)
      (hs : Items.WrittenAs is ts) : Items.WrittenAs (.item d is) (t ++ ',' :: ts)

/-- The texts of one member or more. -/
inductive Members.WrittenAs : Members → List Char → Prop
  | last {key : Reading (List Char)} {d : Doc} {w k w' t : List Char} (hw : Blanks w)
      (hkey : key.WrittenAs k) (hw' : Blanks w') (h : Doc.WrittenAs d t) :
      Members.WrittenAs (.member key d .closed) (w ++ '"' :: (k ++ (w' ++ ':' :: t)))
  | member {key : Reading (List Char)} {d : Doc} {ms : Members} {w k w' t ts : List Char}
      (hw : Blanks w) (hkey : key.WrittenAs k) (hw' : Blanks w') (h : Doc.WrittenAs d t)
      (hs : Members.WrittenAs ms ts) :
      Members.WrittenAs (.member key d ms) (w ++ '"' :: (k ++ (w' ++ ':' :: (t ++ ',' :: ts))))

end

/-- Blanks may stand after a text of a document. -/
theorem Doc.WrittenAs.append {d : Doc} {t w : List Char} (h : d.WrittenAs t) (hw : Blanks w) :
    d.WrittenAs (t ++ w) := .blanks blanks_nil h hw

/-- Blanks may stand before a text of a document. -/
theorem Doc.WrittenAs.prepend {d : Doc} {w t : List Char} (hw : Blanks w) (h : d.WrittenAs t) :
    d.WrittenAs (w ++ t) := by
  have hpadded := h.blanks hw blanks_nil
  rwa [List.append_nil] at hpadded

/-! ## reading -/

theorem Reading.WrittenAs.readsString {r : Reading (List Char)} {t : List Char}
    (h : r.WrittenAs t) : ReadsString r t := by
  cases h with
  | spelled h => exact h.readsString
  | unpaired h hunpaired => exact h.readsString hunpaired

theorem Reading.WrittenAs.scanFault {r : Reading (List Char)} {t : List Char}
    (h : r.WrittenAs t) : r.scanFault = none := by
  cases h <;> rfl

mutual

/-- **Texts** of a document are read as that document. -/
theorem Doc.WrittenAs.reads : ∀ {d : Doc} {t : List Char}, d.WrittenAs t → ReadsPadded d t
  | _, _, .blanks hw h hw' => by
    obtain ⟨s, w, rfl, hs, hblanks⟩ := h.reads
    exact ⟨_, _, by simp only [List.append_assoc], hs.blanks hw, hblanks.append hw'⟩
  | _, _, .null => reads_null.readsPadded
  | _, _, .true => reads_true.readsPadded
  | _, _, .false => reads_false.readsPadded
  | _, _, .natural h hn => (h.reads hn).readsPadded
  | _, _, .negative h hn => (h.reads_negative hn).readsPadded
  | _, _, .text h => h.readsString.reads.readsPadded
  | _, _, .emptyArray hw => (reads_array_closed hw).readsPadded
  | _, _, .array h => h.reads.reads.readsPadded
  | _, _, .emptyObject hw => (reads_object_closed hw).readsPadded
  | _, _, .object h => h.reads.reads.readsPadded

theorem Items.WrittenAs.reads :
    ∀ {is : Items} {t : List Char}, is.WrittenAs t → ReadsItem is (t ++ [']'])
  | _, _, .last h => by
    obtain ⟨s, w, rfl, hs, hw⟩ := h.reads
    rw [List.append_assoc]
    exact hs.item (readsItems_closed hw)
  | _, _, .item h his => by
    obtain ⟨s, w, rfl, hs, hw⟩ := h.reads
    rw [List.append_assoc, List.append_assoc, List.cons_append]
    exact hs.item (his.reads.further hw)

theorem Members.WrittenAs.reads :
    ∀ {ms : Members} {t : List Char}, ms.WrittenAs t → ReadsMember ms (t ++ ['\x7d'])
  | _, _, .last hw hkey hw' h => by
    obtain ⟨s, w, rfl, hs, hblanks⟩ := h.reads
    simp only [List.append_assoc, List.cons_append]
    exact hs.member hw hkey.readsString hw' (readsMembers_closed hblanks)
  | _, _, .member hw hkey hw' h hms => by
    obtain ⟨s, w, rfl, hs, hblanks⟩ := h.reads
    simp only [List.append_assoc, List.cons_append]
    exact hs.member hw hkey.readsString hw' (hms.reads.further hblanks)

end

/-! ## scanning -/

mutual

/-- Texts of a document hold no fault that scanning would meet. -/
theorem Doc.WrittenAs.scan : ∀ {d : Doc} {t : List Char}, d.WrittenAs t → d.scan = none
  | _, _, .blanks _ h _ => h.scan
  | _, _, .null | _, _, .true | _, _, .false | _, _, .natural _ _ | _, _, .negative _ _ => rfl
  | _, _, .text h => h.scanFault
  | _, _, .emptyArray _ | _, _, .emptyObject _ => rfl
  | _, _, .array h => h.scan
  | _, _, .object h => h.scan

theorem Items.WrittenAs.scan : ∀ {is : Items} {t : List Char}, is.WrittenAs t → is.scan = none
  | _, _, .last h => by rw [Items.scan, h.scan]; rfl
  | _, _, .item h hs => by rw [Items.scan, h.scan, hs.scan]; rfl

theorem Members.WrittenAs.scan :
    ∀ {ms : Members} {t : List Char}, ms.WrittenAs t → ms.scan = none
  | _, _, .last _ hkey _ h => by rw [Members.scan, hkey.scanFault, h.scan]; rfl
  | _, _, .member _ hkey _ h hs => by rw [Members.scan, hkey.scanFault, h.scan, hs.scan]; rfl

end

end FixBatch.Json
