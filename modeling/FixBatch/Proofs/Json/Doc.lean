import FixBatch.Proofs.Json.Token

/-!
# FixBatch.Proofs.Json.Doc

Reading documents piece by piece.  `Reads d t` says that `t`, at the front of any text, is read as
the document `d`; in the same way `ReadsItems` and `ReadsMembers` speak of what an array and an
object hold after their first element, the closing bracket included, and `ReadsItem` and
`ReadsMember` of an element with everything after it.  Blanks may stand between all tokens:

* `Reads.blanks`, `Reads.array`, `Reads.object` and their kin — larger readings from smaller ones;
* `ReadsPadded.read` — a text that reads as a document, but for the blanks it ends with, is read
  whole.
-/

namespace FixBatch.Json

/-! ## blanks -/

/-- A text of blanks. -/
def Blanks (w : List Char) : Prop := ∀ c ∈ w, isBlank c = true

theorem blanks_nil : Blanks [] := by simp [Blanks]

theorem skipBlanks_append {w : List Char} (hw : Blanks w) (s : List Char) :
    skipBlanks (w ++ s) = skipBlanks s := List.dropWhile_append_of_pos hw

theorem skipBlanks_cons {c : Char} (hc : isBlank c = false) (s : List Char) :
    skipBlanks (c :: s) = c :: s := List.dropWhile_cons_of_neg (by simp [hc])

theorem skipBlanks_append_cons {w : List Char} {c : Char} (hw : Blanks w) (hc : isBlank c = false)
    (s : List Char) : skipBlanks (w ++ c :: s) = c :: s := by
  rw [skipBlanks_append hw, skipBlanks_cons hc]

/-- What is left once blanks are skipped starts with none. -/
theorem isBlank_of_skipBlanks_eq_cons {s r : List Char} {c : Char} (h : skipBlanks s = c :: r) :
    isBlank c = false := by
  have hhead := List.head?_dropWhile_not isBlank s
  rw [skipBlanks] at h
  rw [h] at hhead
  exact hhead

theorem skipBlanks_skipBlanks (s : List Char) : skipBlanks (skipBlanks s) = skipBlanks s := by
  cases h : skipBlanks s with
  | nil => rfl
  | cons c r => exact skipBlanks_cons (isBlank_of_skipBlanks_eq_cons h) r

variable (fuel : Nat) (s : List Char)

theorem readDoc_skipBlanks : readDoc fuel (skipBlanks s) = readDoc fuel s := by
  cases fuel with
  | zero => rfl
  | succ fuel => simp only [readDoc, skipBlanks_skipBlanks]

theorem readItem_skipBlanks : readItem fuel (skipBlanks s) = readItem fuel s := by
  cases fuel with
  | zero => rfl
  | succ fuel => simp only [readItem, readDoc_skipBlanks]

theorem readMember_skipBlanks : readMember fuel (skipBlanks s) = readMember fuel s := by
  cases fuel with
  | zero => rfl
  | succ fuel => simp only [readMember, skipBlanks_skipBlanks]

/-! ## readings -/

/-- A text that is read as a document, wherever it stands and whatever ends it. -/
def Reads (d : Doc) (t : List Char) : Prop :=
  ∀ fuel rest, 3 * t.length ≤ fuel → EndsNumber rest → readDoc fuel (t ++ rest) = (d, some rest)

/-- A text that is read as the first item of an array and all that come after it. -/
def ReadsItem (is : Items) (t : List Char) : Prop :=
  ∀ fuel rest, 3 * t.length + 1 ≤ fuel → readItem fuel (t ++ rest) = (is, some rest)

/-- A text that is read as the items of an array that are left after one of them. -/
def ReadsItems (is : Items) (t : List Char) : Prop :=
  ∀ fuel rest, 3 * t.length + 1 ≤ fuel → readItems fuel false (t ++ rest) = (is, some rest)

/-- A text that is read as the first member of an object and all that come after it. -/
def ReadsMember (ms : Members) (t : List Char) : Prop :=
  ∀ fuel rest, 3 * t.length + 1 ≤ fuel → readMember fuel (t ++ rest) = (ms, some rest)

/-- A text that is read as the members of an object that are left after one of them. -/
def ReadsMembers (ms : Members) (t : List Char) : Prop :=
  ∀ fuel rest, 3 * t.length + 1 ≤ fuel → readMembers fuel false (t ++ rest) = (ms, some rest)

/-- A text that is read, after its opening quote, as a string with the quote that closes it. -/
def ReadsString (r : Reading (List Char)) (t : List Char) : Prop :=
  ∀ rest, stringToken (t ++ rest) = (r, some rest)

/-! ## words, strings and numbers -/

theorem Spells.readsString {s t : List Char} (h : Spells s t) :
    ReadsString ⟨.ok s, none⟩ (t ++ ['"']) := by
  intro rest
  rw [List.append_assoc, List.singleton_append, stringToken_of_spells h]

theorem IsStringBody.readsString {t : List Char} (h : IsStringBody t)
    (hunpaired : ∀ s, ¬Spells s t) : ReadsString ⟨.error .malformed, none⟩ (t ++ ['"']) := by
  intro rest
  rw [List.append_assoc, List.singleton_append, stringToken_of_unpaired h hunpaired]

theorem reads_null : Reads .null ['n', 'u', 'l', 'l'] := by
  rintro (_ | fuel) rest hfuel _
  · cases hfuel
  · rfl

theorem reads_true : Reads (.bool true) ['t', 'r', 'u', 'e'] := by
  rintro (_ | fuel) rest hfuel _
  · cases hfuel
  · rfl

theorem reads_false : Reads (.bool false) ['f', 'a', 'l', 's', 'e'] := by
  rintro (_ | fuel) rest hfuel _
  · cases hfuel
  · rfl

theorem ReadsString.reads {r : Reading (List Char)} {t : List Char} (h : ReadsString r t) :
    Reads (.text r) ('"' :: t) := by
  rintro (_ | fuel) rest hfuel _
  · cases hfuel
  · rw [List.cons_append, readDoc, skipBlanks_cons rfl]
    simp only [h rest]
    rfl

/-- A digit is no blank, and nothing else that a document starts with. -/
theorem readDoc_digit {c : Char} (hc : Text.isDigit c = true) (fuel : Nat) (r : List Char) :
    readDoc (fuel + 1) (c :: r) = (readNumber false (c :: r)).map .number id := by
  have hblank : isBlank c = false := by
    rw [Bool.eq_false_iff]
    intro h
    simp only [isBlank, Bool.or_eq_true, beq_iff_eq] at h
    rcases h with ((rfl | rfl) | rfl) | rfl <;> exact absurd hc (by decide)
  rw [readDoc, skipBlanks_cons hblank]
  split
  case h_1 hcons => cases hcons
  case h_9 hcons =>
    cases hcons
    rw [if_pos hc]
  all_goals
    rename_i hcons
    cases hcons
    exact absurd hc (by decide)

namespace Numeral.IsUnsigned

variable {n : Numeral} {t : List Char}

/-- A number starts with a digit, unless it starts with its sign. -/
theorem exists_cons (h : n.IsUnsigned t) : ∃ c r, t = c :: r ∧ Text.isDigit c = true := by
  obtain ⟨hwhole, -, -, -⟩ := h
  obtain ⟨c, r, hcons, hc⟩ := hwhole.exists_cons
  rw [hcons]
  exact ⟨c, _, rfl, hc⟩

theorem reads (h : n.IsUnsigned t) (hn : n.negative = false) :
    Reads (.number ⟨n.value, none⟩) t := by
  obtain ⟨c, r, rfl, hc⟩ := h.exists_cons
  rintro (_ | fuel) rest hfuel hrest
  · cases hfuel
  · have hread := readNumber_of_isUnsigned h hrest
    rw [hn] at hread
    rw [List.cons_append] at hread ⊢
    rw [readDoc_digit hc, hread]
    rfl

theorem reads_negative (h : n.IsUnsigned t) (hn : n.negative = true) :
    Reads (.number ⟨n.value, none⟩) ('-' :: t) := by
  rintro (_ | fuel) rest hfuel hrest
  · cases hfuel
  · have hread := readNumber_of_isUnsigned h hrest
    rw [hn] at hread
    rw [List.cons_append, readDoc, skipBlanks_cons rfl]
    simp only [hread]
    rfl

end Numeral.IsUnsigned

/-! ## what starts and what ends a reading -/

variable {d : Doc} {is : Items} {ms : Members} {t ts w : List Char}

/-- Blanks may stand before a document. -/
theorem Reads.blanks (h : Reads d t) (hw : Blanks w) : Reads d (w ++ t) := by
  intro fuel rest hfuel hrest
  rw [List.length_append] at hfuel
  rw [List.append_assoc, ← readDoc_skipBlanks, skipBlanks_append hw, readDoc_skipBlanks]
  exact h fuel rest (by omega) hrest

/-- A document does not start with a bracket that closes. -/
theorem ne_close_of_readDoc {fuel : Nat} {s rest : List Char}
    (h : readDoc fuel s = (d, some rest)) : ∃ c r, skipBlanks s = c :: r ∧ c ≠ ']' := by
  cases fuel with
  | zero => cases h
  | succ fuel =>
    rw [readDoc] at h
    cases hskip : skipBlanks s with
    | nil => rw [hskip] at h; cases h
    | cons c r =>
      refine ⟨c, r, rfl, ?_⟩
      rintro rfl
      rw [hskip] at h
      cases h

theorem Reads.length_pos (h : Reads d t) : 0 < t.length := by
  rw [List.length_pos_iff]
  rintro rfl
  obtain ⟨c, r, hskip, -⟩ := ne_close_of_readDoc (h 3 [] (by decide) nofun)
  cases hskip

/-- Neither blanks, commas nor brackets belong to a number. -/
theorem endsNumber_of_skipBlanks {s : List Char}
    (h : ∀ c r, skipBlanks s = c :: r → c = ',' ∨ c = ']' ∨ c = '\x7d') : EndsNumber s := by
  intro c hc
  obtain ⟨r, rfl⟩ : ∃ r, s = c :: r := by
    cases s with
    | nil => cases hc
    | cons _ r => cases hc; exact ⟨r, rfl⟩
  cases hblank : isBlank c with
  | true =>
    simp only [isBlank, Bool.or_eq_true, beq_iff_eq] at hblank
    rcases hblank with ((rfl | rfl) | rfl) | rfl <;> decide
  | false => rcases h c r (skipBlanks_cons hblank r) with rfl | rfl | rfl <;> decide

/-- What is left of an array ends a number. -/
theorem ReadsItems.endsNumber (h : ReadsItems is t) (rest : List Char) :
    EndsNumber (t ++ rest) := by
  have hread := h (3 * t.length + 1) rest (Nat.le_refl _)
  refine endsNumber_of_skipBlanks fun c r hskip => ?_
  rw [readItems, hskip] at hread
  split at hread
  case h_1 hnil => cases hnil
  case h_2 hcons => cases hcons; exact .inr (.inl rfl)
  case h_3 hcons =>
    cases hcons
    rw [if_neg (by decide)] at hread
    split at hread
    · next hcomma => exact .inl (eq_of_beq hcomma)
    · cases hread

/-- What is left of an object ends a number. -/
theorem ReadsMembers.endsNumber (h : ReadsMembers ms t) (rest : List Char) :
    EndsNumber (t ++ rest) := by
  have hread := h (3 * t.length + 1) rest (Nat.le_refl _)
  refine endsNumber_of_skipBlanks fun c r hskip => ?_
  rw [readMembers, hskip] at hread
  split at hread
  case h_1 hnil => cases hnil
  case h_2 hcons => cases hcons; exact .inr (.inr rfl)
  case h_3 hcons =>
    cases hcons
    rw [if_neg (by decide)] at hread
    split at hread
    · next hcomma => exact .inl (eq_of_beq hcomma)
    · cases hread

/-! ## arrays -/

theorem reads_array_closed (hw : Blanks w) : Reads (.array .closed) ('[' :: (w ++ [']'])) := by
  rintro (_ | _ | fuel) rest hfuel _
  · cases hfuel
  · simp at hfuel; omega
  · have hskip : skipBlanks (w ++ ([']'] ++ rest)) = ']' :: rest :=
      skipBlanks_append_cons hw rfl rest
    rw [List.cons_append, List.append_assoc, readDoc, skipBlanks_cons rfl]
    simp only [readItems, hskip]
    rfl

/-- An array is its first item and all that come after it. -/
theorem ReadsItem.reads (h : ReadsItem is t) : Reads (.array is) ('[' :: t) := by
  rintro (_ | _ | fuel) rest hfuel _
  · cases hfuel
  · simp at hfuel; omega
  rw [List.length_cons] at hfuel
  have hread := h fuel rest (by omega)
  rw [List.cons_append, readDoc, skipBlanks_cons rfl]
  -- the first item does not start with the closing bracket
  have hfirst : readItems (fuel + 1) true (t ++ rest) = (is, some rest) := by
    obtain ⟨c, r, hskip, hne⟩ : ∃ c r, skipBlanks (t ++ rest) = c :: r ∧ c ≠ ']' := by
      cases fuel with
      | zero => cases hread
      | succ fuel =>
        rw [readItem] at hread
        split at hread
        · cases hread
        · next hdoc => exact ne_close_of_readDoc hdoc
    rw [readItems, hskip]
    split
    case h_1 hnil => cases hnil
    case h_2 hcons => cases hcons; exact absurd rfl hne
    case h_3 hcons =>
      cases hcons
      rw [if_pos rfl, ← hskip, readItem_skipBlanks]
      exact hread
  simp only [hfirst]
  rfl

/-- An item and the items after it. -/
theorem Reads.item (h : Reads d t) (hs : ReadsItems is ts) : ReadsItem (.item d is) (t ++ ts) := by
  have hpos := h.length_pos
  rintro (_ | fuel) rest hfuel
  · cases hfuel
  rw [List.length_append] at hfuel
  rw [readItem, List.append_assoc, h fuel (ts ++ rest) (by omega) (hs.endsNumber rest)]
  simp only [hs fuel rest (by omega)]
  rfl

theorem readsItems_closed (hw : Blanks w) : ReadsItems .closed (w ++ [']']) := by
  rintro (_ | fuel) rest hfuel
  · cases hfuel
  · rw [List.append_assoc, List.singleton_append, readItems, skipBlanks_append_cons hw rfl]
    rfl

/-- Before every further item there is a comma. -/
theorem ReadsItem.further (h : ReadsItem is t) (hw : Blanks w) :
    ReadsItems is (w ++ ',' :: t) := by
  rintro (_ | fuel) rest hfuel
  · cases hfuel
  rw [List.length_append, List.length_cons] at hfuel
  rw [List.append_assoc, List.cons_append, readItems, skipBlanks_append_cons hw rfl]
  exact h fuel rest (by omega)

/-! ## objects -/

theorem reads_object_closed (hw : Blanks w) :
    Reads (.object .closed) ('\x7b' :: (w ++ ['\x7d'])) := by
  rintro (_ | _ | fuel) rest hfuel _
  · cases hfuel
  · simp at hfuel; omega
  · have hskip : skipBlanks (w ++ (['\x7d'] ++ rest)) = '\x7d' :: rest :=
      skipBlanks_append_cons hw rfl rest
    rw [List.cons_append, List.append_assoc, readDoc, skipBlanks_cons rfl]
    simp only [readMembers, hskip]
    rfl

/-- An object is its first member and all that come after it. -/
theorem ReadsMember.reads (h : ReadsMember ms t) : Reads (.object ms) ('\x7b' :: t) := by
  rintro (_ | _ | fuel) rest hfuel _
  · cases hfuel
  · simp at hfuel; omega
  rw [List.length_cons] at hfuel
  have hread := h fuel rest (by omega)
  rw [List.cons_append, readDoc, skipBlanks_cons rfl]
  -- the first member starts with the quote of its key
  have hfirst : readMembers (fuel + 1) true (t ++ rest) = (ms, some rest) := by
    obtain ⟨r, hskip⟩ : ∃ r, skipBlanks (t ++ rest) = '"' :: r := by
      cases fuel with
      | zero => cases hread
      | succ fuel =>
        rw [readMember] at hread
        split at hread
        · next r hskip => exact ⟨r, hskip⟩
        · cases hread
    rw [← readMember_skipBlanks, hskip] at hread
    rw [readMembers, hskip]
    exact hread
  simp only [hfirst]
  rfl

/-- A member and the members after it. -/
theorem Reads.member {key : Reading (List Char)} {k w' : List Char} (hw : Blanks w)
    (hkey : ReadsString key k) (hw' : Blanks w') (h : Reads d t) (hs : ReadsMembers ms ts) :
    ReadsMember (.member key d ms) (w ++ '"' :: (k ++ (w' ++ ':' :: (t ++ ts)))) := by
  have hpos := h.length_pos
  rintro (_ | fuel) rest hfuel
  · cases hfuel
  simp only [List.length_append, List.length_cons] at hfuel
  have hcolon := skipBlanks_append_cons hw' (rfl : isBlank ':' = false) (t ++ (ts ++ rest))
  simp only [List.append_assoc, List.cons_append]
  rw [readMember, skipBlanks_append_cons hw rfl]
  simp only [hkey (w' ++ ':' :: (t ++ (ts ++ rest))), hcolon,
    h fuel (ts ++ rest) (by omega) (hs.endsNumber rest), hs fuel rest (by omega)]
  rfl

theorem readsMembers_closed (hw : Blanks w) : ReadsMembers .closed (w ++ ['\x7d']) := by
  rintro (_ | fuel) rest hfuel
  · cases hfuel
  · rw [List.append_assoc, List.singleton_append, readMembers, skipBlanks_append_cons hw rfl]
    rfl

/-- Before every further member there is a comma. -/
theorem ReadsMember.further (h : ReadsMember ms t) (hw : Blanks w) :
    ReadsMembers ms (w ++ ',' :: t) := by
  rintro (_ | fuel) rest hfuel
  · cases hfuel
  rw [List.length_append, List.length_cons] at hfuel
  rw [List.append_assoc, List.cons_append, readMembers, skipBlanks_append_cons hw rfl]
  exact h fuel rest (by omega)

/-! ## whole texts -/

theorem Blanks.append {w w' : List Char} (hw : Blanks w) (hw' : Blanks w') : Blanks (w ++ w') := by
  rw [Blanks, List.forall_mem_append]
  exact ⟨hw, hw'⟩

theorem Blanks.skipBlanks {w : List Char} (hw : Blanks w) : skipBlanks w = [] := by
  have hskip := skipBlanks_append hw []
  rwa [List.append_nil] at hskip

/-- A text that is read as a document up to the blanks it ends with. -/
def ReadsPadded (d : Doc) (t : List Char) : Prop :=
  ∃ s w, t = s ++ w ∧ Reads d s ∧ Blanks w

theorem Reads.readsPadded (h : Reads d t) : ReadsPadded d t :=
  ⟨t, [], (List.append_nil t).symm, h, blanks_nil⟩

/-- **Documents**: a text that reads as a document is read to the blanks it ends with. -/
theorem ReadsPadded.read (h : ReadsPadded d t) : ∃ w, Blanks w ∧ Doc.read t = (d, some w) := by
  obtain ⟨s, w, rfl, hs, hw⟩ := h
  have hend : EndsNumber w := endsNumber_of_skipBlanks fun c r hcons => by
    rw [hw.skipBlanks] at hcons
    cases hcons
  refine ⟨w, hw, hs _ w ?_ hend⟩
  rw [List.length_append]
  omega

end FixBatch.Json
