import FixBatch.Proofs.Text.Blank
import FixBatch.Proofs.Text.Segments
import FixBatch.Text.Word

/-!
# FixBatch.Proofs.Text.Word

The words of a text, said without cutting it: they are its maximal runs of word characters
(`mem_words_iff`), and such a run stands between the words before it and those after it
(`words_around`).  No blank is a word character, so a word is its own trimmed text (`IsWord.trim`).
-/

namespace FixBatch.Text

/-- A run of word characters of a text that goes on neither to the left nor to the right. -/
structure IsWord (w s : List Char) : Prop where
  ne_nil : w ≠ []
  chars : ∀ c ∈ w, isWordChar c = true
  maximal : ∃ before after, s = before ++ w ++ after ∧
    (∀ c ∈ before.getLast?, isWordChar c = false) ∧ ∀ c ∈ after.head?, isWordChar c = false

/-- **Words**: they are the maximal runs of word characters. -/
theorem mem_words_iff {w s : List Char} : w ∈ words s ↔ IsWord w s := by
  rw [words, List.mem_filter, mem_segments_iff]
  simp only [IsStretch, Bool.not_eq_true', Bool.not_eq_false', List.isEmpty_eq_false_iff]
  constructor
  · rintro ⟨⟨hchars, hmax⟩, hne⟩
    exact ⟨hne, hchars, hmax⟩
  · rintro ⟨hne, hchars, hmax⟩
    exact ⟨⟨hchars, hmax⟩, hne⟩

/-! ## words one after the other -/

/-- A character that is no word character parts the words before it from those after it. -/
theorem words_append_cons {c : Char} (h : isWordChar c = false) (s t : List Char) :
    words (s ++ c :: t) = words s ++ words t := by
  rw [words, segments_append_sep (by simp [h]), List.filter_append]
  rfl

/-- A run of word characters is one word. -/
theorem words_eq_singleton {w : List Char} (hne : w ≠ []) (h : ∀ c ∈ w, isWordChar c = true) :
    words w = [w] := by
  rw [words, segments_eq_singleton fun c hc => by simp [h c hc]]
  simpa using hne

theorem words_append_of_head {s t : List Char} (h : ∀ c ∈ t.head?, isWordChar c = false) :
    words (s ++ t) = words s ++ words t := by
  cases t with
  | nil => simp [words]
  | cons c t =>
    have ht : words (c :: t) = words t := words_append_cons (h c rfl) [] t
    rw [words_append_cons (h c rfl), ht]

theorem words_append_of_getLast {s t : List Char} (h : ∀ c ∈ s.getLast?, isWordChar c = false) :
    words (s ++ t) = words s ++ words t := by
  rcases List.eq_nil_or_concat s with rfl | ⟨s, c, rfl⟩
  · simp [words]
  · have hc : isWordChar c = false := h c (by simp)
    rw [List.concat_eq_append, words_append_cons hc s [], List.append_assoc, List.singleton_append,
      words_append_cons hc]
    simp [words]

/-- **Around a word**: before a maximal run of word characters stand the words of what is before it,
and after it those of what is after it. -/
theorem words_around {before run after : List Char} (hne : run ≠ [])
    (hrun : ∀ c ∈ run, isWordChar c = true)
    (hbefore : ∀ c ∈ before.getLast?, isWordChar c = false)
    (hafter : ∀ c ∈ after.head?, isWordChar c = false) :
    words (before ++ run ++ after) = words before ++ run :: words after := by
  rw [words_append_of_head hafter, words_append_of_getLast hbefore, words_eq_singleton hne hrun,
    List.append_assoc, List.singleton_append]

/-! ## words and blanks -/

/-- The code points of the blanks. -/
def blankPoints : List Nat :=
  List.range' 0x9 5 ++ [0x20, 0x85, 0xA0, 0x1680] ++ List.range' 0x2000 11 ++
    [0x2028, 0x2029, 0x202F, 0x205F, 0x3000]

theorem toNat_mem_blankPoints {c : Char} (h : isBlank c = true) : c.toNat ∈ blankPoints := by
  have heq : ∀ d : Char, c = d ↔ c.toNat = d.toNat := fun _ => Char.toNat_inj.symm
  have hle : ∀ d e : Char, d ≤ e ↔ d.toNat ≤ e.toNat := fun _ _ => Iff.rfl
  simp only [isBlank, Bool.or_eq_true, Bool.and_eq_true, decide_eq_true_eq, beq_iff_eq, heq, hle,
    Char.reduceToNat] at h
  simp only [blankPoints, List.mem_append, List.mem_range'_1, List.mem_cons, List.not_mem_nil,
    or_false]
  omega

/-- No blank is a word character. -/
theorem isWordChar_of_isBlank {c : Char} (h : isBlank c = true) : isWordChar c = false := by
  have hpoints : ∀ n ∈ blankPoints,
      (alphanumericRanges.contains n || n == 0x5F || n == 0x24) = false := by decide +kernel
  have heq : ∀ d : Char, (c == d) = (c.toNat == d.toNat) := fun d => by
    rw [Bool.eq_iff_iff, beq_iff_eq, beq_iff_eq, Char.toNat_inj]
  rw [isWordChar, isAlphanumeric, heq, heq]
  exact hpoints c.toNat (toNat_mem_blankPoints h)

/-- A word has no blank at either end. -/
theorem IsWord.trim {w s : List Char} (h : IsWord w s) : trim w = w := by
  have hblank : ∀ c ∈ w, isBlank c = false := fun c hc => by
    rw [Bool.eq_false_iff]
    intro hc'
    have hword := h.chars c hc
    rw [isWordChar_of_isBlank hc'] at hword
    contradiction
  have hsolid : Solid w :=
    ⟨h.ne_nil, fun c hc => hblank c (List.mem_of_head? hc),
      fun c hc => hblank c (List.mem_of_getLast? hc)⟩
  exact hsolid.trim

end FixBatch.Text
