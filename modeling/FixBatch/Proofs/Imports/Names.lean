import FixBatch.Proofs.Imports.File

/-!
# FixBatch.Proofs.Imports.Names

The names that a file uses.  A line uses an identifier that stands in it as a whole, with no further
character of identifiers right before or right after it.  So a name inside a longer identifier is
not used there, and a name next to any other characters is:

* `words_between` — the identifiers of a line around one of them;
* `mem_words_iff_between` — which names are identifiers of a line, and which a file uses.
-/

namespace FixBatch.Imports

open Text

/-! ## names between other characters -/

/-- What identifiers are made of: letters and digits of all scripts, the underscore and the dollar
sign. -/
def IsNameChar (c : Char) : Prop := isAlphanumeric c = true ∨ c = '_' ∨ c = '$'

/-- What can be an identifier. -/
structure IsName (name : List Char) : Prop where
  ne_nil : name ≠ []
  chars : ∀ c ∈ name, IsNameChar c

/-- Texts between which an identifier does not go on: the one before it does not end, and the one
after it does not start, with a character of identifiers. -/
structure Between (before after : List Char) : Prop where
  before_ends : ∀ c ∈ before.getLast?, ¬IsNameChar c
  after_starts : ∀ c ∈ after.head?, ¬IsNameChar c

theorem isWordChar_iff {c : Char} : isWordChar c = true ↔ IsNameChar c := by
  simp [isWordChar, IsNameChar, or_assoc]

theorem isWordChar_eq_false_iff {c : Char} : isWordChar c = false ↔ ¬IsNameChar c := by
  rw [← isWordChar_iff, Bool.not_eq_true]

theorem isName_iff {name : List Char} :
    IsName name ↔ name ≠ [] ∧ name.all isWordChar = true := by
  rw [List.all_eq_true]
  simp only [isWordChar_iff]
  exact ⟨fun h => ⟨h.ne_nil, h.chars⟩, fun h => ⟨h.1, h.2⟩⟩

instance : DecidablePred IsName := fun _ => decidable_of_iff _ isName_iff.symm

theorem between_iff {before after : List Char} :
    Between before after ↔ before.getLast?.all (!isWordChar ·) = true ∧
      after.head?.all (!isWordChar ·) = true := by
  simp only [Option.all_eq_true, Bool.not_eq_true', isWordChar_eq_false_iff]
  exact ⟨fun h => ⟨h.before_ends, h.after_starts⟩, fun h => ⟨h.1, h.2⟩⟩

instance (before after : List Char) : Decidable (Between before after) :=
  decidable_of_iff _ between_iff.symm

/-- The words of a line are the names that it holds between other characters. -/
theorem isWord_iff_between {name line : List Char} :
    IsWord name line ↔ IsName name ∧
      ∃ before after, line = before ++ name ++ after ∧ Between before after := by
  constructor
  · rintro ⟨hne, hchars, before, after, hline, hbefore, hafter⟩
    exact ⟨⟨hne, fun c hc => isWordChar_iff.mp (hchars c hc)⟩, before, after, hline,
      fun c hc => isWordChar_eq_false_iff.mp (hbefore c hc),
      fun c hc => isWordChar_eq_false_iff.mp (hafter c hc)⟩
  · rintro ⟨hname, before, after, hline, hbetween⟩
    exact ⟨hname.ne_nil, fun c hc => isWordChar_iff.mpr (hname.chars c hc), before, after, hline,
      fun c hc => isWordChar_eq_false_iff.mpr (hbetween.before_ends c hc),
      fun c hc => isWordChar_eq_false_iff.mpr (hbetween.after_starts c hc)⟩

/-- A name between other characters is one identifier, whatever names are inside it. -/
theorem words_between {before name after : List Char} (hname : IsName name)
    (h : Between before after) :
    words (before ++ name ++ after) = words before ++ name :: words after :=
  words_around hname.ne_nil (fun c hc => isWordChar_iff.mpr (hname.chars c hc))
    (fun c hc => isWordChar_eq_false_iff.mpr (h.before_ends c hc))
    fun c hc => isWordChar_eq_false_iff.mpr (h.after_starts c hc)

/-! ## names in use -/

theorem mem_usedNames_iff {file : List Line} {name : List Char} :
    name ∈ usedNames file ↔ ∃ line ∈ file, line.targets = none ∧ name ∈ words line.text := by
  simp only [usedNames, List.mem_flatMap, mem_identifiers_iff, mem_words_iff]

/-- **Identifiers**: a name is an identifier of a line just in case it stands there between other
characters.  At such a place the line has that one identifier and none of the names inside it; and a
file uses the identifiers of its lines that are no import lines. -/
theorem mem_words_iff_between (name : List Char) :
    (∀ line, name ∈ words line ↔ IsName name ∧
      ∃ before after, line = before ++ name ++ after ∧ Between before after) ∧
    (∀ before after, IsName name → Between before after →
      words (before ++ name ++ after) = words before ++ name :: words after) ∧
    ∀ file, name ∈ usedNames file ↔ ∃ line ∈ file, line.targets = none ∧ IsName name ∧
      ∃ before after, line.text = before ++ name ++ after ∧ Between before after := by
  refine ⟨fun line => mem_words_iff.trans isWord_iff_between,
    fun before after => words_between, fun file => ?_⟩
  simp only [mem_usedNames_iff, mem_words_iff, isWord_iff_between]

/-- A name that stands inside two longer ones and nowhere else in a line is not used there. -/
theorem mem_words_iff_between_longer :
    IsName "ArrayList".toList ∧ Between "new ".toList "<$List>();".toList ∧
      words "new ArrayList<$List>();".toList =
        words "new ".toList ++ "ArrayList".toList :: words "<$List>();".toList ∧
      "List".toList ∉ words "new ArrayList<$List>();".toList := by
  have hname : IsName "ArrayList".toList := by decide +kernel
  have hbetween : Between "new ".toList "<$List>();".toList := by decide +kernel
  have hline : words "new ArrayList<$List>();".toList =
      words "new ".toList ++ "ArrayList".toList :: words "<$List>();".toList :=
    (mem_words_iff_between "ArrayList".toList).2.1 "new ".toList "<$List>();".toList hname hbetween
  exact ⟨hname, hbetween, hline, by rw [hline]; decide +kernel⟩

end FixBatch.Imports
