/-!
# FixBatch.Text.Blank

Blank characters and the trimming of texts.  A character is blank when it has the Unicode property
`White_Space`; the zero-width space and the byte order mark do not have it.  A text splits into its
leading blanks, its trimmed middle and its trailing blanks:

* `leading_append_trimStart` and `trimEnd_append_trailing` — nothing is lost on either side;
* `trim_eq_nil_iff` — only an all-blank text trims to nothing.
-/

namespace FixBatch.Text

/-- The characters with the property `White_Space`. -/
def isBlank (c : Char) : Bool :=
  c == ' ' || ('\t' ≤ c && c ≤ '\r') || c == '\u0085' || c == '\u00a0' || c == '\u1680' ||
    ('\u2000' ≤ c && c ≤ '\u200a') || c == '\u2028' || c == '\u2029' || c == '\u202f' ||
    c == '\u205f' || c == '\u3000'

/-- A text of blanks only; the empty text is one. -/
def allBlank (s : List Char) : Bool := s.all isBlank

/-! ## The two ends of a text -/

/-- The blanks a text starts with. -/
def leading (s : List Char) : List Char := s.takeWhile isBlank

/-- A text without the blanks it starts with. -/
def trimStart (s : List Char) : List Char := s.dropWhile isBlank

/-- The blanks a text ends with. -/
def trailing (s : List Char) : List Char := (leading s.reverse).reverse

/-- A text without the blanks it ends with. -/
def trimEnd (s : List Char) : List Char := (trimStart s.reverse).reverse

/-- A text without the blanks around it. -/
def trim (s : List Char) : List Char := trimEnd (trimStart s)

theorem leading_append_trimStart (s : List Char) : leading s ++ trimStart s = s :=
  List.takeWhile_append_dropWhile

theorem trimEnd_append_trailing (s : List Char) : trimEnd s ++ trailing s = s := by
  rw [trimEnd, trailing, ← List.reverse_append, leading_append_trimStart, List.reverse_reverse]

theorem trimStart_eq_nil_iff (s : List Char) : trimStart s = [] ↔ allBlank s = true := by
  induction s with
  | nil => simp [trimStart, allBlank]
  | cons c r ih =>
    simp only [trimStart, allBlank] at ih ⊢
    by_cases h : isBlank c = true
    · simp [h, ih]
    · simp [h]

theorem trimEnd_eq_nil_iff (s : List Char) : trimEnd s = [] ↔ allBlank s = true := by
  rw [trimEnd, List.reverse_eq_nil_iff, trimStart_eq_nil_iff, allBlank, allBlank,
    List.all_reverse]

theorem allBlank_trimStart (s : List Char) : allBlank (trimStart s) = allBlank s := by
  induction s with
  | nil => rfl
  | cons c r ih =>
    simp only [trimStart, allBlank] at ih ⊢
    by_cases h : isBlank c = true <;> simp [h, ih]

/-- Only a text of blanks trims to nothing. -/
theorem trim_eq_nil_iff (s : List Char) : trim s = [] ↔ allBlank s = true := by
  rw [trim, trimEnd_eq_nil_iff, allBlank_trimStart]

/-! ## Strings -/

/-- A string without the blanks around it. -/
def trimmed (s : String) : String := String.ofList (trim s.toList)

end FixBatch.Text
