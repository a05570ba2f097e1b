/-!
# FixBatch.Text.Lines

Lines of a text.  A line ends with a line feed and nowhere else, keeps that line feed, and only the
last one may lack it; so `flatten_lines` puts a text together again.  Where a line is shown by
itself, it loses its line feed, and a carriage return before that.
-/

namespace FixBatch.Text

/-- The lines of a text, each with its line feed. -/
def lines : List Char → List (List Char)
  | [] => []
  | c :: r =>
    if c = '\n' then [c] :: lines r
    else match lines r with
      | [] => [[c]]
      | l :: ls => (c :: l) :: ls

/-- The lines of a text, put together, are the text. -/
theorem flatten_lines (s : List Char) : (lines s).flatten = s := by
  induction s with
  | nil => rfl
  | cons c r ih =>
    simp only [lines]
    split
    · simp [ih]
    · split
      next h => simp [h] at ih; simp [← ih]
      next h => rw [h] at ih; simp [← ih]

/-! ## Lines by themselves -/

/-- A line without its line feed and a carriage return before that. -/
def bareLine (l : List Char) : List Char :=
  match l.reverse with
  | '\n' :: '\r' :: r => r.reverse
  | '\n' :: r => r.reverse
  | _ => l

/-- The lines of a text, each by itself. -/
def bareLines (s : String) : List String := (lines s.toList).map fun l => String.ofList (bareLine l)

/-- The first line of a text, by itself; an empty text has an empty one. -/
def firstLine (s : String) : String := (bareLines s).headD ""

end FixBatch.Text
