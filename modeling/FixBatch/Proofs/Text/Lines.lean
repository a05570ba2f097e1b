import FixBatch.Text.Lines

/-!
# FixBatch.Proofs.Text.Lines

How a text breaks into lines.  `Broken` says which lists are the lines of a text: every line but the
last ends with its only line feed, and the last may lack it.  A text has exactly one such list:

* `lines_eq_iff` — the lines of a text are the broken list that makes up the text;
* `Broken.replace` — a line may be put in the place of one that ends alike;
* `EndAlike.lines_eq`, `EndAlike.newline_mem_iff` — lines that end alike are single lines, and have a
  line feed both or none of them.
-/

namespace FixBatch.Text

/-- Lists of lines, each of which ends with its only line feed; the last may have none. -/
inductive Broken : List (List Char) → Prop
  | nil : Broken []
  | last (body : List Char) : body ≠ [] → '\n' ∉ body → Broken [body]
  | cons (body : List Char) : '\n' ∉ body → Broken ls → Broken ((body ++ ['\n']) :: ls)

/-! ## reading -/

/-- A line that ends is read by itself. -/
theorem lines_append_newline {body : List Char} (h : '\n' ∉ body) (s : List Char) :
    lines (body ++ ['\n'] ++ s) = (body ++ ['\n']) :: lines s := by
  induction body with
  | nil => simp [lines]
  | cons c body ih =>
    have hc : c ≠ '\n' := fun he => h (he ▸ List.mem_cons_self)
    have hbody : '\n' ∉ body := fun hm => h (List.mem_cons_of_mem c hm)
    rw [List.cons_append, List.cons_append, lines, if_neg hc, ih hbody]

/-- A text without a line feed is one line. -/
theorem lines_of_not_mem {body : List Char} (hne : body ≠ []) (h : '\n' ∉ body) :
    lines body = [body] := by
  induction body with
  | nil => exact absurd rfl hne
  | cons c body ih =>
    have hc : c ≠ '\n' := fun he => h (he ▸ List.mem_cons_self)
    have hbody : '\n' ∉ body := fun hm => h (List.mem_cons_of_mem c hm)
    rw [lines, if_neg hc]
    by_cases hnil : body = []
    · rw [hnil, lines]
    · rw [ih hnil hbody]

theorem broken_lines (s : List Char) : Broken (lines s) := by
  induction s with
  | nil => exact .nil
  | cons c s ih =>
    rw [lines]
    split
    · next hc =>
      rw [hc]
      exact .cons [] (by simp) ih
    · next hc =>
      generalize lines s = ls at ih
      -- the new character joins the first line, which ends as it did
      cases ih with
      | nil => exact .last [c] (by simp) (by simpa using Ne.symm hc)
      | last body hne hbody => exact .last (c :: body) (by simp) (by simp [hbody, Ne.symm hc])
      | cons body hbody hls => exact .cons (c :: body) (by simp [hbody, Ne.symm hc]) hls

theorem lines_flatten {ls : List (List Char)} (h : Broken ls) : lines ls.flatten = ls := by
  induction h with
  | nil => rfl
  | last body hne hbody => rw [List.flatten_singleton, lines_of_not_mem hne hbody]
  | cons body hbody hls ih => rw [List.flatten_cons, lines_append_newline hbody, ih]

/-- **Lines**: a text breaks into lines in exactly one way. -/
theorem lines_eq_iff {s : List Char} {ls : List (List Char)} :
    lines s = ls ↔ Broken ls ∧ ls.flatten = s := by
  constructor
  · rintro rfl
    exact ⟨broken_lines s, flatten_lines s⟩
  · rintro ⟨h, rfl⟩
    exact lines_flatten h

/-! ## lines put in the place of others -/

/-- Two lines that end alike: each with its only line feed, or each without one. -/
def EndAlike (l l' : List Char) : Prop :=
  (l' ≠ [] ∧ '\n' ∉ l ∧ '\n' ∉ l') ∨
    ∃ body body', '\n' ∉ body ∧ '\n' ∉ body' ∧ l = body ++ ['\n'] ∧ l' = body' ++ ['\n']

theorem Broken.tail (h : Broken (l :: ls)) : Broken ls := by
  cases h with
  | last => exact .nil
  | cons _ _ hls => exact hls

/-- Every line ends like itself. -/
theorem Broken.endAlike_head (h : Broken (l :: ls)) : EndAlike l l := by
  cases h with
  | last _ hne hl => exact .inl ⟨hne, hl, hl⟩
  | cons body hbody => exact .inr ⟨body, body, hbody, hbody, rfl, rfl⟩

theorem EndAlike.ne_nil (h : EndAlike l l') : l' ≠ [] := by
  rcases h with ⟨hne, -⟩ | ⟨_, body', -, -, -, rfl⟩
  · exact hne
  · simp

/-- A line may be put in the place of one that ends alike, before lines that are there only if
there were lines. -/
theorem Broken.replace (h : Broken (l :: ls)) (hl : EndAlike l l') (hls : Broken ls')
    (hnil : ls = [] → ls' = []) : Broken (l' :: ls') := by
  rcases hl with ⟨hne, hmem, hmem'⟩ | ⟨body, body', -, hbody', -, rfl⟩
  · cases h with
    | last => rw [hnil rfl]; exact .last l' hne hmem'
    | cons body hbody => exact absurd (by simp) hmem
  · exact .cons body' hbody' hls

theorem endAlike_self {l : List Char} (h : lines l = [l]) : EndAlike l l :=
  (lines_eq_iff.mp h).1.endAlike_head

/-- A line that ends like another one is a single line. -/
theorem EndAlike.lines_eq (h : EndAlike l l') : lines l' = [l'] := by
  rcases h with ⟨hne, -, hfree⟩ | ⟨-, body, -, hbody, -, rfl⟩
  · exact lines_of_not_mem hne hfree
  · simpa [lines] using lines_append_newline hbody []

/-- Lines that end alike have a line feed both or none of them. -/
theorem EndAlike.newline_mem_iff (h : EndAlike l l') : '\n' ∈ l' ↔ '\n' ∈ l := by
  rcases h with ⟨-, hfree, hfree'⟩ | ⟨body, body', -, -, rfl, rfl⟩
  · exact iff_of_false hfree' hfree
  · exact iff_of_true (by simp) (by simp)

/-- A line that ends like another one has a line feed at most at its end. -/
theorem EndAlike.newline_not_mem_dropLast (h : EndAlike l l') : '\n' ∉ l'.dropLast := by
  rcases h with ⟨-, -, hfree⟩ | ⟨-, body, -, hbody, -, rfl⟩
  · exact fun hmem => hfree (List.dropLast_subset l' hmem)
  · rwa [List.dropLast_concat]

end FixBatch.Text
