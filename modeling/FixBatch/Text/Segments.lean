/-!
# FixBatch.Text.Segments

Lists cut at separators.  `segments sep l` lists the stretches between the elements of `l` for which
`sep` holds, the empty ones included, so a list with `n` separators has `n + 1` segments:

* `segments_append_sep` — a separator in the middle cuts a list into two independent parts;
* `not_sep_of_mem_segments` — no segment holds a separator.
-/

namespace FixBatch.Text

/-- The stretches of a list between its separators; a list without any is its own only segment. -/
def segments (sep : α → Bool) : List α → List (List α)
  | [] => [[]]
  | a :: l => if sep a then [] :: segments sep l else (segments sep l).modifyHead (a :: ·)

@[simp] theorem segments_nil (sep : α → Bool) : segments sep [] = [[]] := rfl

theorem segments_cons_sep {sep : α → Bool} (h : sep a = true) (l : List α) :
    segments sep (a :: l) = [] :: segments sep l := by
  simp [segments, h]

theorem segments_cons_not_sep {sep : α → Bool} (h : sep a = false) (l : List α) :
    segments sep (a :: l) = (segments sep l).modifyHead (a :: ·) := by
  simp [segments, h]

theorem segments_ne_nil (sep : α → Bool) (l : List α) : segments sep l ≠ [] := by
  induction l with
  | nil => simp
  | cons a l ih =>
    cases h : sep a
    · rw [segments_cons_not_sep h]
      cases hs : segments sep l with
      | nil => exact absurd hs ih
      | cons => simp
    · simp [segments_cons_sep h]

/-- A separator cuts a list into two independent parts. -/
theorem segments_append_sep {sep : α → Bool} (h : sep a = true) (l m : List α) :
    segments sep (l ++ a :: m) = segments sep l ++ segments sep m := by
  induction l with
  | nil => simp [segments_cons_sep h]
  | cons b l ih =>
    cases hb : sep b
    · rw [List.cons_append, segments_cons_not_sep hb, segments_cons_not_sep hb, ih]
      cases hs : segments sep l with
      | nil => exact absurd hs (segments_ne_nil sep l)
      | cons => simp
    · rw [List.cons_append, segments_cons_sep hb, segments_cons_sep hb, ih, List.cons_append]

theorem segments_eq_singleton {sep : α → Bool} {l : List α} (h : ∀ a ∈ l, sep a = false) :
    segments sep l = [l] := by
  induction l with
  | nil => rfl
  | cons a l ih =>
    rw [segments_cons_not_sep (h a List.mem_cons_self),
      ih fun b hb => h b (List.mem_cons_of_mem a hb)]
    rfl

/-- No segment holds a separator. -/
theorem not_sep_of_mem_segments {sep : α → Bool} {l s : List α} (hs : s ∈ segments sep l) :
    ∀ a ∈ s, sep a = false := by
  induction l generalizing s with
  | nil => simp at hs; simp [hs]
  | cons b l ih =>
    cases hb : sep b
    · rw [segments_cons_not_sep hb] at hs
      cases hl : segments sep l with
      | nil => exact absurd hl (segments_ne_nil sep l)
      | cons t ts =>
        rw [hl] at ih hs
        simp only [List.modifyHead_cons, List.mem_cons] at hs
        rcases hs with rfl | hs
        · intro a ha
          rcases List.mem_cons.1 ha with rfl | ha
          · exact hb
          · exact ih List.mem_cons_self a ha
        · exact ih (List.mem_cons_of_mem t hs)
    · rw [segments_cons_sep hb, List.mem_cons] at hs
      rcases hs with rfl | hs
      · simp
      · exact ih hs

/-- The text before the first `c` and the text after it; nothing when there is no `c`. -/
def cutAt (c : Char) : List Char → Option (List Char × List Char)
  | [] => none
  | d :: r => if d = c then some ([], r) else (cutAt c r).map fun (a, b) => (d :: a, b)

/-- Cutting at the first separator loses nothing but that separator. -/
theorem eq_of_cutAt {c : Char} {s a b : List Char} (h : cutAt c s = some (a, b)) :
    s = a ++ c :: b ∧ c ∉ a := by
  induction s generalizing a with
  | nil => simp [cutAt] at h
  | cons d r ih =>
    by_cases hd : d = c
    · simp [cutAt, hd] at h
      obtain ⟨rfl, rfl⟩ := h
      simp [hd]
    · simp only [cutAt, hd, if_false, Option.map_eq_some_iff] at h
      obtain ⟨⟨a', b'⟩, h', he⟩ := h
      obtain ⟨rfl, rfl⟩ := Prod.mk.inj he
      obtain ⟨rfl, hn⟩ := ih h'
      exact ⟨rfl, by simp [hn, Ne.symm hd]⟩

end FixBatch.Text
