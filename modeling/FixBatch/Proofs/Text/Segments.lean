import FixBatch.Text.Segments

/-!
# FixBatch.Proofs.Text.Segments

The segments of a list, said without cutting it: they are the stretches that hold no separator and
have one, or an end of the list, on either side.

* `segments_cut` — the first segment is what stands before the first separator;
* `mem_segments_iff` — which lists are segments.
-/

namespace FixBatch.Text

variable {α : Type u} {sep : α → Bool}

/-- A list has a first separator, or it has none. -/
theorem sepFree_or_cut (sep : α → Bool) (l : List α) :
    (∀ a ∈ l, sep a = false) ∨
      ∃ s a r, l = s ++ a :: r ∧ (∀ b ∈ s, sep b = false) ∧ sep a = true := by
  induction l with
  | nil => exact .inl (by simp)
  | cons b l ih =>
    cases hb : sep b
    · rcases ih with hl | ⟨s, a, r, rfl, hs, ha⟩
      · exact .inl (by simpa [hb] using hl)
      · exact .inr ⟨b :: s, a, r, rfl, by simpa [hb] using hs, ha⟩
    · exact .inr ⟨[], b, l, rfl, by simp, hb⟩

/-- The first segment is what stands before the first separator. -/
theorem segments_cut {s : List α} (hs : ∀ b ∈ s, sep b = false) (ha : sep a = true) (r : List α) :
    segments sep (s ++ a :: r) = s :: segments sep r := by
  rw [segments_append_sep ha, segments_eq_singleton hs, List.singleton_append]

/-- A list starts with its first segment. -/
theorem exists_append_of_segments {l s : List α} {ss : List (List α)}
    (h : segments sep l = s :: ss) : ∃ r, l = s ++ r := by
  rcases sepFree_or_cut sep l with hl | ⟨t, a, r, rfl, ht, ha⟩
  · rw [segments_eq_singleton hl] at h
    cases h
    exact ⟨[], (List.append_nil _).symm⟩
  · rw [segments_cut ht ha] at h
    cases h
    exact ⟨a :: r, rfl⟩

/-- A list starts with what has no separator just in case its first segment does. -/
theorem prefix_iff_of_segments {l s first : List α} {rest : List (List α)}
    (h : segments sep l = first :: rest) (hs : ∀ a ∈ s, sep a = false) :
    s <+: l ↔ s <+: first := by
  induction s generalizing l first rest with
  | nil => simp
  | cons a s ih =>
    obtain ⟨ha, hs⟩ := List.forall_mem_cons.mp hs
    cases l with
    | nil => cases h; rfl
    | cons b l =>
      cases hb : sep b with
      | true =>
        rw [segments_cons_sep hb] at h
        cases h
        have hne : a ≠ b := by rintro rfl; simp [ha] at hb
        simp [List.cons_prefix_cons, hne]
      | false =>
        obtain ⟨first', rest', hl⟩ := List.exists_cons_of_ne_nil (segments_ne_nil sep l)
        rw [segments_cons_not_sep hb, hl] at h
        cases h
        rw [List.cons_prefix_cons, List.cons_prefix_cons, ih hl hs]

/-- Segments that are joined by a separator are found again. -/
theorem segments_intercalate {a : α} (ha : sep a = true) {l : List (List α)} (hne : l ≠ [])
    (hl : ∀ s ∈ l, ∀ b ∈ s, sep b = false) : segments sep ([a].intercalate l) = l := by
  induction l with
  | nil => exact absurd rfl hne
  | cons s l ih =>
    obtain ⟨hs, hl⟩ := List.forall_mem_cons.mp hl
    cases l with
    | nil => rw [List.intercalate_singleton, segments_eq_singleton hs]
    | cons t l =>
      rw [List.intercalate_cons_cons, List.append_assoc, List.singleton_append,
        segments_cut hs ha, ih (List.cons_ne_nil t l) hl]

/-- Segments that are joined by their separator make up the list again. -/
theorem intercalate_segments [BEq α] [LawfulBEq α] (a : α) (l : List α) :
    [a].intercalate (segments (· == a) l) = l := by
  induction l with
  | nil => rfl
  | cons b l ih =>
    cases hb : b == a with
    | true =>
      rw [@segments_cons_sep _ _ (· == a) hb,
        List.intercalate_cons_of_ne_nil (segments_ne_nil _ l), ih, eq_of_beq hb]
      rfl
    | false =>
      rw [@segments_cons_not_sep _ _ (· == a) hb]
      cases hs : segments (· == a) l with
      | nil => exact absurd hs (segments_ne_nil _ l)
      | cons s ss =>
        rw [hs] at ih
        cases ss with
        | nil => simpa using ih
        | cons t ss =>
          rw [List.intercalate_cons_cons] at ih
          rw [List.modifyHead_cons, List.intercalate_cons_cons, List.cons_append, List.cons_append,
            ih]

/-- A stretch of a list without separators, from a separator or the start to a separator or the
end. -/
def IsStretch (sep : α → Bool) (s l : List α) : Prop :=
  (∀ a ∈ s, sep a = false) ∧ ∃ before after, l = before ++ s ++ after ∧
    (∀ a ∈ before.getLast?, sep a = true) ∧ ∀ a ∈ after.head?, sep a = true

theorem mem_segments_of_isStretch {s l : List α} (h : IsStretch sep s l) : s ∈ segments sep l := by
  obtain ⟨hs, before, after, rfl, hbefore, hafter⟩ := h
  have hhead : s ∈ segments sep (s ++ after) := by
    cases after with
    | nil => rw [List.append_nil, segments_eq_singleton hs]; exact List.mem_cons_self
    | cons a after => rw [segments_cut hs (hafter a rfl)]; exact List.mem_cons_self
  rw [List.append_assoc]
  rcases List.eq_nil_or_concat before with rfl | ⟨front, a, rfl⟩
  · exact hhead
  · have ha : sep a = true := hbefore a (by simp)
    rw [List.concat_eq_append, List.append_assoc, List.singleton_append, segments_append_sep ha]
    exact List.mem_append_right _ hhead

theorem isStretch_of_mem_segments {s l : List α} (h : s ∈ segments sep l) : IsStretch sep s l := by
  refine ⟨not_sep_of_mem_segments h, ?_⟩
  rcases sepFree_or_cut sep l with hl | ⟨first, a, r, rfl, hfirst, ha⟩
  · rw [segments_eq_singleton hl, List.mem_singleton] at h
    exact ⟨[], [], by simp [h], by simp, by simp⟩
  · rw [segments_cut hfirst ha] at h
    rcases List.mem_cons.mp h with rfl | hs
    · exact ⟨[], a :: r, by simp, by simp, by simp [ha]⟩
    · obtain ⟨-, before, after, rfl, hbefore, hafter⟩ := isStretch_of_mem_segments hs
      refine ⟨first ++ a :: before, after, by simp, ?_, hafter⟩
      intro b hb
      rw [List.getLast?_append, List.getLast?_cons] at hb
      cases hlast : before.getLast? with
      | none => simp [hlast] at hb; exact hb ▸ ha
      | some c => simp [hlast] at hb; exact hb ▸ hbefore c hlast
termination_by l.length

/-- **Segments**: they are the stretches between separators. -/
theorem mem_segments_iff {s l : List α} : s ∈ segments sep l ↔ IsStretch sep s l :=
  ⟨isStretch_of_mem_segments, mem_segments_of_isStretch⟩

/-- A segment holds nothing that the list does not hold. -/
theorem mem_of_mem_segments {s l : List α} (h : s ∈ segments sep l) {a : α} (ha : a ∈ s) :
    a ∈ l := by
  obtain ⟨-, before, after, rfl, -⟩ := isStretch_of_mem_segments h
  exact List.mem_append_left after (List.mem_append_right before ha)

/-! ## cuts at one character -/

theorem cutAt_of_not_mem {c : Char} {s : List Char} (h : c ∉ s) : cutAt c s = none := by
  induction s with
  | nil => rfl
  | cons d s ih =>
    rw [cutAt, if_neg (List.ne_of_not_mem_cons h).symm, ih (List.not_mem_of_not_mem_cons h),
      Option.map_none]

theorem cutAt_append {c : Char} {s : List Char} (h : c ∉ s) (r : List Char) :
    cutAt c (s ++ c :: r) = some (s, r) := by
  induction s with
  | nil => rw [List.nil_append, cutAt, if_pos rfl]
  | cons d s ih =>
    rw [List.cons_append, cutAt, if_neg (List.ne_of_not_mem_cons h).symm,
      ih (List.not_mem_of_not_mem_cons h), Option.map_some]

theorem cutAt_eq_some_iff {c : Char} {s a b : List Char} :
    cutAt c s = some (a, b) ↔ s = a ++ c :: b ∧ c ∉ a :=
  ⟨eq_of_cutAt, fun ⟨hs, ha⟩ => hs ▸ cutAt_append ha b⟩

theorem cutAt_eq_none_iff {c : Char} {s : List Char} : cutAt c s = none ↔ c ∉ s := by
  refine ⟨fun h hmem => ?_, cutAt_of_not_mem⟩
  obtain ⟨a, b, hs, ha⟩ := List.eq_append_cons_of_mem hmem
  rw [hs, cutAt_append ha] at h
  cases h

end FixBatch.Text
