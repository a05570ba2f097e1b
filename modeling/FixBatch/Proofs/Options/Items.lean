import FixBatch.Proofs.Options

/-!
# FixBatch.Proofs.Options.Items

Lists in one text, said without cutting it.  The pieces of a text hold no comma and make it up again
when commas are put between them; a text has them in one way only.  A list holds the pieces that are
not empty, each as it stands, repeats left out:

* `isCut_iff` — the pieces of a text are what stands between its commas;
* `splitList_append` — a comma between two texts puts one list after the other;
* `splitList_pieces` — what a list holds, and how lists are joined and read again.
-/

namespace FixBatch

/-! ## pieces -/

/-- **Pieces**: a text is cut by its commas in one way only. -/
theorem isCut_iff {raw : String} {pieces : List String} :
    IsCut raw pieces ↔ pieces = (Text.segments (· == ',') raw.toList).map String.ofList := by
  constructor
  · intro h
    rw [h.segments_eq, List.map_map]
    simp [Function.comp_def]
  · rintro rfl
    refine ⟨by simpa using Text.segments_ne_nil _ _, fun s hs hcomma => ?_, ?_⟩
    · obtain ⟨segment, hsegment, rfl⟩ := List.mem_map.mp hs
      rw [String.toList_ofList] at hcomma
      simpa using Text.not_sep_of_mem_segments hsegment ',' hcomma
    · apply String.toList_injective
      rw [toList_intercalate_comma, List.map_map]
      simpa [Function.comp_def] using Text.intercalate_segments ',' raw.toList

/-! ## lists one after the other -/

theorem splitList_eq (raw : String) : splitList raw = .ofList (listItems raw) := rfl

/-- The items on both sides of a comma. -/
theorem listItems_append (a b : String) :
    listItems (a ++ "," ++ b) = listItems a ++ listItems b := by
  have htext : (a ++ "," ++ b).toList = a.toList ++ ',' :: b.toList := by simp
  rw [listItems, htext, Text.segments_append_sep rfl, List.filter_append, List.map_append]
  rfl

/-- A comma between two texts puts one list after the other. -/
theorem splitList_append (a b : String) :
    splitList (a ++ "," ++ b) = (splitList a).extend (splitList b).toList := by
  calc
    splitList (a ++ "," ++ b) = .ofList (listItems a ++ listItems b) := by
      rw [splitList_eq, listItems_append]
    _ = (splitList a).extend (listItems b) := (Distinct.extend_ofList _ _).symm
    _ = (splitList a).extend (splitList b).toList := by
      rw [toList_splitList, Distinct.extend_firstOccurrences]

/-! ## lists that are joined -/

/-- Items that are joined by commas are collected again. -/
theorem splitList_intercalate {l : List String} (h : ∀ s ∈ l, IsItem s) :
    splitList (String.intercalate "," l) = .ofList l := by
  rw [splitList_eq, listItems_intercalate h]

theorem isItem_of_mem_splitList {raw s : String} (h : s ∈ (splitList raw).toList) : IsItem s := by
  rw [toList_splitList, mem_firstOccurrences_iff] at h
  exact isItem_of_mem_listItems h

/-- A list that is joined by commas is read as the same list. -/
theorem splitList_join (raw : String) :
    splitList (String.intercalate "," (splitList raw).toList) = splitList raw := by
  rw [splitList_intercalate fun s => isItem_of_mem_splitList, toList_splitList,
    Distinct.ofList_firstOccurrences, splitList_eq]

/-- **Lists**: a text is cut by its commas in one way, and it holds the first occurrences of its
pieces that are not empty.  A comma between two texts extends the list of the first by that of the
second; items that are joined by commas are read again, and so is every list. -/
theorem splitList_pieces :
    (∀ raw, ∃ pieces, (∀ pieces', IsCut raw pieces' ↔ pieces' = pieces) ∧
      (splitList raw).toList = firstOccurrences (pieces.filter (· ≠ "")) ∧
      (splitList raw).toList.Nodup ∧ ∀ s ∈ (splitList raw).toList, IsItem s) ∧
    (∀ a b, splitList (a ++ "," ++ b) = (splitList a).extend (splitList b).toList) ∧
    (∀ l, (∀ s ∈ l, IsItem s) →
      (splitList (String.intercalate "," l)).toList = firstOccurrences l) ∧
    ∀ raw, splitList (String.intercalate "," (splitList raw).toList) = splitList raw := by
  refine ⟨fun raw => ⟨_, fun _ => isCut_iff, ?_, ?_, fun _ => isItem_of_mem_splitList⟩,
    splitList_append, fun l hl => ?_, splitList_join⟩
  · rw [toList_splitList, (isCut_iff.mpr rfl).listItems_eq]
  · rw [toList_splitList]
    exact nodup_firstOccurrences _
  · rw [splitList_intercalate hl, Distinct.toList_ofList]

/-- A repeated item, and empty pieces on both sides of the comma between two texts. -/
theorem splitList_pieces_repeated :
    (∀ s ∈ ["b", "a", "b"], IsItem s) ∧ (splitList "b,a,b").toList = ["b", "a"] ∧
      splitList "b,a,b,,,b,c" = (splitList "b,a,b,").extend (splitList ",b,c").toList ∧
      splitList "b,a" = splitList "b,a,b" := by
  have hitems : ∀ s ∈ ["b", "a", "b"], IsItem s := by
    have hall : ∀ s ∈ ["b", "a", "b"], s ≠ "" ∧ ',' ∉ s.toList := by decide
    exact fun s hs => ⟨(hall s hs).1, (hall s hs).2⟩
  obtain ⟨-, happend, hjoined, hagain⟩ := splitList_pieces
  have hlist : (splitList "b,a,b").toList = ["b", "a"] := hjoined ["b", "a", "b"] hitems
  have hsame := hagain "b,a,b"
  rw [hlist] at hsame
  exact ⟨hitems, hlist, happend "b,a,b," ",b,c", hsame⟩

end FixBatch
