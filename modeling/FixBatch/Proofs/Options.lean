import FixBatch.Options
import FixBatch.Proofs.Distinct
import FixBatch.Proofs.Text.Segments

/-!
# FixBatch.Proofs.Options

How tokens are told apart: what starts with two dashes is an option, with a value if there is an
equals sign, and every other token is a path.

* `shapes` — every token has one of the three shapes;
* `ofString_bare`, `ofString_attached`, `ofString_plain` — how each shape is read;
* `Options.nodup_ofList` — collected options have different names;
* `IsCut.listItems_eq`, `listItems_intercalate` — the items of a list are the pieces between its
  commas, and items that were joined by commas are read again.
-/

namespace FixBatch

namespace Token

/-! ## the shapes of tokens -/

theorem toList_dashes (name : String) : ("--" ++ name).toList = '-' :: '-' :: name.toList := by
  rw [String.toList_append]
  rfl

theorem toList_dashes_equals (name value : String) : ("--" ++ name ++ "=" ++ value).toList =
    '-' :: '-' :: (name.toList ++ '=' :: value.toList) := by
  rw [String.toList_append, String.toList_append, toList_dashes, List.append_assoc]
  rfl

/-- Every token is a bare option, an option with a value, or no option. -/
theorem shapes (s : String) :
    (∃ name : String, '=' ∉ name.toList ∧ s = "--" ++ name) ∨
      (∃ name value : String, '=' ∉ name.toList ∧ s = "--" ++ name ++ "=" ++ value) ∨
        ¬∃ name, s = "--" ++ name := by
  by_cases h : ∃ name, s = "--" ++ name
  · obtain ⟨name, rfl⟩ := h
    cases hcut : Text.cutAt '=' name.toList with
    | none => exact .inl ⟨name, Text.cutAt_eq_none_iff.mp hcut, rfl⟩
    | some parts =>
      obtain ⟨hname, hfree⟩ := Text.cutAt_eq_some_iff.mp hcut
      refine .inr (.inl ⟨String.ofList parts.1, String.ofList parts.2, ?_, ?_⟩)
      · rwa [String.toList_ofList]
      · apply String.toList_injective
        rw [toList_dashes, toList_dashes_equals, String.toList_ofList, String.toList_ofList, hname]
  · exact .inr (.inr h)

/-! ## how they are read -/

theorem ofString_bare {name : String} (h : '=' ∉ name.toList) :
    ofString ("--" ++ name) = option name none := by
  simp only [ofString, toList_dashes, Text.cutAt_of_not_mem h, String.ofList_toList]

theorem ofString_attached {name : String} (h : '=' ∉ name.toList) (value : String) :
    ofString ("--" ++ name ++ "=" ++ value) = option name (some value) := by
  simp only [ofString, toList_dashes_equals, Text.cutAt_append h, String.ofList_toList]

theorem ofString_plain {s : String} (h : ¬∃ name, s = "--" ++ name) : ofString s = path ⟨s⟩ := by
  rw [ofString]
  split
  · next rest hs =>
    refine absurd ⟨String.ofList rest, String.toList_injective ?_⟩ h
    rw [toList_dashes, hs, String.toList_ofList]
  · rfl

end Token

/-! ## options by name -/

namespace Options

theorem contains_iff {o : Options} {name : String} :
    o.contains name = true ↔ name ∈ o.entries.map Prod.fst := by
  rw [contains, lookup, List.lookup_isSome_iff, List.mem_map]
  exact exists_congr fun entry => and_congr_right' (beq_iff_eq.trans eq_comm)

theorem nodup_insert {o : Options} (h : (o.entries.map Prod.fst).Nodup)
    (entry : String × Option String) : ((o.insert entry).entries.map Prod.fst).Nodup := by
  rw [insert]
  split
  · exact h
  · next hnew =>
    rw [contains_iff] at hnew
    rw [List.map_append, List.map_singleton, List.nodup_append]
    refine ⟨h, List.pairwise_singleton _ _, ?_⟩
    rintro name hname _ hentry rfl
    rw [List.mem_singleton] at hentry
    exact hnew (hentry ▸ hname)

theorem length_insert_le (o : Options) (entry : String × Option String) :
    (o.insert entry).entries.length ≤ o.entries.length + 1 := by
  rw [insert]
  split
  · exact Nat.le_succ _
  · exact Nat.le_of_eq List.length_append

/-- Collected options have different names, and are no more than were collected. -/
theorem nodup_ofList (entries : List (String × Option String)) :
    ((ofList entries).entries.map Prod.fst).Nodup ∧
      (ofList entries).entries.length ≤ entries.length := by
  suffices h : ∀ (l : List (String × Option String)) (o : Options),
      (o.entries.map Prod.fst).Nodup → ((l.foldl insert o).entries.map Prod.fst).Nodup ∧
        (l.foldl insert o).entries.length ≤ o.entries.length + l.length by
    simpa [ofList] using h entries ⟨[]⟩ List.nodup_nil
  intro l
  induction l with
  | nil => exact fun o ho => ⟨ho, Nat.le_refl _⟩
  | cons entry l ih =>
    intro o ho
    obtain ⟨hnodup, hlen⟩ := ih (o.insert entry) (nodup_insert ho entry)
    refine ⟨hnodup, ?_⟩
    have hinsert := length_insert_le o entry
    rw [List.foldl_cons, List.length_cons]
    omega

end Options

/-! ## lists -/

/-- A text that can be an item of a list. -/
structure IsItem (s : String) : Prop where
  ne_empty : s ≠ ""
  comma_free : ',' ∉ s.toList

/-- The items of a list: the non-empty stretches between its commas. -/
def listItems (raw : String) : List String :=
  ((Text.segments (· == ',') raw.toList).filter (!·.isEmpty)).map String.ofList

theorem toList_splitList (raw : String) :
    (splitList raw).toList = firstOccurrences (listItems raw) :=
  Distinct.toList_ofList _

/-- What stands between commas is an item. -/
theorem isItem_of_mem_listItems {raw s : String} (h : s ∈ listItems raw) : IsItem s := by
  obtain ⟨segment, hsegment, rfl⟩ := List.mem_map.mp h
  obtain ⟨hsegment, hne⟩ := List.mem_filter.mp hsegment
  constructor
  · intro hempty
    have hnil := congrArg String.toList hempty
    rw [String.toList_ofList] at hnil
    rw [hnil] at hne
    cases hne
  · rw [String.toList_ofList]
    intro hcomma
    have hfree := Text.not_sep_of_mem_segments hsegment ',' hcomma
    cases hfree

/-- The pieces of a text: what stands between its commas, the empty ones included. -/
structure IsCut (raw : String) (pieces : List String) : Prop where
  ne_nil : pieces ≠ []
  comma_free : ∀ s ∈ pieces, ',' ∉ s.toList
  joined : String.intercalate "," pieces = raw

theorem toList_intercalate_comma (l : List String) :
    (String.intercalate "," l).toList = [','].intercalate (l.map String.toList) :=
  String.toList_intercalate

theorem IsCut.segments_eq {raw : String} {pieces : List String} (h : IsCut raw pieces) :
    Text.segments (· == ',') raw.toList = pieces.map String.toList := by
  rw [← h.joined, toList_intercalate_comma]
  refine Text.segments_intercalate rfl (by simpa using h.ne_nil) fun s hs c hc => ?_
  obtain ⟨piece, hpiece, rfl⟩ := List.mem_map.mp hs
  refine beq_false_of_ne ?_
  rintro rfl
  exact h.comma_free piece hpiece hc

/-- The items of a list are the pieces of its text that are not empty. -/
theorem IsCut.listItems_eq {raw : String} {pieces : List String} (h : IsCut raw pieces) :
    listItems raw = pieces.filter (· ≠ "") := by
  have hempty (s : String) : (!s.toList.isEmpty) = decide (s ≠ "") := by
    rw [Bool.eq_iff_iff]
    simp [String.toList_eq_nil_iff]
  rw [listItems, h.segments_eq, List.filter_map, List.map_map]
  simp [Function.comp_def, hempty]

/-- **Lists**: items that are joined by commas are read again. -/
theorem listItems_intercalate {l : List String} (h : ∀ s ∈ l, IsItem s) :
    listItems (String.intercalate "," l) = l := by
  cases l with
  | nil => rfl
  | cons s l =>
    have hcut : IsCut (String.intercalate "," (s :: l)) (s :: l) :=
      ⟨List.cons_ne_nil s l, fun t ht => (h t ht).comma_free, rfl⟩
    rw [hcut.listItems_eq, List.filter_eq_self]
    exact fun t ht => by simpa using (h t ht).ne_empty

/-- Different items are all read again, in their order. -/
theorem toList_splitList_of_nodup {l : List String} (h : ∀ s ∈ l, IsItem s) (hl : l.Nodup) :
    (splitList (String.intercalate "," l)).toList = l := by
  rw [toList_splitList, listItems_intercalate h]
  exact firstOccurrencesAfter_eq_self (by simp) (hl.imp fun hne => by simpa using hne)

/-- The list that an option holds, repeats left out. -/
theorem Options.toList_list (o : Options) (name : String) :
    (o.list name).toList = firstOccurrences (((o.lookup name).join.map listItems).getD []) := by
  rw [list, raw]
  cases (o.lookup name).join with
  | none => rfl
  | some raw => exact toList_splitList raw

theorem Options.isItem_of_mem_list {o : Options} {name s : String}
    (h : s ∈ (o.list name).toList) : IsItem s := by
  rw [toList_list] at h
  have hmem := (firstOccurrencesAfter_sublist [] _).subset h
  cases hraw : (o.lookup name).join with
  | none => rw [hraw] at hmem; cases hmem
  | some raw => rw [hraw] at hmem; exact isItem_of_mem_listItems hmem

end FixBatch
