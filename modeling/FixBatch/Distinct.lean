import Std.Data.HashSet.Lemmas

/-!
# FixBatch.Distinct

Collections that keep the first of each class of equal values, in the order of arrival.  Beside the
items stands a hash index for membership.  A collection carries the proof that the two agree and
that no two items are equal, for every `==` that is an equivalence and that hashing respects.  The
view of a collection is the list of its items:

* `firstOccurrences` — the list operation that a collection performs;
* `toList_ofList` — collecting a list gives its first occurrences;
* `toList_extend` — extending is collecting the longer list;
* `contains_iff` — the index answers what the items say.
-/

namespace FixBatch

/-- A list with every value left out that equals an earlier one or one of `seen`. -/
def firstOccurrencesAfter [BEq α] (seen : List α) : List α → List α
  | [] => []
  | a :: l =>
    if seen.any (· == a) then firstOccurrencesAfter seen l
    else a :: firstOccurrencesAfter (a :: seen) l

/-- A list with every value left out that equals an earlier one. -/
def firstOccurrences [BEq α] (l : List α) : List α := firstOccurrencesAfter [] l

namespace Distinct

variable {α : Type u} [BEq α] [Hashable α]

/-- An index that holds what some items hold, where no two of the items are equal. -/
structure Valid (items : Array α) (index : Std.HashSet α) : Prop where
  contains_eq : ∀ a, index.contains a = items.toList.any (· == a)
  pairwise : items.toList.Pairwise fun a b => (a == b) = false

theorem valid_empty : Valid (#[] : Array α) ∅ where
  contains_eq := by simp
  pairwise := by simp

/-- A value that the index does not hold goes to the end of the items and into the index. -/
theorem Valid.push [EquivBEq α] [LawfulHashable α] {items : Array α} {index : Std.HashSet α}
    (h : Valid items index) {a : α} (ha : index.contains a = false) :
    Valid (items.push a) (index.insert a) where
  contains_eq b := by
    rw [Std.HashSet.contains_insert, h.contains_eq b, Array.toList_push, List.any_append,
      Bool.or_comm]
    simp
  pairwise := by
    rw [h.contains_eq a, List.any_eq_false] at ha
    rw [Array.toList_push]
    refine List.pairwise_append.2 ⟨h.pairwise, by simp, fun b hb c hc => ?_⟩
    rw [List.mem_singleton.1 hc]
    exact Bool.eq_false_iff.2 (ha b hb)

end Distinct

/-- Values of which no two are equal, in the order of arrival, with an index for membership. -/
structure Distinct (α : Type u) [BEq α] [Hashable α] where
  items : Array α
  index : Std.HashSet α
  valid : ∀ [EquivBEq α] [LawfulHashable α], Distinct.Valid items index

namespace Distinct

variable {α : Type u} [BEq α] [Hashable α]

/-- The collection without items. -/
def empty : Distinct α := ⟨#[], ∅, valid_empty⟩

/-- The items in the order of arrival. -/
def toList (d : Distinct α) : List α := d.items.toList

/-- Whether an item equals `a`. -/
def contains (d : Distinct α) (a : α) : Bool := d.index.contains a

/-- Adds a value unless an item equals it. -/
def insert (d : Distinct α) (a : α) : Distinct α :=
  if h : d.contains a then d
  else ⟨d.items.push a, d.index.insert a, d.valid.push (Bool.eq_false_iff.2 h)⟩

/-- Adds a value unless an item equals it, and says whether it was added. -/
def add (d : Distinct α) (a : α) : Bool × Distinct α :=
  match h : d.index.containsThenInsert a with
  | (true, _) => (false, d)
  | (false, index) =>
    have hnew : d.index.contains a = false :=
      Std.HashSet.containsThenInsert_fst.symm.trans (congrArg Prod.fst h)
    have hindex : d.index.insert a = index :=
      Std.HashSet.containsThenInsert_snd.symm.trans (congrArg Prod.snd h)
    (true, ⟨d.items.push a, index, hindex ▸ d.valid.push hnew⟩)

/-- Adds the values of a list one by one. -/
def extend (d : Distinct α) (l : List α) : Distinct α := l.foldl insert d

/-- Collects the values of a list. -/
def ofList (l : List α) : Distinct α := empty.extend l

def size (d : Distinct α) : Nat := d.items.size

def isEmpty (d : Distinct α) : Bool := d.items.isEmpty

instance : BEq (Distinct α) := ⟨fun d e => d.toList == e.toList⟩

instance : Inhabited (Distinct α) := ⟨empty⟩

/-! ## Items and index -/

theorem isEmpty_eq (d : Distinct α) : d.isEmpty = d.toList.isEmpty := by
  simp [isEmpty, toList]

theorem toList_insert (d : Distinct α) (a : α) :
    (d.insert a).toList = if d.contains a then d.toList else d.toList ++ [a] := by
  simp only [insert]
  split <;> simp [toList]

theorem insert_of_contains {d : Distinct α} {a : α} (h : d.contains a = true) : d.insert a = d :=
  dif_pos h

theorem add_eq (d : Distinct α) (a : α) : d.add a = (!d.contains a, d.insert a) := by
  have hfst : (d.index.containsThenInsert a).1 = d.contains a := Std.HashSet.containsThenInsert_fst
  have hsnd : (d.index.containsThenInsert a).2 = d.index.insert a :=
    Std.HashSet.containsThenInsert_snd
  rw [add]
  split
  · next h =>
    rw [h] at hfst
    rw [← hfst, insert_of_contains hfst.symm]
    rfl
  · next h =>
    rw [h] at hfst hsnd
    subst hsnd
    rw [← hfst, insert, dif_neg (by simp [← hfst])]
    rfl

section

variable [EquivBEq α] [LawfulHashable α] (d : Distinct α)

theorem contains_eq (a : α) : d.contains a = d.toList.any (· == a) := d.valid.contains_eq a

/-- No two items are equal. -/
theorem pairwise : d.toList.Pairwise fun a b => (a == b) = false := d.valid.pairwise

/-- The index answers what the items say. -/
theorem contains_iff (a : α) : d.contains a = true ↔ ∃ b ∈ d.toList, (b == a) = true := by
  rw [contains_eq, List.any_eq_true]

theorem contains_insert (a b : α) : (d.insert a).contains b = (d.contains b || a == b) := by
  rw [contains_eq, contains_eq, toList_insert]
  split
  · next ha =>
    cases hab : a == b
    · rw [Bool.or_false]
    · obtain ⟨c, hc, hca⟩ := (d.contains_iff a).1 ha
      rw [Bool.or_true, List.any_eq_true]
      exact ⟨c, hc, BEq.trans hca hab⟩
  · simp

end

theorem nodup [LawfulBEq α] [LawfulHashable α] (d : Distinct α) : d.toList.Nodup :=
  d.pairwise.imp fun hne => by simpa using hne

/-! ## The view -/

theorem firstOccurrencesAfter_congr {β : Type u} [BEq β] {s t : List β}
    (h : ∀ a, s.any (· == a) = t.any (· == a)) (l : List β) :
    firstOccurrencesAfter s l = firstOccurrencesAfter t l := by
  induction l generalizing s t with
  | nil => rfl
  | cons a l ih =>
    have hc := ih (s := a :: s) (t := a :: t) fun b => by simp [h b]
    simp only [firstOccurrencesAfter, h a, ih h, hc]

/-- Extending a collection is collecting the longer list. -/
theorem extend_ofList (l m : List α) : (ofList l).extend m = ofList (l ++ m) := by
  simp [ofList, extend, List.foldl_append]

variable [EquivBEq α] [LawfulHashable α]

theorem toList_extend (d : Distinct α) (l : List α) :
    (d.extend l).toList = d.toList ++ firstOccurrencesAfter d.toList l := by
  induction l generalizing d with
  | nil => simp [extend, firstOccurrencesAfter]
  | cons a l ih =>
    have step := ih (d.insert a)
    rw [toList_insert, d.contains_eq a] at step
    change ((d.insert a).extend l).toList = _
    rw [step, firstOccurrencesAfter]
    split
    · rfl
    · rw [List.append_assoc, List.singleton_append]
      congr 2
      exact firstOccurrencesAfter_congr (fun b => by simp [Bool.or_comm]) l

/-- Collecting a list gives its first occurrences. -/
@[simp] theorem toList_ofList (l : List α) : (ofList l).toList = firstOccurrences l := by
  rw [ofList, toList_extend, firstOccurrences]
  simp [empty, toList]

end Distinct

end FixBatch
