import FixBatch.Distinct

/-!
# FixBatch.Proofs.Distinct

Laws of first occurrences.  Looking for them in `l ++ m` is looking in `l` and then, with all of `l`
seen, in `m`; what is found is new and not repeated, and a list of such values is found whole.  So
first occurrences may be looked for once more without any loss (`firstOccurrences_append`).  They
are the values with no equal before them, each as it stands
(`mem_firstOccurrences_iff_isFirstOccurrence`).  A collection to which only the first occurrences in
a list are offered becomes the one to which all of the list is offered
(`Distinct.extend_firstOccurrences`).
-/

namespace FixBatch

variable {α : Type u} [BEq α]

/-- What is found in a list stands there, in the same order. -/
theorem firstOccurrencesAfter_sublist (seen l : List α) :
    (firstOccurrencesAfter seen l).Sublist l := by
  induction l generalizing seen with
  | nil => exact .slnil
  | cons a l ih =>
    rw [firstOccurrencesAfter]
    split
    · exact (ih seen).cons a
    · exact (ih (a :: seen)).cons_cons a

/-- What is found equals nothing that was seen. -/
theorem not_seen_of_mem_firstOccurrencesAfter {seen l : List α} {a : α}
    (h : a ∈ firstOccurrencesAfter seen l) : seen.any (· == a) = false := by
  induction l generalizing seen with
  | nil => contradiction
  | cons b l ih =>
    rw [firstOccurrencesAfter] at h
    split at h
    · exact ih h
    · next hb =>
      rcases List.mem_cons.mp h with rfl | h
      · simpa using hb
      · have hseen := ih h
        rw [List.any_cons, Bool.or_eq_false_iff] at hseen
        exact hseen.2

/-- No two of the values found are equal. -/
theorem pairwise_firstOccurrencesAfter (seen l : List α) :
    (firstOccurrencesAfter seen l).Pairwise fun a b => (a == b) = false := by
  induction l generalizing seen with
  | nil => exact .nil
  | cons a l ih =>
    rw [firstOccurrencesAfter]
    split
    · exact ih seen
    · refine .cons (fun b hb => ?_) (ih (a :: seen))
      have hseen := not_seen_of_mem_firstOccurrencesAfter hb
      rw [List.any_cons, Bool.or_eq_false_iff] at hseen
      exact hseen.1

/-- A list of new values of which no two are equal is found whole. -/
theorem firstOccurrencesAfter_eq_self {seen l : List α}
    (hseen : ∀ a ∈ l, seen.any (· == a) = false) (hl : l.Pairwise fun a b => (a == b) = false) :
    firstOccurrencesAfter seen l = l := by
  induction l generalizing seen with
  | nil => rfl
  | cons a l ih =>
    obtain ⟨ha, hl⟩ := List.pairwise_cons.mp hl
    rw [firstOccurrencesAfter, if_neg (by simp [hseen a List.mem_cons_self])]
    rw [ih (fun b hb => ?_) hl]
    rw [List.any_cons, ha b hb, hseen b (List.mem_cons_of_mem a hb)]
    rfl

/-- Values of which no two are equal are all kept. -/
theorem toList_ofList_eq_self [Hashable α] [EquivBEq α] [LawfulHashable α] {l : List α}
    (hl : l.Pairwise fun a b => (a == b) = false) : (Distinct.ofList l).toList = l := by
  rw [Distinct.toList_ofList]
  exact firstOccurrencesAfter_eq_self (by simp) hl

theorem toList_ofList_of_nodup [Hashable α] [LawfulBEq α] {l : List α} (hl : l.Nodup) :
    (Distinct.ofList l).toList = l :=
  toList_ofList_eq_self (hl.imp fun hne => by simpa using hne)

/-- What equals a value that was seen was seen. -/
theorem any_beq_of_beq [EquivBEq α] {seen : List α} {a b : α} (ha : seen.any (· == a) = true)
    (hab : (a == b) = true) : seen.any (· == b) = true := by
  obtain ⟨c, hc, hca⟩ := List.any_eq_true.mp ha
  exact List.any_eq_true.mpr ⟨c, hc, BEq.trans hca hab⟩

/-- First occurrences in a list and then, with all of it seen, in what follows. -/
theorem firstOccurrencesAfter_append [EquivBEq α] (seen l m : List α) :
    firstOccurrencesAfter seen (l ++ m) =
      firstOccurrencesAfter seen l ++ firstOccurrencesAfter (l ++ seen) m := by
  induction l generalizing seen with
  | nil => rfl
  | cons a l ih =>
    rw [List.cons_append, firstOccurrencesAfter, firstOccurrencesAfter]
    split
    · next ha =>
      rw [ih]
      congr 1
      refine Distinct.firstOccurrencesAfter_congr (fun b => ?_) m
      cases hb : a == b
      · simp [hb]
      · simp [hb, any_beq_of_beq ha hb]
    · rw [ih, List.cons_append]
      congr 2
      exact Distinct.firstOccurrencesAfter_congr
        (fun b => by simp [Bool.or_left_comm]) m

/-- What equals a value is found among first occurrences, or was seen before. -/
theorem any_firstOccurrencesAfter [EquivBEq α] (seen l : List α) (a : α) :
    ((firstOccurrencesAfter seen l).any (· == a) || seen.any (· == a)) =
      (l.any (· == a) || seen.any (· == a)) := by
  induction l generalizing seen with
  | nil => rfl
  | cons b l ih =>
    rw [firstOccurrencesAfter]
    split
    · next hb =>
      rw [ih seen, List.any_cons]
      cases hab : b == a
      · rfl
      · simp [any_beq_of_beq hb hab]
    · have hcons := ih (b :: seen)
      simp only [List.any_cons] at hcons ⊢
      cases hab : b == a
      · simpa [hab] using hcons
      · simp

theorem any_firstOccurrences [EquivBEq α] (l : List α) (a : α) :
    (firstOccurrences l).any (· == a) = l.any (· == a) := by
  simpa [firstOccurrences] using any_firstOccurrencesAfter [] l a

theorem mem_firstOccurrences_iff [LawfulBEq α] {l : List α} {a : α} :
    a ∈ firstOccurrences l ↔ a ∈ l := by
  have h := any_firstOccurrences l a
  rwa [List.any_beq', List.any_beq', Bool.eq_iff_iff, List.contains_iff_mem,
    List.contains_iff_mem] at h

theorem nodup_firstOccurrences [LawfulBEq α] (l : List α) : (firstOccurrences l).Nodup :=
  (pairwise_firstOccurrencesAfter [] l).imp fun hne => by simpa using hne

/-- A value stands in a list with nothing before it that equals it. -/
def IsFirstOccurrence (l : List α) (a : α) : Prop :=
  ∃ before after, l = before ++ a :: after ∧ ∀ b ∈ before, (b == a) = false

theorem isFirstOccurrence_cons_iff {l : List α} {a b : α} :
    IsFirstOccurrence (b :: l) a ↔ a = b ∨ (b == a) = false ∧ IsFirstOccurrence l a := by
  constructor
  · rintro ⟨before, after, hl, hbefore⟩
    cases before with
    | nil => exact .inl (List.cons.inj hl).1.symm
    | cons c before =>
      obtain ⟨rfl, rfl⟩ := List.cons.inj hl
      obtain ⟨hb, hbefore⟩ := List.forall_mem_cons.mp hbefore
      exact .inr ⟨hb, before, after, rfl, hbefore⟩
  · rintro (rfl | ⟨hb, before, after, rfl, hbefore⟩)
    · exact ⟨[], l, rfl, fun _ hb => nomatch hb⟩
    · exact ⟨b :: before, after, rfl, List.forall_mem_cons.mpr ⟨hb, hbefore⟩⟩

/-- What is found are the values that are first and were not seen. -/
theorem mem_firstOccurrencesAfter_iff [EquivBEq α] {seen l : List α} {a : α} :
    a ∈ firstOccurrencesAfter seen l ↔ seen.any (· == a) = false ∧ IsFirstOccurrence l a := by
  induction l generalizing seen with
  | nil => simp [firstOccurrencesAfter, IsFirstOccurrence]
  | cons b l ih =>
    rw [firstOccurrencesAfter, isFirstOccurrence_cons_iff]
    split
    · next hb =>
      rw [ih]
      refine and_congr_right fun ha => ?_
      -- an equal of `a` that was seen would make `a` seen
      have hne : (b == a) = false := Bool.eq_false_iff.mpr fun hab => by
        rw [any_beq_of_beq hb hab] at ha
        cases ha
      have hother : a ≠ b := fun heq => by
        rw [heq, BEq.rfl] at hne
        cases hne
      simp [hother, hne]
    · next hb =>
      rw [List.mem_cons, ih, List.any_cons, Bool.or_eq_false_iff]
      constructor
      · rintro (rfl | ⟨⟨hab, ha⟩, hfirst⟩)
        · exact ⟨by simpa using hb, .inl rfl⟩
        · exact ⟨ha, .inr ⟨hab, hfirst⟩⟩
      · rintro ⟨ha, rfl | ⟨hab, hfirst⟩⟩
        · exact .inl rfl
        · exact .inr ⟨⟨hab, ha⟩, hfirst⟩

/-- First occurrences are the values that are first, each as it stands. -/
theorem mem_firstOccurrences_iff_isFirstOccurrence [EquivBEq α] {l : List α} {a : α} :
    a ∈ firstOccurrences l ↔ IsFirstOccurrence l a := by
  rw [firstOccurrences, mem_firstOccurrencesAfter_iff]
  simp

/-- First occurrences in first occurrences are those in the list itself, when no more was seen
before. -/
theorem firstOccurrencesAfter_firstOccurrencesAfter [EquivBEq α] {seen seen' : List α}
    (h : ∀ a, seen.any (· == a) = true → seen'.any (· == a) = true) (l : List α) :
    firstOccurrencesAfter seen' (firstOccurrencesAfter seen l) = firstOccurrencesAfter seen' l := by
  induction l generalizing seen seen' with
  | nil => rfl
  | cons a l ih =>
    rw [firstOccurrencesAfter.eq_def seen (a :: l)]
    dsimp only
    split
    · next ha => rw [ih h, firstOccurrencesAfter, if_pos (h a ha)]
    · rw [firstOccurrencesAfter, firstOccurrencesAfter]
      split
      · next ha =>
        -- `a` was seen already, so to see it again makes no difference
        refine ih fun b hb => ?_
        rw [List.any_cons, Bool.or_eq_true] at hb
        rcases hb with hab | hb
        · exact any_beq_of_beq ha hab
        · exact h b hb
      · refine congrArg _ (ih fun b hb => ?_)
        simp only [List.any_cons, Bool.or_eq_true] at hb ⊢
        exact hb.imp_right (h b)

/-- First occurrences in `l` and then those in `m`, each list looked through by itself. -/
theorem firstOccurrences_append [EquivBEq α] (l m : List α) :
    firstOccurrences (l ++ m) =
      firstOccurrences l ++ firstOccurrencesAfter (firstOccurrences l) (firstOccurrences m) := by
  have hm : firstOccurrencesAfter (firstOccurrences l) (firstOccurrencesAfter [] m) =
      firstOccurrencesAfter (firstOccurrences l) m :=
    firstOccurrencesAfter_firstOccurrencesAfter (by simp) m
  rw [firstOccurrences, firstOccurrencesAfter_append, List.append_nil, firstOccurrences.eq_1 m, hm,
    Distinct.firstOccurrencesAfter_congr (any_firstOccurrences l) m]
  rfl

/-! ## collecting first occurrences -/

namespace Distinct

variable [Hashable α] [EquivBEq α] [LawfulHashable α]

/-- What equals a value that a collection holds makes no difference to it. -/
theorem extend_firstOccurrencesAfter {seen : List α} {d : Distinct α}
    (h : ∀ a, seen.any (· == a) = true → d.contains a = true) (l : List α) :
    d.extend (firstOccurrencesAfter seen l) = d.extend l := by
  induction l generalizing seen d with
  | nil => rfl
  | cons a l ih =>
    rw [firstOccurrencesAfter]
    split
    · next ha =>
      have hheld : d.insert a = d := insert_of_contains (h a ha)
      calc
        d.extend (firstOccurrencesAfter seen l) = d.extend l := ih h
        _ = (d.insert a).extend l := by rw [hheld]
    · refine ih (d := d.insert a) fun b hb => ?_
      rw [List.any_cons, Bool.or_eq_true] at hb
      rw [contains_insert, Bool.or_eq_true]
      exact hb.elim .inr fun hseen => .inl (h b hseen)

/-- Offering the first occurrences in a list is offering the list. -/
theorem extend_firstOccurrences (d : Distinct α) (l : List α) :
    d.extend (firstOccurrences l) = d.extend l :=
  extend_firstOccurrencesAfter (by simp) l

/-- Collecting the first occurrences in a list is collecting the list. -/
theorem ofList_firstOccurrences (l : List α) : ofList (firstOccurrences l) = ofList l :=
  extend_firstOccurrences empty l

end Distinct

end FixBatch
