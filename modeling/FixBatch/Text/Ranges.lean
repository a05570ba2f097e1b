/-!
# FixBatch.Text.Ranges

Classes of characters given by a table: the inclusive ranges of their code points.  A table carries
the proof that its ranges ascend, so the search `Ranges.contains`, which stops at the first range
above its argument, finds exactly the listed code points (`Ranges.contains_iff`).
-/

namespace FixBatch.Text

/-- Every range lies above `low` and below the ranges after it. -/
def Ascending : Nat → List (Nat × Nat) → Prop
  | _, [] => True
  | low, (a, b) :: rest => low ≤ a ∧ a ≤ b ∧ Ascending (b + 1) rest

namespace Ascending

/-- Whether ranges ascend, range by range. -/
def decision : (low : Nat) → (ranges : List (Nat × Nat)) → Decidable (Ascending low ranges)
  | _, [] => inferInstanceAs (Decidable True)
  | low, (a, b) :: rest =>
    have := decision (b + 1) rest
    inferInstanceAs (Decidable (low ≤ a ∧ a ≤ b ∧ Ascending (b + 1) rest))

instance (low : Nat) (ranges : List (Nat × Nat)) : Decidable (Ascending low ranges) :=
  decision low ranges

theorem le_of_mem {low : Nat} {ranges : List (Nat × Nat)} (h : Ascending low ranges)
    {r : Nat × Nat} (hr : r ∈ ranges) : low ≤ r.1 := by
  induction ranges generalizing low with
  | nil => cases hr
  | cons s rest ih =>
    obtain ⟨hlow, hle, hrest⟩ := h
    rcases List.mem_cons.1 hr with rfl | hr
    · exact hlow
    · have := ih hrest hr
      omega

end Ascending

/-- Inclusive ranges of code points, in ascending order. -/
structure Ranges where
  list : List (Nat × Nat)
  ascending : Ascending 0 list

namespace Ranges

/-- Whether a number lies in one of some ascending ranges. -/
def search : List (Nat × Nat) → Nat → Bool
  | [], _ => false
  | (a, b) :: rest, n => if n < a then false else if n ≤ b then true else search rest n

theorem search_iff {low : Nat} {ranges : List (Nat × Nat)} (h : Ascending low ranges) (n : Nat) :
    search ranges n = true ↔ ∃ r ∈ ranges, r.1 ≤ n ∧ n ≤ r.2 := by
  induction ranges generalizing low with
  | nil => simp [search]
  | cons r rest ih =>
    obtain ⟨-, hle, hrest⟩ := h
    simp only [search, List.mem_cons, exists_eq_or_imp]
    split
    next hlt =>
      refine ⟨by simp, ?_⟩
      rintro (⟨h1, -⟩ | ⟨s, hs, h1, -⟩)
      · omega
      · have := hrest.le_of_mem hs
        omega
    next hge =>
      split
      next hle' => simp [hle', Nat.le_of_not_lt hge]
      next hgt => rw [ih hrest]; simp [hgt]

/-- Whether a code point lies in one of the ranges. -/
def contains (ranges : Ranges) (n : Nat) : Bool := search ranges.list n

/-- The search finds exactly the listed code points. -/
theorem contains_iff (ranges : Ranges) (n : Nat) :
    ranges.contains n = true ↔ ∃ r ∈ ranges.list, r.1 ≤ n ∧ n ≤ r.2 :=
  search_iff ranges.ascending n

end Ranges

end FixBatch.Text
