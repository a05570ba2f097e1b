import FixBatch.Text.Digit

/-!
# FixBatch.Proofs.Text.Digit

The digits of numbers.  What is written in base ten is made of digits and stands for the number
again, with zeros before it or without.

* `takeWhile_isDigit_append`, `spanDigits_append` — digits are taken up to what is none;
* `ofDigits_toDigits` — the digits of a number write the number.
-/

namespace FixBatch.Text

theorem isDigit_eq_isDigit (c : Char) : isDigit c = c.isDigit := rfl

theorem isDigit_of_mem_toDigits {n : Nat} {c : Char} (h : c ∈ Nat.toDigits 10 n) :
    isDigit c = true :=
  (isDigit_eq_isDigit c).trans (Nat.isDigit_of_mem_toDigits (by decide) (by decide) h)

/-- There are ten digits. -/
theorem exists_eq_ofNat_of_isDigit {c : Char} (h : isDigit c = true) :
    ∃ n < 10, c = Char.ofNat (48 + n) := by
  rw [isDigit, Bool.and_eq_true, decide_eq_true_eq, decide_eq_true_eq] at h
  have hlow : 48 ≤ c.toNat := h.1
  have hhigh : c.toNat ≤ 57 := h.2
  refine ⟨c.toNat - 48, by omega, ?_⟩
  rw [Nat.add_sub_cancel' hlow, Char.ofNat_toNat]

/-! ## runs of digits -/

section

variable {digits rest : List Char} (hdigits : ∀ c ∈ digits, isDigit c = true)
  (hrest : ∀ c ∈ rest.head?, isDigit c = false)
include hdigits hrest

theorem takeWhile_isDigit_append : (digits ++ rest).takeWhile isDigit = digits := by
  rw [List.takeWhile_append_of_pos hdigits]
  cases rest with
  | nil => rw [List.takeWhile_nil, List.append_nil]
  | cons c rest => rw [List.takeWhile_cons_of_neg (by simp [hrest c rfl]), List.append_nil]

/-- Digits are taken up to what is none. -/
theorem spanDigits_append : spanDigits (digits ++ rest) = (digits, rest) := by
  rw [spanDigits, takeWhile_isDigit_append hdigits hrest, List.dropWhile_append_of_pos hdigits]
  cases rest with
  | nil => rw [List.dropWhile_nil]
  | cons c rest => rw [List.dropWhile_cons_of_neg (by simp [hrest c rfl])]

end

/-! ## what digits write -/

theorem hexValue?_of_isDigit {c : Char} (h : isDigit c = true) :
    hexValue? c = some (c.toNat - 48) := by
  rw [isDigit, Bool.and_eq_true, decide_eq_true_eq, decide_eq_true_eq] at h
  rw [hexValue?, if_pos h]

theorem ofDigits_eq_ofDigitChars {digits : List Char} (h : ∀ c ∈ digits, isDigit c = true) :
    ofDigits 10 digits = Nat.ofDigitChars 10 digits 0 := by
  suffices hfold : ∀ n, digits.foldl (fun n c => n * 10 + (hexValue? c).getD 0) n =
      Nat.ofDigitChars 10 digits n from hfold 0
  induction digits with
  | nil => exact fun _ => rfl
  | cons c digits ih =>
    obtain ⟨hc, h⟩ := List.forall_mem_cons.mp h
    intro n
    rw [List.foldl_cons, ih h, hexValue?_of_isDigit hc, Nat.mul_comm]
    rfl

/-- **Digits**: the digits of a number write the number. -/
theorem ofDigits_toDigits (n : Nat) : ofDigits 10 (Nat.toDigits 10 n) = n := by
  rw [ofDigits_eq_ofDigitChars fun c hc => isDigit_of_mem_toDigits hc]
  exact Nat.ofDigitChars_toDigits (by decide) (by decide)

/-- To read digits on never makes a number smaller. -/
theorem le_ofDigitChars (digits : List Char) (n : Nat) : n ≤ Nat.ofDigitChars 10 digits n := by
  induction digits generalizing n with
  | nil => exact Nat.le_refl n
  | cons c digits ih =>
    rw [Nat.ofDigitChars_cons]
    exact Nat.le_trans (by omega) (ih (10 * n + (c.toNat - '0'.toNat)))

/-- Zeros before other digits count for nothing. -/
theorem ofDigits_replicate_append (k : Nat) (digits : List Char) :
    ofDigits 10 (List.replicate k '0' ++ digits) = ofDigits 10 digits := by
  induction k with
  | zero => rfl
  | succ k ih => exact ih

end FixBatch.Text
