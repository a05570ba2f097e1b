import FixBatch.Proofs.Text.Digit
import FixBatch.Timestamp.Reader

/-!
# FixBatch.Proofs.Timestamp

Instants, written and read again.  The reader takes one part of the written form after the other,
and every part leaves what follows it:

```
year - month - day T hour : minute : second fraction Z
```

* `Timestamp.IsInstant` — a day that there is and a time of day, leap seconds included;
* `field_padded`, `signedYear_yearText`, `fraction_fractionText` — the parts;
* `read_chars` — the whole.
-/

namespace FixBatch.Timestamp

open Text (isDigit ofDigits)

/-- An instant: a day that there is, and a time of day to the nanosecond.  A second may be a leap
second. -/
structure IsInstant (t : Timestamp) : Prop where
  date : isDate t.year t.month t.day = true
  hour : t.hour < 24
  minute : t.minute < 60
  second : t.second ≤ 60
  nanos : t.nanos < 1000000000

/-! ## numbers with zeros before them -/

theorem isDigit_of_mem_padded {width n : Nat} {c : Char} (h : c ∈ padded width n) :
    isDigit c = true := by
  rcases List.mem_append.mp h with h | h
  · rw [List.eq_of_mem_replicate h]
    rfl
  · exact Text.isDigit_of_mem_toDigits h

theorem ofDigits_padded (width n : Nat) : ofDigits 10 (padded width n) = n := by
  rw [padded, Text.ofDigits_replicate_append, Text.ofDigits_toDigits]

theorem padded_ne_nil (width n : Nat) : padded width n ≠ [] := by
  rw [padded]
  exact List.append_ne_nil_of_right_ne_nil _ Nat.toDigits_ne_nil

/-- A number that is not too large has as many digits as the width asks for. -/
theorem length_padded {width n : Nat} (hwidth : 0 < width) (hn : n < Nat.pow 10 width) :
    (padded width n).length = width := by
  have hle : (Nat.toDigits 10 n).length ≤ width :=
    (Nat.length_toDigits_le_iff (by decide) hwidth).mpr hn
  rw [padded, List.length_append, List.length_replicate]
  omega

/-- A digit is no blank, and is none of the marks and signs of the written form. -/
theorem not_blank_of_isDigit {c : Char} (h : isDigit c = true) :
    Text.isBlank c = false ∧ c ≠ '-' ∧ c ≠ '+' := by
  obtain ⟨n, hn, rfl⟩ := Text.exists_eq_ofNat_of_isDigit h
  have hdigits : ∀ n < 10, Text.isBlank (Char.ofNat (48 + n)) = false ∧
      Char.ofNat (48 + n) ≠ '-' ∧ Char.ofNat (48 + n) ≠ '+' := by
    decide
  exact hdigits n hn

theorem exists_padded_eq_cons (width n : Nat) :
    ∃ c digits, padded width n = c :: digits ∧ isDigit c = true := by
  obtain ⟨c, digits, h⟩ := List.exists_cons_of_ne_nil (padded_ne_nil width n)
  exact ⟨c, digits, h, isDigit_of_mem_padded (h ▸ List.mem_cons_self)⟩

/-- There are no blanks before digits. -/
theorem trimStart_padded_append (width n : Nat) (rest : List Char) :
    Text.trimStart (padded width n ++ rest) = padded width n ++ rest := by
  obtain ⟨c, digits, h, hc⟩ := exists_padded_eq_cons width n
  rw [h, List.cons_append, Text.trimStart,
    List.dropWhile_cons_of_neg (by simp [(not_blank_of_isDigit hc).1])]

/-! ## the parts -/

variable {n w low high : Nat} {rest : List Char}

/-- A number is read up to what is no digit, or for as many digits as may be read. -/
theorem number_padded {width : Option Nat} (hwidth : ∀ k ∈ width, (padded w n).length ≤ k)
    (hend : width = some (padded w n).length ∨ ∀ c ∈ rest.head?, isDigit c = false)
    (hn : n < Nat.pow 2 63) : number width (padded w n ++ rest) = .ok (n, rest) := by
  have hall : ∀ c ∈ padded w n, isDigit c = true := fun c hc => isDigit_of_mem_padded hc
  have hdigits : (width.elim (padded w n ++ rest) (padded w n ++ rest).take).takeWhile isDigit =
      padded w n := by
    rcases hend with rfl | hrest
    · have hself : (padded w n ++ []).takeWhile isDigit = padded w n :=
        Text.takeWhile_isDigit_append hall nofun
      rw [List.append_nil] at hself
      rwa [Option.elim, List.take_left]
    cases width with
    | none => exact Text.takeWhile_isDigit_append hall hrest
    | some k =>
      have hcut : ∀ c ∈ (rest.take (k - (padded w n).length)).head?, isDigit c = false := by
        intro c hc
        rw [List.head?_take] at hc
        split at hc
        · cases hc
        · exact hrest c hc
      rw [Option.elim, List.take_append, List.take_of_length_le (hwidth k rfl)]
      exact Text.takeWhile_isDigit_append hall hcut
  have hnil := padded_ne_nil w n
  have hsome : (padded w n ++ rest).isEmpty = false := by simp [hnil]
  have hlt : ¬Nat.pow 2 63 ≤ n := Nat.not_le.mpr hn
  cases width <;>
    (rw [Option.elim] at hdigits
     simp only [number, hdigits, ofDigits_padded, hsome, List.isEmpty_eq_false_iff.mpr hnil,
      Bool.false_eq_true, if_false, if_neg hlt, List.drop_left])

/-- Two digits within bounds. -/
theorem field_padded (hlow : low ≤ n) (hhigh : n ≤ high) (hn : n < 100) (rest : List Char) :
    field low high (padded 2 n ++ rest) = .ok (n, rest) := by
  have hlength : (padded 2 n).length = 2 := length_padded (by decide) hn
  have hnumber : number (some 2) (padded 2 n ++ rest) = .ok (n, rest) :=
    number_padded (by simp [hlength]) (.inl (by rw [hlength])) (Nat.lt_trans hn (by decide))
  rw [field, trimStart_padded_append, hnumber]
  exact if_pos ⟨hlow, hhigh⟩

theorem mark_cons {c : Char} (hc : Text.isBlank c = false) (rest : List Char) :
    mark c (c :: rest) = .ok ((), rest) := by
  rw [mark, Text.trimStart, List.dropWhile_cons_of_neg (by simp [hc])]
  exact if_pos rfl

/-- A year of some digits and a sign is read up to the mark after it. -/
theorem number_year {year : Nat} (hyear : year < 1000000) (rest : List Char) :
    number none (padded 4 year ++ '-' :: rest) = .ok (year, '-' :: rest) := by
  refine number_padded nofun (.inr fun c hc => ?_) (Nat.lt_trans hyear (by decide))
  cases hc
  rfl

/-- A year is read up to the mark after it. -/
theorem signedYear_yearText {year : Int} (hfirst : firstYear ≤ year) (hlast : year ≤ lastYear)
    (rest : List Char) :
    signedYear (yearText year ++ '-' :: rest) = .ok (year, '-' :: rest) := by
  rw [firstYear] at hfirst
  rw [lastYear] at hlast
  have hreach : -(Nat.pow 2 31 : Int) ≤ year ∧ year < (Nat.pow 2 31 : Int) := by
    rw [show (Nat.pow 2 31 : Int) = 2147483648 by decide]
    omega
  have hsigned : number none (padded 4 year.natAbs ++ '-' :: rest) =
      .ok (year.natAbs, '-' :: rest) := number_year (by omega) rest
  rw [yearText]
  split
  · next hplain =>
    simp only [Bool.and_eq_true, decide_eq_true_eq] at hplain
    have hyear : year.toNat < 10000 := by omega
    have hlength : (padded 4 year.toNat).length = 4 := length_padded (by decide) hyear
    have hnumber : number (some 4) (padded 4 year.toNat ++ '-' :: rest) =
        .ok (year.toNat, '-' :: rest) :=
      number_padded (by simp [hlength]) (.inl (by rw [hlength])) (Nat.lt_trans hyear (by decide))
    have hcast : (year.toNat : Int) = year := Int.toNat_of_nonneg hplain.1
    obtain ⟨c, digits, hcons, hc⟩ := exists_padded_eq_cons 4 year.toNat
    obtain ⟨-, hminus, hplus⟩ := not_blank_of_isDigit hc
    rw [signedYear, trimStart_padded_append]
    rw [hcons, List.cons_append] at hnumber ⊢
    -- a digit is no sign
    split
    · next heq => exact absurd (List.cons.inj heq).1 hminus
    · next heq => exact absurd (List.cons.inj heq).1 hplus
    · simp only [hnumber, Except.map, bind, Except.bind, hcast, if_pos hreach]
      rfl
  · split
    · have hcast : -(year.natAbs : Int) = year := by omega
      have htrim : Text.trimStart ('-' :: padded 4 year.natAbs ++ '-' :: rest) =
          '-' :: (padded 4 year.natAbs ++ '-' :: rest) := rfl
      simp only [signedYear, htrim, hsigned, Except.map, bind, Except.bind, hcast, if_pos hreach]
      rfl
    · have hcast : (year.natAbs : Int) = year := by omega
      have htrim : Text.trimStart ('+' :: padded 4 year.natAbs ++ '-' :: rest) =
          '+' :: (padded 4 year.natAbs ++ '-' :: rest) := rfl
      simp only [signedYear, htrim, hsigned, Except.map, bind, Except.bind, hcast, if_pos hreach]
      rfl

/-- The places of a second. -/
theorem fraction_places (hw : 0 < w) (hw' : w ≤ 9) (hn : n < Nat.pow 10 w) :
    fraction ('.' :: (padded w n ++ ['Z'])) = .ok (n * Nat.pow 10 (9 - w), ['Z']) := by
  have hlength : (padded w n).length = w := length_padded hw hn
  have hsmall : n < Nat.pow 2 63 :=
    Nat.lt_of_lt_of_le hn (Nat.le_trans (Nat.pow_le_pow_right (by decide) hw') (by decide))
  have hnumber : number (some 9) (padded w n ++ ['Z']) = .ok (n, ['Z']) :=
    number_padded (by simpa [hlength] using hw') (.inr (by simp [isDigit])) hsmall
  have hplaces : 9 - ((padded w n ++ ['Z']).length - ['Z'].length) = 9 - w := by
    simp [hlength]
  rw [fraction, hnumber]
  simp only [bind, Except.bind, hplaces]
  rfl

theorem fraction_fractionText {nanos : Nat} (h : nanos < 1000000000) :
    fraction (fractionText nanos ++ ['Z']) = .ok (nanos, ['Z']) := by
  -- a whole number of parts of a second, written in fewer places
  have hparts {w part : Nat} (hw : 0 < w) (hw' : w ≤ 9) (hpart : Nat.pow 10 (9 - w) = part)
      (hmod : nanos % part = 0) (hlt : nanos / part < Nat.pow 10 w) :
      fraction ('.' :: padded w (nanos / part) ++ ['Z']) = .ok (nanos, ['Z']) := by
    rw [List.cons_append, fraction_places hw hw' hlt, hpart,
      Nat.div_mul_cancel (Nat.dvd_of_mod_eq_zero hmod)]
  rw [fractionText]
  split
  · next hzero =>
    rw [eq_of_beq hzero]
    rfl
  split
  · next hmillis =>
    refine hparts (by decide) (by decide) rfl (eq_of_beq hmillis) ?_
    rw [show Nat.pow 10 3 = 1000 from rfl]
    omega
  split
  · next hmicros =>
    refine hparts (by decide) (by decide) rfl (eq_of_beq hmicros) ?_
    rw [show Nat.pow 10 6 = 1000000 from rfl]
    omega
  · have hall := hparts (w := 9) (by decide) (by decide) rfl (Nat.mod_one nanos)
      (by rwa [Nat.div_one])
    rwa [Nat.div_one] at hall

/-- A time that is told in UTC is the instant. -/
theorem shift_zero {t : Timestamp} (hhour : t.hour < 24) (hminute : t.minute < 60) :
    shift t 0 = some t := by
  have hnegative : ¬(t.hour * 60 + t.minute - 0 : Int) < 0 := by omega
  have hlate : ¬1440 ≤ (t.hour * 60 + t.minute - 0 : Int) := by omega
  have htoNat : (t.hour * 60 + t.minute - 0 : Int).toNat = t.hour * 60 + t.minute := by omega
  have hhours : (t.hour * 60 + t.minute) / 60 = t.hour := by omega
  have hminutes : (t.hour * 60 + t.minute) % 60 = t.minute := by omega
  simp only [shift, if_neg hnegative, if_neg hlate, htoNat, hhours, hminutes]

/-! ## instants -/

theorem daysInMonth_le (year : Int) (month : Nat) : daysInMonth year month ≤ 31 := by
  unfold daysInMonth
  split
  · split <;> decide
  · split <;> decide

/-- **Instants**: an instant is read from its written form. -/
theorem read_chars {t : Timestamp} (h : t.IsInstant) : read t.chars = .ok t := by
  obtain ⟨hdate, hhour, hminute, hsecond, hnanos⟩ := h
  have hbounds := hdate
  simp only [isDate, Bool.and_eq_true, decide_eq_true_eq] at hbounds
  obtain ⟨⟨⟨⟨⟨hfirst, hlast⟩, hmonth⟩, hmonth'⟩, hday⟩, hday'⟩ := hbounds
  have hdays := daysInMonth_le t.year t.month
  have hyear := signedYear_yearText hfirst hlast
  have hmonthField := field_padded hmonth hmonth' (by omega)
  have hdayField : ∀ rest, field 1 31 (padded 2 t.day ++ rest) = .ok (t.day, rest) :=
    field_padded hday (by omega) (by omega)
  have hhourField : ∀ rest, field 0 23 (padded 2 t.hour ++ rest) = .ok (t.hour, rest) :=
    field_padded (Nat.zero_le _) (by omega) (by omega)
  have hminuteField : ∀ rest, field 0 59 (padded 2 t.minute ++ rest) = .ok (t.minute, rest) :=
    field_padded (Nat.zero_le _) (by omega) (by omega)
  have hsecondField := field_padded (Nat.zero_le t.second) hsecond (by omega)
  have hdash := mark_cons (c := '-') rfl
  have hcolon := mark_cons (c := ':') rfl
  have hseparator (rest : List Char) : separator ('T' :: rest) = .ok ((), rest) := rfl
  have hoffset : offset (Text.trimStart ['Z']) = .ok (0, []) := rfl
  have hend : (Text.trimStart []).isEmpty = true := rfl
  have hnear : decide (1440 ≤ Int.natAbs 0) = false := rfl
  have hshift : shift ⟨t.year, t.month, t.day, t.hour, t.minute, t.second, t.nanos⟩ 0 = some t :=
    shift_zero hhour hminute
  rw [read, chars]
  simp only [List.append_assoc, List.cons_append, hyear, hdash, hmonthField, hdayField, hseparator,
    hhourField, hcolon, hminuteField, hsecondField, fraction_fractionText hnanos, hoffset, hend,
    hdate, hnear, hshift, Bool.not_true, Bool.or_false, Bool.false_eq_true, if_false, bind,
    Except.bind]
  rfl

end FixBatch.Timestamp
