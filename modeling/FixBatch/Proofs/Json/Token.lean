import FixBatch.Json.Reader
import FixBatch.Json.Value
import FixBatch.Proofs.Text.Digit

/-!
# FixBatch.Proofs.Json.Token

Strings and numbers as a text may spell them, read from the front of a longer text.  A string has
many spellings; halves of pairs may stand between quotes as well, but such a text spells nothing.  A
number has a sign, digits before and after the point, and an exponent:

```
-12.5e+3  =  - whole . fraction e + digits
```

* `Spells`, `IsStringBody` — what may stand between quotes, with a meaning and without;
* `stringToken_of_spells`, `stringToken_of_unpaired` — a string with its escapes;
* `Numeral.IsUnsigned`, `readNumber_of_isUnsigned` — a number, where nothing follows that could
  belong to it;
* `spells_escaped`, `isUnsigned_toDigits` — strings and numbers as this library writes them.
-/

namespace FixBatch.Json

open Text (isDigit isDigit_of_mem_toDigits spanDigits)

/-! ## strings -/

/-- A character that stands for itself between quotes. -/
def IsPlain (c : Char) : Prop := c ≠ '"' ∧ c ≠ '\\' ∧ ¬c.toNat < 0x20

/-- A text that may stand between quotes; what its escapes stand for does not matter. -/
inductive IsStringBody : List Char → Prop
  | nil : IsStringBody []
  | plain {c : Char} {t : List Char} (hc : IsPlain c) (ht : IsStringBody t) : IsStringBody (c :: t)
  | letter {l c : Char} {t : List Char} (hl : simpleEscape? l = some c) (ht : IsStringBody t) :
      IsStringBody ('\\' :: l :: t)
  | number {a b c d : Char} {n : Nat} {t : List Char} (hn : hexValue4? a b c d = some n)
      (ht : IsStringBody t) : IsStringBody ('\\' :: 'u' :: a :: b :: c :: d :: t)

/-- The spellings of a string between quotes.  What needs more than four digits is a pair of
escapes. -/
inductive Spells : List Char → List Char → Prop
  | nil : Spells [] []
  | plain {c : Char} {s t : List Char} (hc : IsPlain c) (ht : Spells s t) :
      Spells (c :: s) (c :: t)
  | letter {l c : Char} {s t : List Char} (hl : simpleEscape? l = some c) (ht : Spells s t) :
      Spells (c :: s) ('\\' :: l :: t)
  | number {a b c d : Char} {n : Nat} {s t : List Char} (hn : hexValue4? a b c d = some n)
      (hlead : isLeading n = false) (htrail : isTrailing n = false) (ht : Spells s t) :
      Spells (Char.ofNat n :: s) ('\\' :: 'u' :: a :: b :: c :: d :: t)
  | pair {a b c d e f g h : Char} {n m : Nat} {s t : List Char} (hn : hexValue4? a b c d = some n)
      (hlead : isLeading n = true) (hm : hexValue4? e f g h = some m) (htrail : isTrailing m = true)
      (ht : Spells s t) :
      Spells (pairChar n m :: s)
        ('\\' :: 'u' :: a :: b :: c :: d :: '\\' :: 'u' :: e :: f :: g :: h :: t)

section

variable {c l : Char} {n : Nat} {s t : List Char}

/-- What spells a string may stand between quotes. -/
theorem Spells.isStringBody (h : Spells s t) : IsStringBody t := by
  induction h with
  | nil => exact .nil
  | plain hc _ ih => exact .plain hc ih
  | letter hl _ ih => exact .letter hl ih
  | number hn _ _ _ ih => exact .number hn ih
  | pair hn _ hm _ _ ih => exact .number hn (.number hm ih)

theorem ne_u_of_simpleEscape? (hl : simpleEscape? l = some c) : l ≠ 'u' := by
  rintro rfl
  cases hl

theorem not_isTrailing_of_isLeading (h : isLeading n = true) : isTrailing n = false := by
  simp only [isLeading, isTrailing, Bool.and_eq_true, decide_eq_true_eq, Bool.and_eq_false_imp,
    decide_eq_false_iff_not] at h ⊢
  omega

end

/-- A spelling reads as what it spells. -/
theorem readString_of_spells {s t : List Char} (h : Spells s t) (rest : List Char) :
    readString (t ++ '"' :: rest) = .ok (s, rest) := by
  induction h with
  | nil => rw [List.nil_append, readString]
  | plain hc _ ih =>
    obtain ⟨hquote, hslash, hcontrol⟩ := hc
    simp [readString, hslash, hcontrol, ih, prepend, Except.map]
  | letter hl _ ih => simp [readString, ne_u_of_simpleEscape? hl, hl, ih, prepend, Except.map]
  | number hn hlead htrail _ ih => simp [readString, hn, hlead, htrail, ih, prepend, Except.map]
  | pair hn hlead hm htrail _ ih =>
    simp [readString, hn, not_isTrailing_of_isLeading hlead, hlead, hm, htrail, ih, prepend,
      Except.map]

/-- What may stand between quotes ends where it was ended. -/
theorem scanString_of_isStringBody {t : List Char} (h : IsStringBody t) (rest : List Char) :
    scanString (t ++ '"' :: rest) = .ok rest := by
  induction h with
  | nil => rw [List.nil_append, scanString]
  | plain hc _ ih =>
    obtain ⟨hquote, hslash, hcontrol⟩ := hc
    simp [scanString, hslash, hcontrol, ih]
  | letter hl _ ih => simp [scanString, ne_u_of_simpleEscape? hl, hl, ih]
  | number hn _ ih => simp [scanString, hn, ih]

/-- What spells nothing, since half of a pair is missing, cannot be read. -/
theorem spells_or_malformed : ∀ {t : List Char}, IsStringBody t →
    (∃ s, Spells s t) ∨ ∀ rest, readString (t ++ '"' :: rest) = .error .malformed
  | _, .nil => .inl ⟨[], .nil⟩
  | _, .plain hc ht => by
    refine (spells_or_malformed ht).imp (fun ⟨s, hs⟩ => ⟨_, .plain hc hs⟩) fun h rest => ?_
    obtain ⟨hquote, hslash, hcontrol⟩ := hc
    simp [readString, hslash, hcontrol, h, prepend, Except.map]
  | _, .letter hl ht => by
    refine (spells_or_malformed ht).imp (fun ⟨s, hs⟩ => ⟨_, .letter hl hs⟩) fun h rest => ?_
    simp [readString, ne_u_of_simpleEscape? hl, hl, h, prepend, Except.map]
  | _, .number (n := n) hn ht => by
    cases htrail : isTrailing n with
    | true => exact .inr fun rest => by simp [readString, hn, htrail]
    | false =>
      cases hlead : isLeading n with
      | false =>
        refine (spells_or_malformed ht).imp (fun ⟨s, hs⟩ => ⟨_, .number hn hlead htrail hs⟩)
          fun h rest => ?_
        simp [readString, hn, hlead, htrail, h, prepend, Except.map]
      | true =>
        -- the other half has to come next
        cases ht with
        | nil =>
          refine .inr fun rest => ?_
          simp only [List.cons_append, readString, hn, htrail, hlead, Bool.false_eq_true, if_false,
            if_true, List.nil_append]
          rfl
        | plain hc ht => exact .inr fun rest => by simp [readString, hn, htrail, hlead, hc.2.1]
        | letter hl ht =>
          exact .inr fun rest => by
            simp [readString, hn, htrail, hlead, ne_u_of_simpleEscape? hl]
        | @number _ _ _ _ m _ hm ht =>
          cases htrail' : isTrailing m with
          | true =>
            refine (spells_or_malformed ht).imp (fun ⟨s, hs⟩ => ⟨_, .pair hn hlead hm htrail' hs⟩)
              fun h rest => ?_
            simp [readString, hn, htrail, hlead, hm, htrail', h, prepend, Except.map]
          | false => exact .inr fun rest => by simp [readString, hn, htrail, hlead, hm, htrail']

section

variable {s t : List Char}

/-- **Strings**: after its opening quote, a spelling is the token of what it spells. -/
theorem stringToken_of_spells (h : Spells s t) (rest : List Char) :
    stringToken (t ++ '"' :: rest) = (⟨.ok s, none⟩, some rest) := by
  simp only [stringToken, readString_of_spells h, scanString_of_isStringBody h.isStringBody]
  rfl

/-- What spells nothing is passed over, but not read. -/
theorem stringToken_of_unpaired (h : IsStringBody t) (hunpaired : ∀ s, ¬Spells s t)
    (rest : List Char) :
    stringToken (t ++ '"' :: rest) = (⟨.error .malformed, none⟩, some rest) := by
  have hread := (spells_or_malformed h).resolve_left fun ⟨s, hs⟩ => hunpaired s hs
  simp only [stringToken, hread, scanString_of_isStringBody h]
  rfl

end

/-! ### written strings -/

/-- The escape of a control character reads as its number. -/
theorem hexValue4?_hexDigit : ∀ n < 32, hexValue4? '0' '0' (hexDigit (n / 16)) (hexDigit (n % 16)) =
    some n := by
  decide

/-- A character is written as itself or as one of two kinds of escapes. -/
theorem spells_escaped_append (c : Char) {s t : List Char} (h : Spells s t) :
    Spells (c :: s) (escaped c ++ t) := by
  unfold escaped
  split
  case h_1 => exact .letter rfl h
  case h_2 => exact .letter rfl h
  case h_3 => exact .letter rfl h
  case h_4 => exact .letter rfl h
  case h_5 => exact .letter rfl h
  case h_6 => exact .letter rfl h
  case h_7 => exact .letter rfl h
  case h_8 hquote hslash _ _ _ _ _ =>
    split
    · next hcontrol =>
      have hlead : isLeading c.toNat = false := by simp [isLeading]; omega
      have htrail : isTrailing c.toNat = false := by simp [isTrailing]; omega
      have hnumber := Spells.number (hexValue4?_hexDigit c.toNat hcontrol) hlead htrail h
      rwa [Char.ofNat_toNat] at hnumber
    · next hplain => exact .plain ⟨hquote, hslash, hplain⟩ h

/-- Strings are spelled as they are written. -/
theorem spells_escaped (s : List Char) : Spells s (s.flatMap escaped) := by
  induction s with
  | nil => exact .nil
  | cons c s ih => exact spells_escaped_append c ih

/-! ## numbers -/

/-- A text that does not go on with what a number could contain. -/
def EndsNumber (rest : List Char) : Prop :=
  ∀ c ∈ rest.head?, isDigit c = false ∧ c ≠ '.' ∧ c ≠ 'e' ∧ c ≠ 'E'

/-- At least one digit, and nothing else. -/
def IsDigits (t : List Char) : Prop := t ≠ [] ∧ ∀ c ∈ t, isDigit c = true

/-- What stands after the digits before the point. -/
inductive IsFraction : List Char → List Char → Prop
  | none : IsFraction [] []
  | point {digits : List Char} (h : IsDigits digits) : IsFraction digits ('.' :: digits)

/-- What stands at the end of a number. -/
inductive IsExponent : Option (Bool × List Char) → List Char → Prop
  | none : IsExponent .none []
  | plain {e : Char} {digits : List Char} (he : e = 'e' ∨ e = 'E') (h : IsDigits digits) :
      IsExponent (some (false, digits)) (e :: digits)
  | plus {e : Char} {digits : List Char} (he : e = 'e' ∨ e = 'E') (h : IsDigits digits) :
      IsExponent (some (false, digits)) (e :: '+' :: digits)
  | minus {e : Char} {digits : List Char} (he : e = 'e' ∨ e = 'E') (h : IsDigits digits) :
      IsExponent (some (true, digits)) (e :: '-' :: digits)

/-- The texts of a number after its sign: zeros do not lead other digits before the point. -/
inductive Numeral.IsUnsigned (n : Numeral) : List Char → Prop
  | intro {fraction exponent : List Char} (whole : IsDigits n.whole)
      (lead : n.whole.head? = some '0' → n.whole = ['0']) (hf : IsFraction n.fraction fraction)
      (he : IsExponent n.exponent exponent) : n.IsUnsigned (n.whole ++ (fraction ++ exponent))

section

variable {digits rest : List Char}

theorem EndsNumber.not_isDigit (h : EndsNumber rest) : ∀ c ∈ rest.head?, isDigit c = false :=
  fun c hc => (h c hc).1

/-- Digits are read up to what ends the number. -/
theorem IsDigits.spanDigits_append (h : IsDigits digits)
    (hrest : ∀ c ∈ rest.head?, isDigit c = false) :
    spanDigits (digits ++ rest) = (digits, rest) := Text.spanDigits_append h.2 hrest

theorem IsDigits.exists_cons (h : IsDigits digits) :
    ∃ c t, digits = c :: t ∧ isDigit c = true := by
  obtain ⟨c, t, rfl⟩ := List.exists_cons_of_ne_nil h.1
  exact ⟨c, t, rfl, h.2 c List.mem_cons_self⟩

variable {negative : Bool} {whole fraction exponent : List Char} {x : Option (Bool × List Char)}

/-- An exponent does not start with a digit or a point. -/
theorem IsExponent.head? (h : IsExponent x exponent) (hrest : EndsNumber rest) :
    ∀ c ∈ (exponent ++ rest).head?, isDigit c = false ∧ c ≠ '.' := by
  have hletter {e : Char} (he : e = 'e' ∨ e = 'E') : isDigit e = false ∧ e ≠ '.' := by
    rcases he with rfl | rfl <;> decide
  intro c hc
  cases h with
  | none => exact ⟨(hrest c hc).1, (hrest c hc).2.1⟩
  | plain he _ | plus he _ | minus he _ => cases hc; exact hletter he

theorem readExponent_of_isExponent (h : IsExponent x exponent) (hrest : EndsNumber rest)
    (negative : Bool) (whole fraction : List Char) :
    readExponent negative whole fraction (exponent ++ rest) =
      finishNumber ⟨negative, whole, fraction, x⟩ rest := by
  have hletter {e : Char} (he : e = 'e' ∨ e = 'E') : (e == 'e' || e == 'E') = true := by
    rcases he with rfl | rfl <;> rfl
  cases h with
  | none =>
    cases rest with
    | nil => rfl
    | cons c rest =>
      obtain ⟨-, -, he, hE⟩ := hrest c rfl
      simp [readExponent, he, hE]
  | plain he hdigits =>
    have hspan := hdigits.spanDigits_append hrest.not_isDigit
    obtain ⟨c, t, rfl, hc⟩ := hdigits.exists_cons
    -- a digit is no sign
    have hplus : c ≠ '+' := by rintro rfl; cases hc
    have hminus : c ≠ '-' := by rintro rfl; cases hc
    rw [List.cons_append] at hspan
    simp [readExponent, hletter he, hplus, hminus, hspan]
  | plus he hdigits =>
    have hspan := hdigits.spanDigits_append hrest.not_isDigit
    obtain ⟨c, t, rfl, -⟩ := hdigits.exists_cons
    simp only [List.cons_append, readExponent, hletter he, if_true] at hspan ⊢
    rw [hspan]
  | minus he hdigits =>
    have hspan := hdigits.spanDigits_append hrest.not_isDigit
    obtain ⟨c, t, rfl, -⟩ := hdigits.exists_cons
    simp only [List.cons_append, readExponent, hletter he, if_true] at hspan ⊢
    rw [hspan]

section

variable (hwhole : IsDigits whole) (hlead : whole.head? = some '0' → whole = ['0'])
include hwhole hlead

theorem readNumber_plain (hrest : ∀ c ∈ rest.head?, isDigit c = false ∧ c ≠ '.') :
    readNumber negative (whole ++ rest) = readExponent negative whole [] rest := by
  rw [readNumber, hwhole.spanDigits_append fun c hc => (hrest c hc).1]
  split
  · next h => exact absurd (Prod.mk.inj h).1 hwhole.1
  · next h =>
    obtain ⟨rfl, -⟩ := Prod.mk.inj h
    cases hlead rfl
  · next h =>
    obtain ⟨-, rfl⟩ := Prod.mk.inj h
    exact absurd rfl (hrest '.' rfl).2
  · next h =>
    obtain ⟨rfl, rfl⟩ := Prod.mk.inj h
    rfl

theorem readNumber_point (hdigits : IsDigits digits) (hrest : ∀ c ∈ rest.head?, isDigit c = false) :
    readNumber negative (whole ++ '.' :: (digits ++ rest)) =
      readExponent negative whole digits rest := by
  have hpoint : ∀ c ∈ ('.' :: (digits ++ rest)).head?, isDigit c = false := by
    rintro _ ⟨⟩
    rfl
  rw [readNumber, hwhole.spanDigits_append hpoint]
  split
  · next h => exact absurd (Prod.mk.inj h).1 hwhole.1
  · next h =>
    obtain ⟨rfl, -⟩ := Prod.mk.inj h
    cases hlead rfl
  · next h =>
    obtain ⟨rfl, hcons⟩ := Prod.mk.inj h
    cases hcons
    obtain ⟨c, t, rfl, -⟩ := hdigits.exists_cons
    rw [hdigits.spanDigits_append hrest]
  · next hno h =>
    obtain ⟨rfl, rfl⟩ := Prod.mk.inj h
    exact (hno _ rfl).elim

end

/-- **Numbers**: a number is read whole, up to what ends it. -/
theorem readNumber_of_isUnsigned {n : Numeral} {t : List Char} (h : n.IsUnsigned t)
    (hrest : EndsNumber rest) : readNumber n.negative (t ++ rest) = finishNumber n rest := by
  obtain ⟨hwhole, hlead, hf, he⟩ := h
  obtain ⟨negative, whole, fraction, x⟩ := n
  have hexponent := readExponent_of_isExponent he hrest negative whole fraction
  have hafter := he.head? hrest
  simp only [List.append_assoc] at hwhole hlead ⊢
  rw [← hexponent]
  cases hf with
  | none => exact readNumber_plain hwhole hlead hafter
  | point hdigits => exact readNumber_point hwhole hlead hdigits fun c hc => (hafter c hc).1

end

/-! ### written numbers -/

/-- Only zero is written with a leading zero. -/
theorem head?_toDigits {n : Nat} (hn : 0 < n) : (Nat.toDigits 10 n).head? ≠ some '0' := by
  by_cases h : n < 10
  · rw [Nat.toDigits_of_lt_base h]
    have hdigit : ∀ k < 10, 0 < k → [Nat.digitChar k].head? ≠ some '0' := by decide
    exact hdigit n h hn
  · have hle : 10 ≤ n := Nat.le_of_not_lt h
    have ih := head?_toDigits (n := n / 10) (by omega)
    rw [Nat.toDigits_of_base_le (by decide) hle, List.head?_append]
    cases hfront : (Nat.toDigits 10 (n / 10)).head? with
    | none => exact absurd (List.head?_eq_none_iff.mp hfront) Nat.toDigits_ne_nil
    | some c => rwa [hfront] at ih

/-- The numeral that a number is written as. -/
def writtenNumeral (n : Nat) : Numeral := ⟨false, Nat.toDigits 10 n, [], none⟩

/-- What reading the digits of a number gives. -/
def writtenNumber (n : Nat) : Reading Number :=
  ⟨Numeral.value ⟨false, Nat.toDigits 10 n, [], none⟩, none⟩

theorem isUnsigned_toDigits (n : Nat) : (writtenNumeral n).IsUnsigned (Nat.toDigits 10 n) := by
  have hdigits : IsDigits (writtenNumeral n).whole :=
    ⟨Nat.toDigits_ne_nil, fun c hc => isDigit_of_mem_toDigits hc⟩
  have hlead : (writtenNumeral n).whole.head? = some '0' → (writtenNumeral n).whole = ['0'] := by
    intro h
    rcases Nat.eq_zero_or_pos n with rfl | hn
    · exact Nat.toDigits_zero 10
    · exact absurd h (head?_toDigits hn)
  have h := Numeral.IsUnsigned.intro hdigits hlead .none .none
  rwa [List.append_nil, List.append_nil] at h

/-- Digits that stay within 64 bits are all taken. -/
theorem foldl_pushWhole {digits : List Char} {n : Nat}
    (h : Nat.ofDigitChars 10 digits n < Nat.pow 2 64) :
    digits.foldl Significand.pushWhole ⟨n, 0, false⟩ =
      ⟨Nat.ofDigitChars 10 digits n, 0, false⟩ := by
  induction digits generalizing n with
  | nil => rfl
  | cons c digits ih =>
    rw [Nat.ofDigitChars_cons] at h ⊢
    have hnext : n * 10 + Text.digitValue c = 10 * n + (c.toNat - '0'.toNat) :=
      congrArg (· + _) (Nat.mul_comm n 10)
    have hfits : Significand.overflows ⟨n, 0, false⟩ c = false := by
      have hle := Text.le_ofDigitChars digits (10 * n + (c.toNat - '0'.toNat))
      have hlt := Nat.lt_of_le_of_lt hle h
      simp only [Significand.overflows, hnext, Bool.false_or]
      exact decide_eq_false (Nat.not_le.mpr hlt)
    rw [List.foldl_cons, Significand.pushWhole, hfits, if_neg (by decide), hnext, ih h]

/-- A number of 64 bits is read as itself. -/
theorem value_writtenNumber {n : Nat} (h : n < Nat.pow 2 64) :
    (writtenNumber n).value = .ok (.natural n) := by
  have hdigits : Nat.ofDigitChars 10 (Nat.toDigits 10 n) 0 = n := Nat.ofDigitChars_ten_toDigits
  have hfold : (Nat.toDigits 10 n).foldl Significand.pushWhole ⟨0, 0, false⟩ = ⟨_, 0, false⟩ :=
    foldl_pushWhole (by rwa [hdigits])
  rw [hdigits] at hfold
  simp [writtenNumber, Numeral.value, hfold]

end FixBatch.Json
