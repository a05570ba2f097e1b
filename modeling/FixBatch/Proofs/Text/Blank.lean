import FixBatch.Text.Blank

/-!
# FixBatch.Proofs.Text.Blank

Texts between blanks.  A text is *solid* when it is not empty and has no blank at either end, which
is what trimming leaves of a text that is not all blank.  Such a text splits in one way only:

```
s = leading s ++ trim s ++ trailing s
```

* `between_trim` — the three parts of a text make it up again;
* `leading_between`, `trim_between`, `trailing_between` — a solid text between blanks is found
  again, and so are the blanks on both sides of it.
-/

namespace FixBatch.Text

/-! ## blanks -/

@[simp] theorem allBlank_nil : allBlank [] = true := rfl

@[simp] theorem allBlank_cons (c : Char) (s : List Char) :
    allBlank (c :: s) = (isBlank c && allBlank s) := rfl

@[simp] theorem allBlank_append (s t : List Char) :
    allBlank (s ++ t) = (allBlank s && allBlank t) := List.all_append

@[simp] theorem allBlank_reverse (s : List Char) : allBlank s.reverse = allBlank s := by
  simp [allBlank]

theorem isBlank_of_mem {s : List Char} (h : allBlank s = true) {c : Char} (hc : c ∈ s) :
    isBlank c = true := List.all_eq_true.mp h c hc

/-- A text starts with blanks only up to its first character that is no blank. -/
theorem allBlank_leading (s : List Char) : allBlank (leading s) = true := List.all_takeWhile

theorem allBlank_trailing (s : List Char) : allBlank (trailing s) = true := by
  rw [trailing, allBlank_reverse]
  exact allBlank_leading s.reverse

/-! ## one end -/

theorem trimStart_append (h : allBlank a = true) (s : List Char) :
    trimStart (a ++ s) = trimStart s :=
  List.dropWhile_append_of_pos fun _ hc => isBlank_of_mem h hc

theorem trimStart_eq_self {s : List Char} (h : ∀ c ∈ s.head?, isBlank c = false) :
    trimStart s = s := by
  cases s with
  | nil => rfl
  | cons c s => exact List.dropWhile_cons_of_neg (by simp [h c rfl])

theorem leading_append {s : List Char} (ha : allBlank a = true)
    (h : ∀ c ∈ s.head?, isBlank c = false) : leading (a ++ s) = a := by
  rw [leading, List.takeWhile_append_of_pos fun _ hc => isBlank_of_mem ha hc]
  cases s with
  | nil => simp
  | cons c s => rw [List.takeWhile_cons_of_neg (by simp [h c rfl]), List.append_nil]

/-- What trimming leaves at the start is no blank. -/
theorem isBlank_head_trimStart (s : List Char) : ∀ c ∈ (trimStart s).head?, isBlank c = false := by
  intro c hc
  have h := List.head?_dropWhile_not isBlank s
  rw [show (s.dropWhile isBlank).head? = some c from hc] at h
  simpa using h

/-- A text whose last character is no blank ends with none. -/
theorem trailing_eq_nil {s : List Char} (h : ∀ c ∈ s.getLast?, isBlank c = false) :
    trailing s = [] := by
  have hleading : leading ([] ++ s.reverse) = [] :=
    leading_append allBlank_nil (by rwa [List.head?_reverse])
  rw [trailing, List.reverse_eq_nil_iff]
  exact hleading

/-! ## solid texts -/

/-- A text that is not empty and neither starts nor ends with a blank. -/
structure Solid (s : List Char) : Prop where
  ne_nil : s ≠ []
  head : ∀ c ∈ s.head?, isBlank c = false
  last : ∀ c ∈ s.getLast?, isBlank c = false

theorem Solid.reverse {s : List Char} (h : Solid s) : Solid s.reverse where
  ne_nil := by simpa using h.ne_nil
  head := by simpa using h.last
  last := by simpa using h.head

/-- A text that starts with a solid one starts with its first character. -/
theorem Solid.head_append {s : List Char} (h : Solid s) (t : List Char) :
    ∀ c ∈ (s ++ t).head?, isBlank c = false := by
  rw [List.head?_append, List.head?_eq_some_head h.ne_nil, Option.some_or,
    ← List.head?_eq_some_head h.ne_nil]
  exact h.head

theorem Solid.trim {s : List Char} (h : Solid s) : trim s = s := by
  rw [Text.trim, trimStart_eq_self h.head, trimEnd, trimStart_eq_self h.reverse.head,
    List.reverse_reverse]

/-- Trimming leaves a solid text, if anything. -/
theorem solid_trim {s : List Char} (h : trim s ≠ []) : Solid (trim s) where
  ne_nil := h
  head := by
    intro c hc
    have hsplit : trim s ++ trailing (trimStart s) = trimStart s := trimEnd_append_trailing _
    have hhead : (trimStart s).head? = some c := by
      rw [← hsplit, List.head?_append, show (trim s).head? = some c from hc, Option.some_or]
    exact isBlank_head_trimStart s c hhead
  last := by
    intro c hc
    rw [trim, trimEnd, List.getLast?_reverse] at hc
    exact isBlank_head_trimStart _ c hc

/-- Solid texts are those of which trimming leaves all. -/
theorem solid_iff {s : List Char} : Solid s ↔ s ≠ [] ∧ trim s = s := by
  refine ⟨fun h => ⟨h.ne_nil, h.trim⟩, fun ⟨hne, htrim⟩ => ?_⟩
  rw [← htrim] at hne ⊢
  exact solid_trim hne

instance : DecidablePred Solid := fun _ => decidable_of_iff _ solid_iff.symm

/-! ## between blanks -/

theorem leading_between {a s : List Char} (ha : allBlank a = true) (hs : Solid s)
    (b : List Char) : leading (a ++ s ++ b) = a := by
  rw [List.append_assoc]
  exact leading_append ha (hs.head_append b)

theorem trailing_between {s b : List Char} (a : List Char) (hs : Solid s)
    (hb : allBlank b = true) : trailing (a ++ s ++ b) = b := by
  have h := leading_between (a := b.reverse) (by simpa using hb) hs.reverse a.reverse
  rw [trailing, List.reverse_append, List.reverse_append, ← List.append_assoc, h,
    List.reverse_reverse]

theorem trim_between {a s b : List Char} (ha : allBlank a = true) (hs : Solid s)
    (hb : allBlank b = true) : trim (a ++ s ++ b) = s := by
  have hrev : (s ++ b).reverse = b.reverse ++ s.reverse := List.reverse_append
  rw [trim, List.append_assoc, trimStart_append ha, trimStart_eq_self (hs.head_append b), trimEnd,
    hrev, trimStart_append (by simpa using hb), trimStart_eq_self hs.reverse.head,
    List.reverse_reverse]

/-- **Between blanks**: a text that is not all blank is its leading blanks, what trimming leaves of
it, and its trailing blanks. -/
theorem between_trim {s : List Char} (h : trim s ≠ []) :
    leading s ++ trim s ++ trailing s = s := by
  have hsplit : leading s ++ trim s ++ trailing (trimStart s) = s := by
    rw [List.append_assoc, trim, trimEnd_append_trailing, leading_append_trimStart]
  have htrail : trailing s = trailing (trimStart s) := by
    have hb := trailing_between (leading s) (solid_trim h) (allBlank_trailing (trimStart s))
    rwa [hsplit] at hb
  rw [htrail, hsplit]

/-- A blank after a text is the last of its trailing blanks. -/
theorem trailing_concat {c : Char} (h : isBlank c = true) (s : List Char) :
    trailing (s ++ [c]) = trailing s ++ [c] := by
  rw [trailing, List.reverse_concat, leading, List.takeWhile_cons_of_pos h, List.reverse_cons,
    ← leading, ← trailing]

/-- Trimming only takes away. -/
theorem mem_of_mem_trim {s : List Char} {c : Char} (h : c ∈ trim s) : c ∈ s := by
  have hstart : c ∈ trimStart s := by
    rw [← trimEnd_append_trailing (trimStart s)]
    exact List.mem_append_left _ h
  rw [← leading_append_trimStart s]
  exact List.mem_append_right _ hstart

/-- A blank before a text is trimmed away. -/
theorem trim_cons_of_isBlank {c : Char} (h : isBlank c = true) (s : List Char) :
    trim (c :: s) = trim s := by
  rw [trim, trim, ← List.singleton_append, trimStart_append (by simpa using h)]

end FixBatch.Text
