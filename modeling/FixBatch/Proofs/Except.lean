import Mathlib.Data.List.Forall2

/-!
# FixBatch.Proofs.Except

When a computation that may fail succeeds: all its steps do (`bind_eq_ok`), on every element of a
list (`mapM_eq_ok`, `exists_foldlM_iff`).  It fails as the first step that fails (`bind_eq_error`,
`mapM_eq_error`).
-/

namespace FixBatch

variable {α β γ : Type u} {ε ε' : Type v}

theorem bind_eq_ok {x : Except ε α} {f : α → Except ε β} {b : β} :
    x >>= f = .ok b ↔ ∃ a, x = .ok a ∧ f a = .ok b := by
  cases x with
  | error e => simp [bind, Except.bind]
  | ok a => simp [bind, Except.bind]

theorem bind_eq_error {x : Except ε α} {f : α → Except ε β} {e : ε} :
    x >>= f = .error e ↔ x = .error e ∨ ∃ a, x = .ok a ∧ f a = .error e := by
  cases x with
  | error e' => simp [bind, Except.bind]
  | ok a => simp [bind, Except.bind]

theorem map_eq_ok {x : Except ε α} {f : α → β} {b : β} :
    x.map f = .ok b ↔ ∃ a, x = .ok a ∧ f a = b := by
  cases x <;> simp [Except.map]

theorem map_eq_error {x : Except ε α} {f : α → β} {e : ε} : x.map f = .error e ↔ x = .error e := by
  cases x <;> simp [Except.map]

theorem mapError_eq_ok {x : Except ε α} {f : ε → ε'} {a : α} :
    x.mapError f = .ok a ↔ x = .ok a := by
  cases x <;> simp [Except.mapError]

theorem mapError_eq_error {x : Except ε α} {f : ε → ε'} {e : ε'} :
    x.mapError f = .error e ↔ ∃ e', x = .error e' ∧ f e' = e := by
  cases x <;> simp [Except.mapError]

/-- A list of computations succeeds when each of them does. -/
theorem mapM_eq_ok {f : α → Except ε β} {l : List α} {r : List β} :
    l.mapM f = .ok r ↔ List.Forall₂ (fun a b => f a = .ok b) l r := by
  induction l generalizing r with
  | nil =>
    rw [List.mapM_nil, List.forall₂_nil_left_iff]
    exact ⟨fun h => (Except.ok.inj h).symm, fun h => h ▸ rfl⟩
  | cons a l ih =>
    rw [List.mapM_cons, bind_eq_ok, List.forall₂_cons_left_iff]
    constructor
    · rintro ⟨b, hb, h⟩
      obtain ⟨bs, hbs, h⟩ := bind_eq_ok.mp h
      exact ⟨b, bs, hb, ih.mp hbs, (Except.ok.inj h).symm⟩
    · rintro ⟨b, bs, hb, hbs, rfl⟩
      exact ⟨b, hb, bind_eq_ok.mpr ⟨bs, ih.mpr hbs, rfl⟩⟩

/-- A list of computations fails as the first of them that fails. -/
theorem mapM_eq_error {f : α → Except ε β} {l : List α} {e : ε} :
    l.mapM f = .error e ↔ ∃ before a after, l = before ++ a :: after ∧
      (∀ b ∈ before, ∃ r, f b = .ok r) ∧ f a = .error e := by
  induction l with
  | nil =>
    rw [List.mapM_nil]
    refine ⟨fun h => (by cases h), ?_⟩
    rintro ⟨before, a, after, h, -⟩
    simp at h
  | cons a l ih =>
    rw [List.mapM_cons, bind_eq_error]
    constructor
    · rintro (ha | ⟨b, hb, h⟩)
      · exact ⟨[], a, l, rfl, by simp, ha⟩
      · have hl : l.mapM f = .error e := by
          rcases bind_eq_error.mp h with hl | ⟨bs, -, h⟩
          · exact hl
          · cases h
        obtain ⟨before, c, after, rfl, hbefore, hc⟩ := ih.mp hl
        exact ⟨a :: before, c, after, rfl, List.forall_mem_cons.mpr ⟨⟨b, hb⟩, hbefore⟩, hc⟩
    · rintro ⟨before, c, after, h, hbefore, hc⟩
      cases before with
      | nil =>
        obtain ⟨rfl, -⟩ := List.cons.inj h
        exact .inl hc
      | cons a' before =>
        obtain ⟨rfl, rfl⟩ := List.cons.inj h
        obtain ⟨⟨b, hb⟩, hbefore⟩ := List.forall_mem_cons.mp hbefore
        have hl := ih.mpr ⟨before, c, after, rfl, hbefore, hc⟩
        exact .inr ⟨b, hb, bind_eq_error.mpr (.inl hl)⟩

theorem exists_of_mem_forall₂ {R : α → β → Prop} {l : List α} {r : List β} {b : β}
    (h : List.Forall₂ R l r) (hb : b ∈ r) : ∃ a ∈ l, R a b := by
  induction h with
  | nil => contradiction
  | @cons a c l r ha _ ih =>
    rcases List.mem_cons.mp hb with rfl | hb
    · exact ⟨a, List.mem_cons_self, ha⟩
    · obtain ⟨a', ha', hb⟩ := ih hb
      exact ⟨a', List.mem_cons_of_mem a ha', hb⟩

/-- What a list of computations gives comes from one of them. -/
theorem exists_of_mem_mapM {f : α → Except ε β} {l : List α} {r : List β} {b : β}
    (h : l.mapM f = .ok r) (hb : b ∈ r) : ∃ a ∈ l, f a = .ok b :=
  exists_of_mem_forall₂ (mapM_eq_ok.mp h) hb

/-! ## folds -/

/-- What holds before a fold and is kept by each of its steps holds after it. -/
theorem foldlM_keeps {f : β → α → Except ε β} {l : List α} {b r : β} (P : β → Prop)
    (hstep : ∀ a ∈ l, ∀ b b', P b → f b a = .ok b' → P b') (hb : P b)
    (h : l.foldlM f b = .ok r) : P r := by
  induction l generalizing b with
  | nil =>
    rw [List.foldlM_nil] at h
    rw [← Except.ok.inj h]
    exact hb
  | cons a l ih =>
    rw [List.foldlM_cons] at h
    obtain ⟨hfirst, hrest⟩ := List.forall_mem_cons.mp hstep
    obtain ⟨next, hnext, h⟩ := bind_eq_ok.mp h
    exact ih hrest (hfirst b next hb hnext) h

/-- What none of the steps of a fold changes is the same after it. -/
theorem foldlM_leaves {f : β → α → Except ε β} {g : β → γ} {l : List α} {b r : β}
    (hstep : ∀ a ∈ l, ∀ b b', f b a = .ok b' → g b' = g b) (h : l.foldlM f b = .ok r) :
    g r = g b := by
  have hkeeps : ∀ a ∈ l, ∀ b₁ b₂, g b₁ = g b → f b₁ a = .ok b₂ → g b₂ = g b :=
    fun a ha b₁ b₂ hsame hf => (hstep a ha b₁ b₂ hf).trans hsame
  exact foldlM_keeps (fun b' => g b' = g b) hkeeps rfl h

/-- A fold succeeds when each of its steps does, if that is the same wherever a step starts. -/
theorem exists_foldlM_iff {f : β → α → Except ε β} {P : α → Prop} {l : List α}
    (h : ∀ a ∈ l, ∀ b, (∃ b', f b a = .ok b') ↔ P a) (b : β) :
    (∃ r, l.foldlM f b = .ok r) ↔ ∀ a ∈ l, P a := by
  induction l generalizing b with
  | nil => exact ⟨fun _ => List.forall_mem_nil P, fun _ => ⟨b, rfl⟩⟩
  | cons a l ih =>
    obtain ⟨hfirst, hrest⟩ := List.forall_mem_cons.mp h
    rw [List.forall_mem_cons, ← hfirst b]
    constructor
    · rintro ⟨r, hr⟩
      rw [List.foldlM_cons] at hr
      obtain ⟨next, hnext, hr⟩ := bind_eq_ok.mp hr
      exact ⟨⟨next, hnext⟩, (ih hrest next).mp ⟨r, hr⟩⟩
    · rintro ⟨⟨next, hnext⟩, hl⟩
      obtain ⟨r, hr⟩ := (ih hrest next).mpr hl
      exact ⟨r, by rw [List.foldlM_cons]; exact bind_eq_ok.mpr ⟨next, hnext, hr⟩⟩

end FixBatch
