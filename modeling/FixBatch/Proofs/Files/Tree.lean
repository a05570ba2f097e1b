import FixBatch.Files.Tree

/-!
# FixBatch.Proofs.Files.Tree

What a change of a file does and what it leaves alone.

* `changesOnly_of_modify` — nothing changes but the place to which the path of the file leads;
* `walk_put` — the way to a place does not change when a file is put there;
* `hasTaken_of_write` — so what is written can be read;
* `exists_write` — a file that can be read can be given something else to hold.
-/

namespace FixBatch.Files

/-- Nothing has changed but what stands where some path leads, if there is such a path. -/
structure ChangesOnly (path : Option Path) (t t' : Tree) : Prop where
  home_eq : t'.home = t.home
  holding_eq : ∀ place, t'.holding? place ≠ t.holding? place →
    ∃ p arrival, path = some p ∧ t.find p true = .ok arrival ∧ arrival.place = place

namespace Tree

variable {t t' : Tree} {path : Path} {follow : Bool} {links : Nat} {dir : Place}
  {steps : List Step} {arrival : Arrival}

/-! ## what stays -/

theorem changesOnly_self (path : Option Path) (t : Tree) : ChangesOnly path t t :=
  ⟨rfl, fun _ h => absurd rfl h⟩

theorem changesOnly_put (h : t.find path true = .ok arrival) (entry : Entry) :
    ChangesOnly path t (t.put arrival.place entry) where
  home_eq := rfl
  holding_eq place hne := by
    refine ⟨path, arrival, rfl, h, Decidable.byContradiction fun hplace => ?_⟩
    exact hne (holding?_put_of_ne t arrival.place place entry (Ne.symm hplace))

/-- **Changes**: a change of a file leaves everything else as it is. -/
theorem changesOnly_of_modify {change : ByteArray → ByteArray} (h : t.modify path change = .ok t') :
    ChangesOnly path t t' := by
  rw [modify] at h
  split at h
  · cases h
  · cases h
  · cases h
  · next place bytes runs hfind => cases h; exact changesOnly_put hfind _
  · next place hfind => cases h; exact changesOnly_put hfind _
  · cases h; exact changesOnly_self path t

/-! ## what is written -/

/-- Whether a file may be put where a walk ends: nothing stands there, or a file does. -/
def IsVacant : Option Entry → Prop
  | none | some (.file ..) => True
  | some .directory | some (.link _) | some .sink => False

/-- Where a walk ends there is a directory, or what the place holds; and that is a link only if links
are not followed. -/
theorem arrival_of_walk (h : t.walk follow links dir steps = .ok arrival) :
    arrival.entry = some .directory ∨
      arrival.place ≠ [] ∧ t.holding? arrival.place = arrival.entry ∧
        (follow = true → ∀ target, arrival.entry ≠ some (.link target)) := by
  fun_induction Tree.walk t follow links dir steps with
  | case1 => cases h; exact .inl rfl
  | case2 _ _ _ ih | case3 _ _ _ ih | case4 _ _ _ ih => exact ih h
  | case5 => cases h
  | case6 _ _ _ _ _ _ ih => exact ih h
  | case7 =>
    next hlink hlast =>
    cases h
    exact .inr ⟨List.cons_ne_nil _ _, hlink, fun hfollow => by simp [hfollow] at hlast⟩
  | case8 => cases h
  | case9 => next ih => exact ih h
  | case10 =>
    next hlink =>
    cases h
    exact .inr ⟨List.cons_ne_nil _ _, rfl, fun _ => hlink⟩
  | case11 => cases h

/-- Where a walk ends at a vacant place, that place holds what the walk says. -/
theorem holding?_of_walk (h : t.walk follow links dir steps = .ok arrival)
    (hvacant : IsVacant arrival.entry) :
    arrival.place ≠ [] ∧ t.holding? arrival.place = arrival.entry := by
  rcases arrival_of_walk h with hdirectory | ⟨hplace, hentry, -⟩
  · rw [hdirectory] at hvacant
    exact hvacant.elim
  · exact ⟨hplace, hentry⟩

/-- A walk to a vacant place finds the file that was put there. -/
theorem walk_put (h : t.walk follow links dir steps = .ok arrival)
    (hvacant : IsVacant arrival.entry) (bytes : ByteArray) (runs : Bool) :
    (t.put arrival.place (.file bytes runs)).walk follow links dir steps =
      .ok { arrival with entry := some (.file bytes runs) } := by
  -- the way leads through directories and links only, so not through the place itself
  have hplace := holding?_of_walk h hvacant
  have hway (place : Place) (entry : Entry) (hentry : t.holding? place = some entry)
      (hfull : ¬IsVacant (some entry)) :
      (t.put arrival.place (.file bytes runs)).holding? place = some entry := by
    rw [holding?_put_of_ne, hentry]
    rintro rfl
    rw [hplace.2] at hentry
    exact hfull (hentry ▸ hvacant)
  fun_induction Tree.walk t follow links dir steps with
  | case1 => cases h; exact hvacant.elim
  | case2 _ _ _ ih | case3 _ _ _ ih | case4 _ _ _ ih =>
    rw [walk]
    exact ih h
  | case5 => cases h
  | case6 =>
    next hname hdir ih =>
    rw [walk, if_neg hname, hway _ _ hdir id]
    exact ih h
  | case7 => cases h; exact hvacant.elim
  | case8 => cases h
  | case9 =>
    next hname target hlink hlast links ih =>
    rw [walk, if_neg hname, hway _ _ hlink id]
    simp only [hlast]
    exact ih h
  | case10 =>
    next n rest hname hslashes hdir hlink =>
    cases h
    rw [walk, if_neg hname, holding?_put _ _ _ hplace.1]
    exact if_pos hslashes
  | case11 => cases h

/-- A path leads where a walk along its steps ends, in this tree and in any other of its home. -/
theorem find_eq_walk (h : t.find path follow = .ok arrival) (ht' : t'.home = t.home) :
    t'.find path follow =
      t'.walk follow linkLimit (if path.isRooted then [] else t.home) (stepsOf path) := by
  unfold find at h ⊢
  by_cases hnul : path.text.toList.contains '\x00' = true
  · rw [if_pos hnul] at h; cases h
  · by_cases hempty : path.text.isEmpty = true
    · rw [if_neg hnul, if_pos hempty] at h; cases h
    · by_cases hlong : pathLimit < path.text.utf8ByteSize
      · rw [if_neg hnul, if_neg hempty, if_pos hlong] at h; cases h
      · rw [if_neg hnul, if_neg hempty, if_neg hlong, ht']

/-- A single name leads to its place at home, where nothing stands there. -/
theorem find_absent {name : String} (hnul : name.toList.contains '\x00' = false)
    (hempty : name.isEmpty = false) (hlimit : name.utf8ByteSize ≤ nameLimit)
    (hsteps : stepsOf ⟨name⟩ = [.name name]) (hrooted : Path.isRooted ⟨name⟩ = false)
    (habsent : t.holding? (name :: t.home) = none) :
    t.find ⟨name⟩ follow = .ok ⟨name :: t.home, none, false⟩ := by
  have hpath : ¬pathLimit < name.utf8ByteSize :=
    Nat.not_lt.mpr (Nat.le_trans hlimit (by decide))
  rw [find, hnul, hempty, if_neg Bool.false_ne_true, if_neg Bool.false_ne_true, if_neg hpath,
    hrooted, if_neg Bool.false_ne_true, hsteps, walk, if_neg (Nat.not_lt.mpr hlimit), habsent]
  rfl

theorem find_put (h : t.find path follow = .ok arrival) (hvacant : IsVacant arrival.entry)
    (bytes : ByteArray) (runs : Bool) :
    (t.put arrival.place (.file bytes runs)).find path follow =
      .ok { arrival with entry := some (.file bytes runs) } := by
  have hwalk := (find_eq_walk h rfl).symm.trans h
  have hsame : (t.put arrival.place (.file bytes runs)).home = t.home := rfl
  rw [find_eq_walk h hsame]
  exact walk_put hwalk hvacant bytes runs

theorem read_put {place : Place} {entry : Option Entry}
    (h : t.find path true = .ok ⟨place, entry, false⟩) (hvacant : IsVacant entry)
    (bytes : ByteArray) (runs : Bool) :
    (t.put place (.file bytes runs)).read path = .ok bytes := by
  rw [read, find_put h hvacant bytes runs]

/-- Whether a path has taken some bytes: a file holds them, and a sink keeps nothing. -/
def HasTaken (t : Tree) (path : Path) (bytes : ByteArray) : Prop :=
  t.read path = .ok bytes ∨ ∃ place, t.find path true = .ok ⟨place, some .sink, false⟩

/-- **Writing**: what is written can be read. -/
theorem hasTaken_of_write {bytes : ByteArray} (h : t.write path bytes = .ok t') :
    t'.HasTaken path bytes := by
  rw [write, modify] at h
  split at h
  · cases h
  · cases h
  · cases h
  · next place old runs hfind => cases h; exact .inl (read_put hfind trivial bytes runs)
  · next place hfind => cases h; exact .inl (read_put hfind trivial bytes false)
  · next place entry hdirectory hfile hfind =>
    -- neither a directory nor a file, so a sink
    cases h
    have harrival := arrival_of_walk ((find_eq_walk hfind rfl).symm.trans hfind)
    cases entry with
    | directory => exact (hdirectory rfl).elim
    | file bytes runs => exact (hfile _ _ rfl).elim
    | link target => simp at harrival
    | sink => exact .inr ⟨place, hfind⟩

/-! ## what is read -/

/-- Files are what can be read. -/
theorem standing_eq_file_iff :
    (t.standing path).kind = some .file ↔ ∃ bytes, t.read path = .ok bytes := by
  unfold standing read
  cases hfind : t.find path true with
  | error cause => simp [Standing.absent]
  | ok arrival =>
    obtain ⟨place, entry, slash⟩ := arrival
    cases entry with
    | none => simp [Standing.absent]
    | some entry => cases entry <;> cases slash <;> simp [Standing.absent]

/-- A file with something in it has it where its path leads. -/
theorem find_of_read {bytes : ByteArray} (h : t.read path = .ok bytes) (hne : bytes ≠ .empty) :
    ∃ place runs, t.find path true = .ok ⟨place, some (.file bytes runs), false⟩ := by
  unfold read at h
  split at h
  · cases h
  · cases h
  · cases h
  · cases h
  · next place bytes' runs hfind => cases h; exact ⟨place, runs, hfind⟩
  · cases h; exact absurd rfl hne

/-- **Rewriting**: what a file with something in it is given is what it holds then. -/
theorem exists_write {bytes : ByteArray} (h : t.read path = .ok bytes) (hne : bytes ≠ .empty)
    (bytes' : ByteArray) : ∃ t', t.write path bytes' = .ok t' ∧ t'.read path = .ok bytes' := by
  obtain ⟨place, runs, hfind⟩ := find_of_read h hne
  exact ⟨t.put place (.file bytes' runs), by rw [write, modify, hfind],
    read_put hfind trivial bytes' runs⟩

end Tree

end FixBatch.Files
