import FixBatch.Plan
import FixBatch.Proofs.Distinct

/-!
# FixBatch.Proofs.Plan.Targets

The targets of a plan and its two views.  Of the targets it is made from a plan keeps those with no
target of the same place before them; its directories and its files part them between them:

* `firstOccurrences_eq_filter` — first occurrences, picked out by their places in the list;
* `countP_firstOccurrences` — every value has exactly one equal among them;
* `Plan.plan_toDraft` — a plan is the plan of what it says;
* `Plan.make_parts` — what a plan keeps, and how its views part it.
-/

namespace FixBatch

/-! ## first occurrences by their places -/

section

variable {α : Type u} [BEq α] [EquivBEq α]

/-- What is found are the values at the places with no equal before them, in the list or among what
was seen. -/
theorem firstOccurrencesAfter_eq_filter (seen l : List α) :
    firstOccurrencesAfter seen l = (l.zipIdx.filter fun p =>
      !(seen.any (· == p.1) || (l.take p.2).any (· == p.1))).map Prod.fst := by
  induction l generalizing seen with
  | nil => rfl
  | cons a l ih =>
    rw [firstOccurrencesAfter, List.zipIdx_cons', List.filter_cons, List.filter_map]
    -- at the places after the head, the head stands before every value
    have htail (seen' : List α)
        (h : ∀ b, seen'.any (· == b) = (seen.any (· == b) || a == b)) :
        firstOccurrencesAfter seen' l = (List.map (Prod.map id (· + 1)) (l.zipIdx.filter
          ((fun p => !(seen.any (· == p.1) || ((a :: l).take p.2).any (· == p.1))) ∘
            Prod.map id (· + 1)))).map Prod.fst := by
      rw [ih, List.map_map]
      congr 2
      funext p
      simp [h, Bool.or_assoc]
    split
    · next ha =>
      rw [if_neg (by simp [ha])]
      refine htail seen fun b => ?_
      cases hab : a == b
      · rw [Bool.or_false]
      · rw [any_beq_of_beq ha hab, Bool.or_true]
    · next ha =>
      rw [if_pos (by simpa using ha), List.map_cons,
        htail (a :: seen) fun b => by rw [List.any_cons, Bool.or_comm]]

theorem firstOccurrences_eq_filter (l : List α) :
    firstOccurrences l =
      (l.zipIdx.filter fun p => !(l.take p.2).any (· == p.1)).map Prod.fst := by
  simpa [firstOccurrences] using firstOccurrencesAfter_eq_filter [] l

/-- Of values of which no two are equal at most one equals a given value. -/
theorem countP_beq_le_one {l : List α} (h : l.Pairwise fun a b => (a == b) = false) (a : α) :
    l.countP (· == a) ≤ 1 := by
  induction l with
  | nil => exact Nat.zero_le 1
  | cons b l ih =>
    obtain ⟨hb, hl⟩ := List.pairwise_cons.mp h
    cases hba : b == a with
    | false =>
      rw [List.countP_cons_of_neg (by simp [hba])]
      exact ih hl
    | true =>
      have hzero : l.countP (· == a) = 0 := List.countP_eq_zero.mpr fun c hc hca => by
        have hbc : (b == c) = true := BEq.trans hba (BEq.symm hca)
        rw [hb c hc] at hbc
        cases hbc
      rw [List.countP_cons, hzero, hba]
      exact Nat.le_refl 1

/-- Every value of a list equals exactly one of its first occurrences. -/
theorem countP_firstOccurrences {l : List α} {a : α} (h : a ∈ l) :
    (firstOccurrences l).countP (· == a) = 1 := by
  have hany : (firstOccurrences l).any (· == a) = true := by
    rw [any_firstOccurrences]
    exact List.any_eq_true.mpr ⟨a, h, BEq.rfl⟩
  have hpos : 0 < (firstOccurrences l).countP (· == a) :=
    List.countP_pos_iff.mpr (List.any_eq_true.mp hany)
  have hle := countP_beq_le_one (pairwise_firstOccurrencesAfter [] l) a
  rw [← firstOccurrences] at hle
  omega

/-- Of values of which no two are equal, those that are equal are one and the same. -/
theorem eq_of_beq_of_pairwise {l : List α} (h : l.Pairwise fun a b => (a == b) = false) {a b : α}
    (ha : a ∈ l) (hb : b ∈ l) (hab : (a == b) = true) : a = b := by
  induction l with
  | nil => cases ha
  | cons c l ih =>
    obtain ⟨hc, hl⟩ := List.pairwise_cons.mp h
    rcases List.mem_cons.mp ha with rfl | hal <;> rcases List.mem_cons.mp hb with rfl | hbl
    · rfl
    · rw [hc b hbl] at hab
      cases hab
    · rw [BEq.comm, hc a hal] at hab
      cases hab
    · exact ih hl hal hbl

end

/-! ## drafts -/

/-- Targets of different places all stay. -/
theorem distinctTargets_eq_self {targets : List Target}
    (h : targets.Pairwise fun s t => (s == t) = false) : distinctTargets targets = targets :=
  toList_ofList_eq_self h

/-- Rules of which none comes twice all stay. -/
theorem Selection.once_eq_self {s : Selection} (h : s.rules.Nodup) : s.once = s := by
  cases s with
  | all => rfl
  | only rules => exact congrArg only (toList_ofList_of_nodup h)
  | allBut rules => exact congrArg allBut (toList_ofList_of_nodup h)

theorem Selection.once_once (s : Selection) : s.once.once = s.once :=
  once_eq_self s.nodup_rules_once

theorem map_once_eq_self {selection : Option Selection} (h : ∀ s ∈ selection, s.rules.Nodup) :
    selection.map Selection.once = selection := by
  cases selection with
  | none => rfl
  | some s => rw [Option.map_some, Selection.once_eq_self (h s rfl)]

namespace Plan

theorem toDraft_injective {p q : Plan} (h : p.toDraft = q.toDraft) : p = q := by
  cases p
  cases q
  cases h
  rfl

/-- A plan is the plan of what it says. -/
theorem plan_toDraft (p : Plan) : p.toDraft.plan = p := by
  refine toDraft_injective ?_
  simp only [Draft.plan, distinctTargets_eq_self p.places_distinct, map_once_eq_self p.rules_nodup]

/-- To leave repetitions out of a draft makes no difference to its plan. -/
theorem plan_once (draft : Draft) :
    Draft.plan ⟨draft.schema, firstOccurrences draft.targets, draft.selection.map Selection.once,
      draft.ignoreTestFiles⟩ = draft.plan := by
  refine toDraft_injective ?_
  have htwice : Selection.once ∘ Selection.once = Selection.once := funext Selection.once_once
  simp only [Draft.plan, distinctTargets, Distinct.ofList_firstOccurrences, Option.map_map, htwice]

end Plan

/-! ## the views of a plan -/

namespace Plan

/-- How a plan keeps the targets that it is made from, and how its views part them. -/
structure Parts (p : Plan) (given : List Target) : Prop where
  /-- Those with none of the same place before them are kept as they stand. -/
  targets_eq : p.targets = (given.zipIdx.filter fun t =>
    !(given.take t.2).any fun u => u.path == t.1.path).map Prod.fst
  directories_eq : p.directories = (p.targets.filter fun t => t.kind == .directory).map Target.path
  files_eq : p.files = (p.targets.filter fun t => t.kind == .file).map Target.path
  /-- Every target is in one of the two views and not in the other. -/
  mem_iff : ∀ t ∈ p.targets, (t.path ∈ p.directories ↔ t.kind = .directory) ∧
    (t.path ∈ p.files ↔ t.kind = .file)
  disjoint : ∀ d ∈ p.directories, ∀ f ∈ p.files, (d == f) = false
  length_eq : p.directories.length + p.files.length = p.targets.length
  /-- The place of every given target is that of exactly one that is kept. -/
  countP_eq : ∀ t ∈ given, p.targets.countP (fun u => u.path == t.path) = 1

variable {p : Plan} {kind : Kind} {path : Path}

theorem mem_pathsOf_iff : path ∈ p.pathsOf kind ↔ ⟨path, kind⟩ ∈ p.targets := by
  constructor
  · intro h
    obtain ⟨t, ht, rfl⟩ := List.mem_map.mp h
    obtain ⟨hmem, hkind⟩ := List.mem_filter.mp ht
    rw [← eq_of_beq hkind]
    exact hmem
  · intro h
    exact List.mem_map.mpr ⟨_, List.mem_filter.mpr ⟨h, BEq.rfl⟩, rfl⟩

theorem length_pathsOf (p : Plan) (kind : Kind) :
    (p.pathsOf kind).length = p.targets.countP fun t => t.kind == kind := by
  rw [pathsOf, List.length_map, ← List.countP_eq_length_filter]

/-- A target that is no directory is a file. -/
theorem length_directories_add_length_files (p : Plan) :
    p.directories.length + p.files.length = p.targets.length := by
  have hfiles : p.targets.countP (fun t => t.kind == .file) =
      p.targets.countP fun t => ¬(t.kind == .directory) = true := by
    refine List.countP_congr fun t _ => ?_
    cases t.kind <;> decide
  rw [directories, files, length_pathsOf, length_pathsOf, hfiles]
  exact (List.length_eq_countP_add_countP _).symm

/-- A target is in the view of its kind only. -/
theorem path_mem_pathsOf_iff {t : Target} (ht : t ∈ p.targets) :
    t.path ∈ p.pathsOf kind ↔ t.kind = kind := by
  rw [mem_pathsOf_iff]
  constructor
  · intro hmem
    have hplace : (t == ⟨t.path, kind⟩) = true := BEq.rfl (a := t.path)
    exact congrArg Target.kind (eq_of_beq_of_pairwise p.places_distinct ht hmem hplace)
  · rintro rfl
    exact ht

/-- The views of a plan have no place in common. -/
theorem directories_files_disjoint {d f : Path} (hd : d ∈ p.directories) (hf : f ∈ p.files) :
    (d == f) = false := by
  rw [directories, mem_pathsOf_iff] at hd
  rw [files, mem_pathsOf_iff] at hf
  refine Bool.eq_false_iff.mpr fun hplace => ?_
  cases eq_of_beq_of_pairwise p.places_distinct hd hf hplace

/-! ## plans that are made -/

variable (given : List Target) (selection : Option Selection) (ignore : Bool)

/-- What a plan keeps it would keep again. -/
theorem make_targets_make :
    make (make given selection ignore).targets selection ignore = make given selection ignore := by
  refine toDraft_injective ?_
  simp only [make, Draft.plan, distinctTargets,
    toList_ofList_eq_self (Distinct.ofList given).pairwise]

/-- **Targets**: whatever targets a plan is made from, it keeps the first of each place as it
stands, its directories and its files part them, and making it again from these changes nothing. -/
theorem make_parts :
    (make given selection ignore).Parts given ∧
      make (make given selection ignore).targets selection ignore =
        make given selection ignore where
  left :=
    { targets_eq := by rw [targets_make, firstOccurrences_eq_filter]; rfl
      directories_eq := rfl
      files_eq := rfl
      mem_iff := fun t ht => ⟨path_mem_pathsOf_iff ht, path_mem_pathsOf_iff ht⟩
      disjoint := fun d hd f hf => directories_files_disjoint hd hf
      length_eq := length_directories_add_length_files _
      countP_eq := fun t ht => by
        rw [targets_make]
        exact countP_firstOccurrences ht }
  right := make_targets_make given selection ignore

/-- A directory comes again as a file with another spelling, and stays the directory it was. -/
example : (make [⟨⟨"a"⟩, .directory⟩, ⟨⟨"b"⟩, .file⟩, ⟨⟨"a/"⟩, .file⟩] none true).targets =
    [⟨⟨"a"⟩, .directory⟩, ⟨⟨"b"⟩, .file⟩] := by
  rw [targets_make]
  decide

end Plan

end FixBatch
