import FixBatch.CommandLine.Request
import FixBatch.Proofs.CommandLine.Flag
import FixBatch.Proofs.Except
import Mathlib.Data.List.Nodup

/-!
# FixBatch.Proofs.CommandLine.Request

What a command line asks for, said flag by flag.  The program takes its flags in one after the
other, and weighs a value in a token of its own only with the flag after it; but which requests come
out of that does not depend on it: every flag has to fit by itself, and none may come twice.

* `Gives` — what a single flag gives;
* `parse_eq_ok_iff` — the requests of command lines;
* `parse_insert_dryRun` — the flag for a dry run, put in or taken out;
* `exists_real_of_dryRun` — what a command line for a dry run asks for without that flag.
-/

namespace FixBatch.CommandLine

/-! ## single flags -/

/-- Whether a value may be given to a flag: only policies have to be known words. -/
def Allowed (flag : Meaning) (value : String) : Prop :=
  flag = .onError → (Settings.policies.lookup value).isSome

/-- The value that a flag brings: its own, or the empty text if it takes none.  Help and the version
are no flags of a request. -/
inductive Brings (g : Given Meaning) : String → Prop where
  | bare (htakes : g.flag.takesValue = false) (hattached : g.attached = none)
      (hhelp : g.flag.meaning ≠ .help) (hversion : g.flag.meaning ≠ .version) : Brings g ""
  | attached {value : String} (htakes : g.flag.takesValue = true)
      (hattached : g.attached = some value) : Brings g value
  | operand {value : String} (htakes : g.flag.takesValue = true) (hattached : g.attached = none)
      (hoperand : g.operand = some value) (hcheck : checkOperand g.flag.meaning value = .ok ()) :
      Brings g value

/-- What a flag gives to a request: its meaning with a value that it brings and may have. -/
structure Gives (g : Given Meaning) (entry : Meaning × String) : Prop where
  meaning_eq : entry.1 = g.flag.meaning
  brings : Brings g entry.2
  allowed : Allowed entry.1 entry.2

namespace Taken

variable {settled s : List (Meaning × String)} {flag : Meaning} {value : String}

theorem lookup_isSome_iff : (settled.lookup flag).isSome = true ↔ flag ∈ settled.map Prod.fst := by
  induction settled with
  | nil => simp
  | cons e settled ih =>
    obtain ⟨f, v⟩ := e
    by_cases h : flag = f
    · simp [h]
    · simp [List.lookup_cons, beq_false_of_ne h, ih, h]

theorem settle_eq_ok : settle settled flag value = .ok s ↔
    flag ∉ settled.map Prod.fst ∧ Allowed flag value ∧ settled ++ [(flag, value)] = s := by
  simp only [settle, lookup_isSome_iff, Allowed]
  by_cases hmem : flag ∈ settled.map Prod.fst
  · simp only [hmem, if_true, not_true, false_and, reduceCtorEq]
  · rw [if_neg hmem]
    by_cases hflag : flag = .onError
    · subst hflag
      cases hlookup : Settings.policies.lookup value <;> simp [hmem]
    · simp [hmem, hflag]

variable {t u : Taken} {g : Given Meaning}

/-- What is taken in brings a value. -/
theorem exists_brings (h : t.add g = .ok u) : ∃ value, Brings g value := by
  obtain ⟨⟨flag, long, short, takes⟩, token, attached, operand⟩ := g
  rcases takes with _ | _ <;> rcases attached with _ | value
  · obtain ⟨settled, -, h⟩ := bind_eq_ok.mp h
    split at h
    · cases h
    · cases h
    · next hhelp hversion => exact ⟨"", .bare rfl rfl hhelp hversion⟩
  · cases h
  · rcases operand with _ | operand
    · obtain ⟨settled, -, h⟩ := bind_eq_ok.mp h
      cases h
    · obtain ⟨settled, -, h⟩ := bind_eq_ok.mp h
      obtain ⟨⟨⟩, hcheck, -⟩ := bind_eq_ok.mp h
      exact ⟨operand, .operand rfl rfl rfl hcheck⟩
  · exact ⟨value, .attached rfl rfl⟩

/-- A flag is taken in, and weighed, after everything before it. -/
theorem add_weighed (h : Brings g value) : (t.add g >>= weighed) =
    t.weighed >>= fun settled => settle settled g.flag.meaning value := by
  cases h with
  | bare htakes hattached hhelp hversion =>
    simp only [add, htakes, hattached, bind_assoc, pure_bind]
    congr 1
    funext settled
    cases settle settled g.flag.meaning "" <;> rfl
  | attached htakes hattached =>
    simp only [add, htakes, hattached, bind_assoc, pure_bind]
    congr 1
    funext settled
    cases settle settled g.flag.meaning value <;> rfl
  | operand htakes hattached hoperand hcheck =>
    simp only [add, htakes, hattached, hoperand, hcheck, bind_assoc, pure_bind]
    rfl

theorem add_weighed_eq_ok : (t.add g >>= weighed) = .ok s ↔
    ∃ settled entry, t.weighed = .ok settled ∧ Gives g entry ∧ entry.1 ∉ settled.map Prod.fst ∧
      settled ++ [entry] = s := by
  constructor
  · intro h
    obtain ⟨u, hadd, -⟩ := bind_eq_ok.mp h
    obtain ⟨value, hbrings⟩ := exists_brings hadd
    rw [add_weighed hbrings] at h
    obtain ⟨settled, hweighed, hsettle⟩ := bind_eq_ok.mp h
    obtain ⟨hmem, hallowed, heq⟩ := settle_eq_ok.mp hsettle
    exact ⟨settled, _, hweighed, ⟨rfl, hbrings, hallowed⟩, hmem, heq⟩
  · rintro ⟨settled, ⟨flag, value⟩, hweighed, ⟨rfl, hbrings, hallowed⟩, hmem, heq⟩
    rw [add_weighed hbrings]
    exact bind_eq_ok.mpr ⟨settled, hweighed, settle_eq_ok.mpr ⟨hmem, hallowed, heq⟩⟩

/-- Flags are taken in when each of them gives something and none comes twice. -/
theorem foldlM_add_eq_ok {gs : List (Given Meaning)} :
    (gs.foldlM add t >>= weighed) = .ok s ↔
      ∃ settled entries, t.weighed = .ok settled ∧ List.Forall₂ Gives gs entries ∧
        (∀ entry ∈ entries, entry.1 ∉ settled.map Prod.fst) ∧ (entries.map Prod.fst).Nodup ∧
          settled ++ entries = s := by
  induction gs generalizing t with
  | nil =>
    rw [List.foldlM_nil, pure_bind]
    simp
  | cons g gs ih =>
    rw [List.foldlM_cons, bind_assoc, bind_eq_ok]
    simp only [ih]
    constructor
    · rintro ⟨u, hadd, settled', entries, hu, hgives, hfresh, hnodup, rfl⟩
      obtain ⟨settled, entry, hweighed, hentry, hmem, rfl⟩ :=
        add_weighed_eq_ok.mp (bind_eq_ok.mpr ⟨u, hadd, hu⟩)
      simp only [List.map_append, List.mem_append, not_or, forall_and] at hfresh
      obtain ⟨hfresh, hne⟩ := hfresh
      refine ⟨settled, entry :: entries, hweighed, .cons hentry hgives,
        List.forall_mem_cons.mpr ⟨hmem, hfresh⟩, ?_, List.append_cons _ _ _⟩
      rw [List.map_cons, List.nodup_cons]
      refine ⟨fun hmem => ?_, hnodup⟩
      obtain ⟨other, hother, heq⟩ := List.mem_map.mp hmem
      exact hne other hother (by simp [heq])
    · rintro ⟨settled, _, hweighed, hgives, hfresh, hnodup, rfl⟩
      obtain ⟨entry, entries, hentry, hrest, rfl⟩ := List.forall₂_cons_left_iff.mp hgives
      obtain ⟨hmem, hfresh⟩ := List.forall_mem_cons.mp hfresh
      rw [List.map_cons, List.nodup_cons] at hnodup
      obtain ⟨u, hadd, hu⟩ := bind_eq_ok.mp
        (add_weighed_eq_ok.mpr ⟨settled, entry, hweighed, hentry, hmem, rfl⟩)
      refine ⟨u, hadd, _, entries, hu, hrest, fun other hother => ?_, hnodup.2,
        (List.append_cons _ _ _).symm⟩
      have hne : other.1 ≠ entry.1 := fun heq =>
        hnodup.1 (heq ▸ List.mem_map_of_mem hother)
      simp [hfresh other hother, hne]

end Taken

/-! ## requests -/

variable {args before after : List String}

/-- **Requests**: a command line asks for something when every flag of it gives something and none
comes twice, and what it asks for is what they give. -/
theorem parse_eq_ok_iff {r : Request} : Request.parse args = .ok r ↔
    ∃ entries, List.Forall₂ Gives (givenFlags programFlags args) entries ∧
      (entries.map Prod.fst).Nodup ∧ r = .of entries (plainTokens programFlags args) := by
  have hparse : Request.parse args =
      ((givenFlags programFlags args).foldlM Taken.add ⟨[], none⟩ >>= Taken.weighed) >>=
        fun entries => .ok (.of entries (plainTokens programFlags args)) := by
    rw [Request.parse, bind_assoc]
    rfl
  have hstart : Taken.weighed ⟨[], none⟩ = .ok [] := rfl
  simp only [hparse, bind_eq_ok (b := r), Taken.foldlM_add_eq_ok, hstart, Except.ok.injEq]
  constructor
  · rintro ⟨_, ⟨_, entries, rfl, hgives, -, hnodup, rfl⟩, rfl⟩
    exact ⟨entries, hgives, hnodup, rfl⟩
  · rintro ⟨entries, hgives, hnodup, rfl⟩
    exact ⟨entries, ⟨[], entries, rfl, hgives, by simp, hnodup, rfl⟩, rfl⟩

/-! ## a flag put in -/

/-- Two lists side by side, cut where the first one is. -/
theorem forall₂_append_iff {α β : Type} {R : α → β → Prop} {l m : List α} {r : List β} :
    List.Forall₂ R (l ++ m) r ↔ ∃ l' m', List.Forall₂ R l l' ∧ List.Forall₂ R m m' ∧
      l' ++ m' = r := by
  constructor
  · intro h
    have htake := List.forall₂_take l.length h
    have hdrop := List.forall₂_drop l.length h
    rw [List.take_left] at htake
    rw [List.drop_left] at hdrop
    exact ⟨_, _, htake, hdrop, List.take_append_drop _ r⟩
  · rintro ⟨l', m', hl, hm, rfl⟩
    exact List.rel_append hl hm

/-- The flag for a dry run, as a command line gives it. -/
def givenDryRun : Given Meaning := ⟨Meaning.dryRun.flag, "--dry-run", none, none⟩

theorem items_dryRun (rest : List String) :
    items programFlags ("--dry-run" :: rest) = .flag givenDryRun :: items programFlags rest := by
  have hcalled : called? programFlags "--dry-run" = some (Meaning.dryRun.flag, none) := rfl
  rw [items.eq_def]
  simp only [hcalled]
  rfl

theorem gives_dryRun_iff {entry : Meaning × String} :
    Gives givenDryRun entry ↔ entry = (.dryRun, "") := by
  obtain ⟨flag, value⟩ := entry
  constructor
  · rintro ⟨rfl, hbrings, -⟩
    cases hbrings with
    | bare => rfl
    | attached htakes => cases htakes
    | operand htakes => cases htakes
  · intro h
    cases h
    exact ⟨rfl, .bare rfl rfl (by decide) (by decide), by rintro ⟨⟩⟩

variable {entries entries' : List (Meaning × String)} {plain : List String}

theorem dryRun_of : (Request.of entries plain).dryRun = false ↔
    Meaning.dryRun ∉ entries.map Prod.fst := by
  rw [← Taken.lookup_isSome_iff, Bool.not_eq_true]
  rfl

/-- The flag for a dry run says that, and nothing else. -/
theorem of_insert_dryRun : Request.of (entries ++ (.dryRun, "") :: entries') plain =
    { Request.of (entries ++ entries') plain with dryRun := true } := by
  have hdry : ((entries ++ (.dryRun, "") :: entries').lookup .dryRun).isSome = true := by
    rw [Taken.lookup_isSome_iff, List.map_append, List.map_cons]
    exact List.mem_append_right _ List.mem_cons_self
  have hlookup (flag : Meaning) (h : flag ≠ .dryRun) :
      (entries ++ (.dryRun, "") :: entries').lookup flag = (entries ++ entries').lookup flag := by
    rw [List.lookup_append, List.lookup_append, List.lookup_cons, beq_false_of_ne h]
  rw [Request.of, Request.of, hdry, hlookup .config (by decide), hlookup .engine (by decide),
    hlookup .onError (by decide), hlookup .legacy (by decide), hlookup .printPlan (by decide),
    hlookup .report (by decide)]

/-- **Dry runs**: where a flag can stand, `--dry-run` may be put in or taken out, and changes
nothing about a request but that it is for a dry run. -/
theorem parse_insert_dryRun (h : IsWhole programFlags before) (after : List String)
    {dry : Request} :
    Request.parse (before ++ "--dry-run" :: after) = .ok dry ↔
      ∃ real, Request.parse (before ++ after) = .ok real ∧ real.dryRun = false ∧
        dry = { real with dryRun := true } := by
  have hgiven : givenFlags programFlags (before ++ "--dry-run" :: after) =
      givenFlags programFlags before ++ givenDryRun :: givenFlags programFlags after := by
    rw [givenFlags, h.items_append, items_dryRun, List.filterMap_append]
    rfl
  have hplain : plainTokens programFlags (before ++ "--dry-run" :: after) =
      plainTokens programFlags (before ++ after) := by
    rw [plainTokens, plainTokens, h.items_append, h.items_append, items_dryRun,
      List.filterMap_append, List.filterMap_append]
    rfl
  have hrest : givenFlags programFlags (before ++ after) =
      givenFlags programFlags before ++ givenFlags programFlags after := by
    rw [givenFlags, h.items_append, List.filterMap_append]
    rfl
  simp only [parse_eq_ok_iff, hgiven, hplain, hrest, forall₂_append_iff]
  constructor
  · rintro ⟨_, ⟨entries, _, hbefore, hafter, rfl⟩, hnodup, rfl⟩
    obtain ⟨entry, entries', hentry, hrest, rfl⟩ := List.forall₂_cons_left_iff.mp hafter
    obtain rfl := gives_dryRun_iff.mp hentry
    rw [List.map_append, List.map_cons, List.nodup_middle, ← List.map_append,
      List.nodup_cons] at hnodup
    exact ⟨_, ⟨_, ⟨entries, entries', hbefore, hrest, rfl⟩, hnodup.2, rfl⟩,
      dryRun_of.mpr hnodup.1, of_insert_dryRun⟩
  · rintro ⟨_, ⟨_, ⟨entries, entries', hbefore, hafter, rfl⟩, hnodup, rfl⟩, hdry, rfl⟩
    refine ⟨_, ⟨entries, _, hbefore, .cons (gives_dryRun_iff.mpr rfl) hafter, rfl⟩, ?_,
      of_insert_dryRun.symm⟩
    rw [List.map_append, List.map_cons, List.nodup_middle, ← List.map_append, List.nodup_cons]
    exact ⟨dryRun_of.mp hdry, hnodup⟩

/-! ## the flag found again -/

/-- A flag of the program is told by its meaning. -/
theorem flag_of_called {token : String} {flag : Flag Meaning} {attached : Option String}
    (h : called? programFlags token = some (flag, attached)) : flag = flag.meaning.flag := by
  obtain ⟨calling, -, hfind, -⟩ := called?_eq_some_iff.mp h
  obtain ⟨meaning, -, rfl⟩ := List.mem_map.mp (List.mem_of_find?_eq_some hfind)
  rfl

/-- The flag for a dry run is called by one token only. -/
theorem eq_dryRun_of_called {token : String}
    (h : called? programFlags token = some (Meaning.dryRun.flag, none)) : token = "--dry-run" := by
  obtain ⟨calling, hcalling, hfind, hvalue⟩ := called?_eq_some_iff.mp h
  have hcalled := List.find?_some hfind
  rcases Calling.eq_of_ofToken? hcalling with
    ⟨name, -, rfl, rfl⟩ | ⟨name, value, -, -, rfl⟩ | ⟨c, -, -, rfl⟩
  · have hname : some Meaning.dryRun.name = some name := eq_of_beq hcalled
    cases hname
    rfl
  · cases hvalue
  · cases hcalled

theorem Brings.attached_eq_none {g : Given Meaning} {value : String} (h : Brings g value)
    (htakes : g.flag.takesValue = false) : g.attached = none := by
  cases h with
  | bare _ hattached => exact hattached
  | attached htakes' => rw [htakes'] at htakes; cases htakes
  | operand htakes' => rw [htakes'] at htakes; cases htakes

/-- **Command lines**: one that asks for a dry run does so by a single `--dry-run`, where a flag can
stand; without it, the command line asks for the same in earnest. -/
theorem exists_real_of_dryRun {dry : Request} (h : Request.parse args = .ok dry)
    (hdry : dry.dryRun = true) : ∃ before after real, IsWhole programFlags before ∧
      args = before ++ "--dry-run" :: after ∧ Request.parse (before ++ after) = .ok real ∧
      real.dryRun = false ∧ dry = { real with dryRun := true } := by
  obtain ⟨entries, hgives, -, hof⟩ := parse_eq_ok_iff.mp h
  have hmem : Meaning.dryRun ∈ entries.map Prod.fst :=
    Taken.lookup_isSome_iff.mp (by rw [hof] at hdry; exact hdry)
  obtain ⟨entry, hentry, hmeaning⟩ := List.mem_map.mp hmem
  obtain ⟨g, hg, hgive⟩ := exists_of_mem_forall₂ hgives hentry
  obtain ⟨before, after, hwhole, rfl, hcalled, hoperand⟩ := exists_isWhole_of_mem_givenFlags hg
  have hflag : g.flag = Meaning.dryRun.flag := by
    rw [flag_of_called hcalled, ← hgive.meaning_eq, hmeaning]
  have htakes : g.flag.takesValue = false := by rw [hflag]; rfl
  rw [hflag, hgive.brings.attached_eq_none htakes] at hcalled
  have htokens : g.tokens = ["--dry-run"] := by
    rw [Given.tokens, eq_dryRun_of_called hcalled, hoperand htakes]
    rfl
  rw [htokens] at h ⊢
  obtain ⟨real, hreal⟩ := (parse_insert_dryRun hwhole after).mp h
  exact ⟨before, after, real, hwhole, rfl, hreal⟩

end FixBatch.CommandLine
