import FixBatch.Proofs.Except
import FixBatch.Settings

/-!
# FixBatch.Proofs.Settings.Section

Sections of settings.  A section takes a table if it takes each of its entries, and what it does to
one setting is what the one key that settles it does: every other key leaves the setting as it is,
and the order of the keys makes no difference.  Sections are fields of the file, so the same holds
of the file and its sections.

* `Section.exists_putTable_iff` — when a table is taken;
* `Section.Reads.putTable` — what the entries of a table do to a setting.
-/

namespace FixBatch.Settings

variable {α β : Type}

/-! ## fields -/

/-- A field that takes a value just in case `p` holds, whatever the settings are. -/
def Field.Takes (f : Field) (v : Toml.Value) (p : Prop) : Prop :=
  ∀ s, (∃ s', f.put s v = .ok s') ↔ p

/-- What a field does to one setting, with its value, before and after. -/
def Field.Moves (f : Field) (place : Settings → α) (R : Toml.Value → α → α → Prop) : Prop :=
  ∀ s v s', f.put s v = .ok s' → R v (place s) (place s')

/-- A field that never changes a setting. -/
def Field.Leaves (f : Field) (place : Settings → α) : Prop :=
  f.Moves place fun _ old new => new = old

/-- What a value that is read in some shape does to the setting that it settles. -/
def Given (shape : Toml.Value → Except Misfit α) (v : Toml.Value) (_ new : α) : Prop :=
  shape v = .ok new

theorem Field.takes_of {name : String} {shape : Toml.Value → Except Misfit α}
    {put : Settings → α → Settings} {v : Toml.Value} {p : Prop}
    (h : (∃ a, shape v = .ok a) ↔ p) : (Field.of name shape put).Takes v p := by
  intro s
  rw [← h]
  simp only [Field.of, map_eq_ok]
  exact ⟨fun ⟨_, a, ha, _⟩ => ⟨a, ha⟩, fun ⟨a, ha⟩ => ⟨put s a, a, ha, rfl⟩⟩

theorem Field.moves_of {name : String} {shape : Toml.Value → Except Misfit α}
    {put : Settings → α → Settings} {place : Settings → α} (h : ∀ s a, place (put s a) = a) :
    (Field.of name shape put).Moves place (Given shape) := by
  intro s v s' hput
  obtain ⟨a, ha, rfl⟩ := map_eq_ok.mp hput
  rw [Given, ha, h]

theorem Field.leaves_of {name : String} {shape : Toml.Value → Except Misfit α}
    {put : Settings → α → Settings} {place : Settings → β} (h : ∀ s a, place (put s a) = place s) :
    (Field.of name shape put).Leaves place := by
  intro s v s' hput
  obtain ⟨a, -, rfl⟩ := map_eq_ok.mp hput
  exact h s a

/-! ## sections -/

namespace Section

variable {sec : Section}

/-- An entry is put where the first field of its name puts it. -/
theorem putEntry_eq_ok {s s' : Settings} {entry : String × Toml.Value} :
    sec.putEntry s entry = .ok s' ↔
      ∃ f, sec.fields.find? (fun f => f.name == entry.1) = some f ∧ f.put s entry.2 = .ok s' := by
  rw [putEntry]
  cases sec.fields.find? fun f => f.name == entry.1 <;> simp

/-- The field that takes an entry has its name. -/
theorem mem_of_putEntry {s s' : Settings} {entry : String × Toml.Value}
    (h : sec.putEntry s entry = .ok s') :
    ∃ f ∈ sec.fields, f.name = entry.1 ∧ f.put s entry.2 = .ok s' := by
  obtain ⟨f, hfind, hput⟩ := putEntry_eq_ok.mp h
  exact ⟨f, List.mem_of_find?_eq_some hfind, by simpa using List.find?_some hfind, hput⟩

/-- An entry is taken if its name is that of a field, and its value one that such fields take. -/
theorem exists_putEntry_iff {entry : String × Toml.Value} {p : Prop}
    (h : ∀ f ∈ sec.fields, f.name = entry.1 → f.Takes entry.2 p) (s : Settings) :
    (∃ s', sec.putEntry s entry = .ok s') ↔ entry.1 ∈ sec.fields.map Field.name ∧ p := by
  constructor
  · rintro ⟨s', hs'⟩
    obtain ⟨f, hf, hname, hput⟩ := mem_of_putEntry hs'
    exact ⟨List.mem_map.mpr ⟨f, hf, hname⟩, (h f hf hname s).mp ⟨s', hput⟩⟩
  · rintro ⟨hname, hp⟩
    obtain ⟨g, hg, hgname⟩ := List.mem_map.mp hname
    obtain ⟨f, hfind⟩ : ∃ f, sec.fields.find? (fun f => f.name == entry.1) = some f :=
      Option.isSome_iff_exists.mp (List.find?_isSome.mpr ⟨g, hg, by simpa using hgname⟩)
    have hfname : f.name = entry.1 := by simpa using List.find?_some hfind
    obtain ⟨s', hput⟩ := (h f (List.mem_of_find?_eq_some hfind) hfname s).mpr hp
    exact ⟨s', putEntry_eq_ok.mpr ⟨f, hfind, hput⟩⟩

/-- **Taking a section**: a table is taken if each of its entries has the name of a field, and a
value that fields of this name take. -/
theorem exists_putTable_iff {entries : Toml.Entries} {P : String → Toml.Value → Prop}
    (h : ∀ f ∈ sec.fields, ∀ v, (f.name, v) ∈ entries → f.Takes v (P f.name v)) (s : Settings) :
    (∃ s', sec.putTable s entries = .ok s') ↔
      ∀ entry ∈ entries, entry.1 ∈ sec.fields.map Field.name ∧ P entry.1 entry.2 := by
  have hperm := List.mergeSort_perm entries fun a b => decide (a.1 ≤ b.1)
  have hentry : ∀ entry ∈ entries.mergeSort fun a b => decide (a.1 ≤ b.1), ∀ s,
      (∃ s', sec.putEntry s entry = .ok s') ↔
        entry.1 ∈ sec.fields.map Field.name ∧ P entry.1 entry.2 := by
    intro entry hmem
    refine exists_putEntry_iff fun f hf hname => ?_
    rw [← hname]
    exact h f hf entry.2 (hname ▸ hperm.mem_iff.mp hmem)
  rw [putTable, exists_foldlM_iff hentry]
  exact forall_congr' fun entry => by rw [hperm.mem_iff]

/-- What the entries of a table do to a setting: the value of one key does what `R` says, and
without such a value the setting stays. -/
def Entered (key : String) (R : Toml.Value → α → α → Prop) (entries : Toml.Entries)
    (old new : α) : Prop :=
  (∀ v, (key, v) ∈ entries → R v old new) ∧ ((∀ v, (key, v) ∉ entries) → new = old)

/-- What a table does to a setting that one of its keys settles. -/
def Inside (key : String) (R : Toml.Value → α → α → Prop) (v : Toml.Value) (old new : α) : Prop :=
  ∀ origin entries, v = .table origin entries → (entries.map Prod.fst).Nodup →
    Entered key R entries old new

/-- A section in which one key moves a setting and all others leave it. -/
def Reads (sec : Section) (key : String) (place : Settings → α)
    (R : Toml.Value → α → α → Prop) : Prop :=
  ∀ f ∈ sec.fields, f.name = key ∧ f.Moves place R ∨ f.name ≠ key ∧ f.Leaves place

section

variable {key : String} {place : Settings → α} {R : Toml.Value → α → α → Prop}

theorem Reads.foldlM (h : sec.Reads key place R) {entries : Toml.Entries} {s s' : Settings}
    (hnodup : (entries.map Prod.fst).Nodup) (hput : entries.foldlM sec.putEntry s = .ok s') :
    Entered key R entries (place s) (place s') := by
  induction entries generalizing s with
  | nil =>
    rw [List.foldlM_nil] at hput
    rw [← Except.ok.inj hput]
    exact ⟨fun v hv => absurd hv List.not_mem_nil, fun _ => rfl⟩
  | cons entry rest ih =>
    rw [List.map_cons, List.nodup_cons] at hnodup
    obtain ⟨hfresh, hnodup⟩ := hnodup
    rw [List.foldlM_cons] at hput
    obtain ⟨next, hnext, hput⟩ := bind_eq_ok.mp hput
    obtain ⟨f, hf, hname, hfput⟩ := mem_of_putEntry hnext
    obtain ⟨hsaid, hunsaid⟩ := ih hnodup hput
    rcases h f hf with ⟨hkey, hmoves⟩ | ⟨hkey, hleaves⟩
    · -- the key does not come again
      have hlater : ∀ v, (key, v) ∉ rest := fun v hv =>
        hfresh (List.mem_map.mpr ⟨(key, v), hv, hkey.symm.trans hname⟩)
      refine ⟨fun v hv => ?_, fun hnone => ?_⟩
      · rcases List.mem_cons.mp hv with rfl | hv
        · rw [hunsaid hlater]
          exact hmoves s v next hfput
        · exact absurd hv (hlater v)
      · have hentry : (key, entry.2) = entry := by rw [← hkey, hname]
        exact absurd List.mem_cons_self (hentry ▸ hnone entry.2)
    · have hsame : place next = place s := hleaves s entry.2 next hfput
      rw [hsame] at hsaid hunsaid
      refine ⟨fun v hv => ?_, fun hnone => ?_⟩
      · rcases List.mem_cons.mp hv with rfl | hv
        · exact absurd hname hkey
        · exact hsaid v hv
      · exact hunsaid fun v hv => hnone v (List.mem_cons_of_mem entry hv)

/-- **One key**: what the entries of a section do to the setting that the key settles. -/
theorem Reads.putTable (h : sec.Reads key place R) {entries : Toml.Entries} {s s' : Settings}
    (hnodup : (entries.map Prod.fst).Nodup) (hput : sec.putTable s entries = .ok s') :
    Entered key R entries (place s) (place s') := by
  have hperm := List.mergeSort_perm entries fun a b => decide (a.1 ≤ b.1)
  obtain ⟨hsaid, hunsaid⟩ := h.foldlM ((hperm.map Prod.fst).nodup_iff.mpr hnodup) hput
  exact ⟨fun v hv => hsaid v (hperm.mem_iff.mpr hv),
    fun hnone => hunsaid fun v hv => hnone v (hperm.mem_iff.mp hv)⟩

theorem Reads.moves_put (h : sec.Reads key place R) (name : String) :
    (Field.mk name sec.put).Moves place (Inside key R) := by
  rintro s _ s' hput origin entries rfl hnodup
  exact h.putTable hnodup hput

end

/-- A section none of whose fields changes a setting does not change it, whatever its value is. -/
theorem leaves_put {place : Settings → α} (h : ∀ f ∈ sec.fields, f.Leaves place) (name : String) :
    (Field.mk name sec.put).Leaves place := by
  have hentry : ∀ entry s s', sec.putEntry s entry = .ok s' → place s' = place s := by
    intro entry s s' hput
    obtain ⟨f, hf, -, hput⟩ := mem_of_putEntry hput
    exact h f hf s entry.2 s' hput
  have hitems : ∀ items s s', sec.putItems s items = .ok s' → place s' = place s :=
    fun items s s' hput => foldlM_leaves (fun item hitem t t' hput =>
      h item.1 (List.of_mem_zip hitem).1 t item.2 t' hput) hput
  intro s v s' hput
  cases v with
  | table origin entries => exact foldlM_leaves (fun entry _ => hentry entry) hput
  | array items => exact hitems items s s' hput
  | tables elements => exact hitems _ s s' hput
  | datetime => exact hentry _ s s' hput
  | text | integer | float | bool => contradiction

end Section

/-- Some sections have three fields. -/
theorem forall_mem_three {P : Field → Prop} {f g h : Field} :
    (∀ f' ∈ [f, g, h], P f') ↔ P f ∧ P g ∧ P h := by
  rw [List.forall_mem_cons, List.forall_mem_cons, List.forall_mem_singleton]

end FixBatch.Settings
