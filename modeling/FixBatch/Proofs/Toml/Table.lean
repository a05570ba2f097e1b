import FixBatch.Toml.Table
import Mathlib.Data.List.Nodup

/-!
# FixBatch.Proofs.Toml.Table

What holds of every table that is built up by headers and dotted keys: no key stands twice in it or
in any table under it, and no array of tables under it is empty.  Whatever is done to a proper table
leaves a proper one, if it is done at all:

* `Entries.Keeps.descend` — doing it at the end of the path of a header;
* `Entries.keeps_openTable`, `Entries.keeps_openElement` — opening what a header names;
* `Entries.keeps_add` — giving a dotted key a value.
-/

namespace FixBatch.Toml

/-! ## proper values -/

/-- A value in which no table holds a key twice and no array of tables is empty. -/
inductive Value.Proper : Value → Prop
  | text : Proper (.text s)
  | integer : Proper (.integer i)
  | float : Proper (.float x)
  | bool : Proper (.bool b)
  | datetime : Proper .datetime
  | array : (∀ v ∈ items, Proper v) → Proper (.array items)
  | tables : elements ≠ [] → (∀ e ∈ elements, (e.map Prod.fst).Nodup) →
      (∀ e ∈ elements, ∀ entry ∈ e, Proper entry.2) → Proper (.tables elements)
  | table : (entries.map Prod.fst).Nodup → (∀ entry ∈ entries, Proper entry.2) →
      Proper (.table origin entries)

namespace Entries

/-- A table that holds no key twice and nothing but proper values. -/
structure Proper (entries : Entries) : Prop where
  nodup : (entries.map Prod.fst).Nodup
  values : ∀ entry ∈ entries, entry.2.Proper

theorem proper_nil : Proper [] := ⟨List.nodup_nil, fun _ h => nomatch h⟩

end Entries

theorem Value.proper_table_iff {origin : Origin} {entries : Entries} :
    (Value.table origin entries).Proper ↔ entries.Proper := by
  constructor
  · rintro (_ | _ | _ | _ | _ | _ | _ | ⟨hnodup, hvalues⟩)
    exact ⟨hnodup, hvalues⟩
  · exact fun h => .table h.nodup h.values

theorem Value.proper_tables_iff {elements : List Entries} :
    (Value.tables elements).Proper ↔ elements ≠ [] ∧ ∀ e ∈ elements, Entries.Proper e := by
  constructor
  · rintro (_ | _ | _ | _ | _ | _ | ⟨hne, hnodup, hvalues⟩)
    exact ⟨hne, fun e he => ⟨hnodup e he, hvalues e he⟩⟩
  · exact fun ⟨hne, h⟩ => .tables hne (fun e he => (h e he).nodup) fun e he => (h e he).values

/-! ## keys and their values -/

namespace Entries

theorem mem_of_lookup {entries : Entries} {key : String} {v : Value}
    (h : entries.lookup key = some v) : (key, v) ∈ entries := by
  obtain ⟨before, after, rfl, -⟩ := List.lookup_eq_some_iff.mp h
  simp

theorem not_mem_keys_of_lookup {entries : Entries} {key : String}
    (h : entries.lookup key = none) : key ∉ entries.map Prod.fst := by
  intro hmem
  obtain ⟨e, he, rfl⟩ := List.mem_map.mp hmem
  simpa using List.lookup_eq_none_iff.mp h e he

theorem Proper.lookup {entries : Entries} {key : String} {v : Value} (h : entries.Proper)
    (hlookup : entries.lookup key = some v) : v.Proper :=
  h.values _ (mem_of_lookup hlookup)

theorem Proper.inner {entries inner : Entries} {key : String} {origin : Origin}
    (h : entries.Proper) (hlookup : entries.lookup key = some (.table origin inner)) :
    inner.Proper :=
  Value.proper_table_iff.mp (h.lookup hlookup)

theorem Proper.elements {entries : Entries} {elements : List Entries} {key : String}
    (h : entries.Proper) (hlookup : entries.lookup key = some (.tables elements)) :
    ∀ e ∈ elements, Entries.Proper e :=
  (Value.proper_tables_iff.mp (h.lookup hlookup)).2

/-- A key that is given a value keeps its place, or is a new last one. -/
theorem map_fst_set (entries : Entries) (key : String) (v : Value) :
    (entries.set key v).map Prod.fst =
      if (entries.lookup key).isSome then entries.map Prod.fst
      else entries.map Prod.fst ++ [key] := by
  rw [set]
  split
  · rw [List.map_map]
    refine List.map_congr_left fun e _ => ?_
    by_cases he : e.1 = key <;> simp [he]
  · rw [List.map_append, List.map_singleton]

/-- **Giving a value**: a proper value for a key of a proper table. -/
theorem Proper.set {entries : Entries} {v : Value} (h : entries.Proper) (hv : v.Proper)
    (key : String) : (entries.set key v).Proper := by
  constructor
  · rw [map_fst_set]
    split
    · exact h.nodup
    · next hnone =>
      have hfresh : key ∉ entries.map Prod.fst :=
        not_mem_keys_of_lookup (Option.not_isSome_iff_eq_none.mp hnone)
      exact (List.perm_append_singleton key _).nodup_iff.mpr
        (List.nodup_cons.mpr ⟨hfresh, h.nodup⟩)
  · intro e he
    rw [Entries.set] at he
    split at he
    · obtain ⟨e', he', rfl⟩ := List.mem_map.mp he
      split
      · exact hv
      · exact h.values e' he'
    · rcases List.mem_append.mp he with he | he
      · exact h.values e he
      · rw [List.mem_singleton.mp he]
        exact hv

theorem Proper.setTable {entries inner : Entries} (h : entries.Proper) (hinner : inner.Proper)
    (key : String) (origin : Origin) : (entries.set key (.table origin inner)).Proper :=
  h.set (Value.proper_table_iff.mpr hinner) key

theorem Proper.setTables {entries last : Entries} {before : List Entries} (h : entries.Proper)
    (hlast : last.Proper) (hbefore : ∀ e ∈ before, Entries.Proper e) (key : String) :
    (entries.set key (.tables (last :: before))).Proper :=
  h.set (Value.proper_tables_iff.mpr
    ⟨List.cons_ne_nil last before, List.forall_mem_cons.mpr ⟨hlast, hbefore⟩⟩) key

/-! ## headers and dotted keys -/

/-- What leaves proper tables proper, where it does anything. -/
def Keeps (f : Entries → Option Entries) : Prop :=
  ∀ entries entries', entries.Proper → f entries = some entries' → entries'.Proper

section

variable {f : Entries → Option Entries} {entries entries' : Entries} {key : String}
variable (hf : Keeps f) (h : entries.Proper)

include hf h

/-- Doing it to a table under a key. -/
theorem Keeps.inTable {inner : Entries} {origin : Origin} (hinner : inner.Proper)
    (hdone : (do return entries.set key (.table origin (← f inner))) = some entries') :
    entries'.Proper := by
  obtain ⟨inner', hinner', hset⟩ := Option.bind_eq_some_iff.mp hdone
  rw [← Option.some.inj hset]
  exact h.setTable (hf inner inner' hinner hinner') key origin

/-- Doing it to the last element of an array of tables under a key. -/
theorem Keeps.inLast {last : Entries} {before : List Entries}
    (hlookup : entries.lookup key = some (.tables (last :: before)))
    (hdone : (do return entries.set key (.tables ((← f last) :: before))) = some entries') :
    entries'.Proper := by
  obtain ⟨hlast, hbefore⟩ := List.forall_mem_cons.mp (h.elements hlookup)
  obtain ⟨last', hlast', hset⟩ := Option.bind_eq_some_iff.mp hdone
  rw [← Option.some.inj hset]
  exact h.setTables (hf last last' hlast hlast') hbefore key

end

theorem Keeps.descend {f : Entries → Option Entries} (hf : Keeps f) (path : List String) :
    Keeps (descend f path) := by
  induction path with
  | nil => exact hf
  | cons key path ih =>
    intro entries entries' h hdone
    rw [Entries.descend] at hdone
    split at hdone
    · exact ih.inTable h proper_nil hdone
    · contradiction
    · next hlookup => exact ih.inTable h (h.inner hlookup) hdone
    · next hlookup => exact ih.inLast h hlookup hdone
    · contradiction

theorem keeps_openTable (path : List String) (key : String) : Keeps (openTable path key) := by
  refine Keeps.descend (fun entries entries' h hdone => ?_) path
  split at hdone
  · rw [← Option.some.inj hdone]
    exact h.setTable proper_nil key .header
  · next hlookup =>
    rw [← Option.some.inj hdone]
    exact h.setTable (h.inner hlookup) key .header
  · contradiction

theorem keeps_openElement (path : List String) (key : String) : Keeps (openElement path key) := by
  refine Keeps.descend (fun entries entries' h hdone => ?_) path
  split at hdone
  · rw [← Option.some.inj hdone]
    exact h.setTables proper_nil (List.forall_mem_nil _) key
  · next hlookup =>
    rw [← Option.some.inj hdone]
    exact h.setTables proper_nil (h.elements hlookup) key
  · contradiction

theorem keeps_add {v : Value} (hv : v.Proper) (key : String) (path : List String) :
    Keeps (add v key path) := by
  induction path with
  | nil =>
    intro entries entries' h hdone
    rw [add] at hdone
    split at hdone
    · contradiction
    · rw [← Option.some.inj hdone]
      exact h.set hv key
  | cons step path ih =>
    intro entries entries' h hdone
    rw [add] at hdone
    split at hdone
    · exact ih.inTable h proper_nil hdone
    · next hlookup => exact ih.inTable h (h.inner hlookup) hdone
    · next hlookup =>
      split at hdone
      · contradiction
      · exact ih.inTable h (h.inner hlookup) hdone
    · next hlookup =>
      split at hdone
      · contradiction
      · exact ih.inLast h hlookup hdone
    · contradiction

end Entries

end FixBatch.Toml
