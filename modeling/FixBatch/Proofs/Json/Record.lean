import FixBatch.Proofs.Json.Decode
import Mathlib.Data.List.Perm.Basic

/-!
# FixBatch.Proofs.Json.Record

Records, read member by member.  The order of an object's members does not matter, and what it holds
beside the fields of a record is passed over:

* `Doc.IsObjectOf` — an object of some members, in any order and beside any others;
* `Record.Admits` — what a record asks of the members that are its fields;
* `Record.Admits.read` — an object of such members gives the record all of them, and no other;
* `Record.Admits.get`, `Record.Admits.getD` — a field by its name.
-/

namespace FixBatch.Json

variable {α : Type}

/-! ## members -/

theorem map_fst_docsOf (ms : List (String × Value)) :
    (docsOf ms).map Prod.fst = ms.map Prod.fst := by
  rw [docsOf, List.map_map]
  rfl

theorem docsOf_filter (keep : String → Bool) (ms : List (String × Value)) :
    docsOf (ms.filter fun m => keep m.1) = (docsOf ms).filter fun m => keep m.1 := by
  rw [docsOf, docsOf, List.filter_map]
  rfl

/-- Without a fault in the items there is none in any of them. -/
theorem scan_of_mem_items {ds : List Doc} (h : (Items.ofList ds).scan = none) :
    ∀ d ∈ ds, d.scan = none := by
  induction ds with
  | nil => nofun
  | cons d ds ih =>
    rw [Items.ofList, Items.scan, Option.or_eq_none_iff] at h
    exact List.forall_mem_cons.mpr ⟨h.1, ih h.2⟩

theorem scan_of_mem_members {ms : List (String × Doc)} (h : (Members.ofList ms).scan = none) :
    ∀ m ∈ ms, m.2.scan = none := by
  induction ms with
  | nil => nofun
  | cons m ms ih =>
    rw [Members.ofList, Members.scan, Option.or_eq_none_iff, Option.or_eq_none_iff] at h
    exact List.forall_mem_cons.mpr ⟨h.2.1, ih h.2.2⟩

/-! ## members beside others -/

/-- An object of some members, in any order, and of any others that have none of some names. -/
def Doc.IsObjectOf (names : List String) (own : List (String × Doc)) (d : Doc) : Prop :=
  ∃ ms others, d = .object (.ofList ms) ∧ ms.Perm (own ++ others) ∧ ∀ m ∈ others, m.1 ∉ names

/-- Members, and what stays of them when those go that have none of some names; no fault goes with
them. -/
inductive Sifted (names : List String) : List (String × Doc) → List (String × Doc) → Prop
  | nil : Sifted names [] []
  | keep {k : String} {d : Doc} {ms kept : List (String × Doc)} (hk : k ∈ names)
      (h : Sifted names ms kept) : Sifted names ((k, d) :: ms) ((k, d) :: kept)
  | pass {k : String} {d : Doc} {ms kept : List (String × Doc)} (hk : k ∉ names)
      (hd : d.scan = none) (h : Sifted names ms kept) : Sifted names ((k, d) :: ms) kept

section

variable {names : List String} {ms own : List (String × Doc)} {d : Doc}

theorem sifted_filter (hscan : ∀ m ∈ ms, m.2.scan = none) :
    Sifted names ms (ms.filter fun m => names.contains m.1) := by
  induction ms with
  | nil => exact .nil
  | cons m ms ih =>
    obtain ⟨hfirst, hrest⟩ := List.forall_mem_cons.mp hscan
    by_cases hk : m.1 ∈ names
    · rw [List.filter_cons_of_pos (by simpa using hk)]
      exact .keep hk (ih hrest)
    · rw [List.filter_cons_of_neg (by simpa using hk)]
      exact .pass hk hfirst (ih hrest)

/-- Of an object of some members those members stay. -/
theorem Doc.IsObjectOf.exists_sifted (h : d.IsObjectOf names own) (hown : ∀ m ∈ own, m.1 ∈ names)
    (hscan : d.scan = none) :
    ∃ ms kept, d = .object (.ofList ms) ∧ Sifted names ms kept ∧ kept.Perm own := by
  obtain ⟨ms, others, rfl, hperm, hothers⟩ := h
  refine ⟨ms, _, rfl, sifted_filter (scan_of_mem_members hscan), ?_⟩
  have hself : (own.filter fun m => names.contains m.1) = own :=
    List.filter_eq_self.mpr (by simpa using hown)
  have hnone : (others.filter fun m => names.contains m.1) = [] :=
    List.filter_eq_nil_iff.mpr (by simpa using hothers)
  have hfilter := hperm.filter fun m => names.contains m.1
  rwa [List.filter_append, hself, hnone, List.append_nil] at hfilter

/-- Without a fault in an object there is none in its members. -/
theorem Doc.IsObjectOf.scan (h : d.IsObjectOf names own) (hscan : d.scan = none) :
    ∀ m ∈ own, m.2.scan = none := by
  obtain ⟨ms, others, rfl, hperm, -⟩ := h
  exact fun m hm =>
    scan_of_mem_members hscan m (hperm.mem_iff.mpr (List.mem_append_left others hm))

/-- An object that is written is one of its members. -/
theorem isObjectOf_doc (names : List String) (ms : List (String × Value)) :
    (Value.object ms).doc.IsObjectOf names (docsOf ms) :=
  ⟨docsOf ms, [], by rw [Value.doc, memberDocs_eq_ofList], by rw [List.append_nil], nofun⟩

end

/-! ## records -/

namespace Record

/-- The names of a record's fields. -/
def names (r : Record) : List String := r.fields.map Field.name

/-- One of a record's fields takes a member: it has the name, and the document passes its check. -/
def Takes (r : Record) (m : String × Doc) : Prop :=
  ∃ f ∈ r.fields, f.name = m.1 ∧ f.check m.2 = .ok ()

/-- Members are what a record asks for: no key twice, only members that some field takes, and all
fields that are needed. -/
structure Admits (r : Record) (own : List (String × Doc)) : Prop where
  names : r.names.Nodup
  keys : (own.map Prod.fst).Nodup
  takes : ∀ m ∈ own, r.Takes m
  complete : ∀ f ∈ r.fields, f.needed = true → f.name ∈ own.map Prod.fst

variable {r : Record} {ms kept own : List (String × Doc)} {k : String} {d : Doc} {found : Found}

/-- A field takes what its decoder decodes. -/
theorem takes_of {decoder : Decoder α} {a : α} (hf : .of k decoder ∈ r.fields)
    (hd : decoder d = .ok a) : r.Takes (k, d) :=
  ⟨_, hf, rfl, by simp [Field.of, hd, Except.map]⟩

theorem takes_optional {decoder : Decoder α} {a : α}
    (hf : Field.optional (.of k decoder) ∈ r.fields) (hd : decoder d = .ok a) : r.Takes (k, d) :=
  ⟨_, hf, rfl, by simp [Field.optional, Field.of, hd, Except.map]⟩

theorem Takes.mem_names {m : String × Doc} (h : r.Takes m) : m.1 ∈ r.names := by
  obtain ⟨f, hf, hname, -⟩ := h
  exact hname ▸ List.mem_map_of_mem hf

/-! ### gathering -/

/-- A member that no field has the name of is passed over. -/
theorem readMembers_other (hk : k ∉ r.names) (hd : d.scan = none) (found : Found)
    (rest : Members) :
    readMembers r.fields found (.member (writtenText k) d rest) =
      readMembers r.fields found rest := by
  have hfind : (r.fields.find? fun f => f.name.toList == k.toList) = none := by
    refine List.find?_eq_none.mpr fun f hf hname => hk ?_
    rw [beq_iff_eq, String.toList_inj] at hname
    exact hname ▸ List.mem_map_of_mem hf
  simp only [readMembers, get_writtenText, hfind, hd, noFault, bind, Except.bind]

/-- What is passed over leaves no trace. -/
theorem readMembers_sifted (h : Sifted r.names ms kept) (found : Found) :
    readMembers r.fields found (.ofList ms) = readMembers r.fields found (.ofList kept) := by
  induction h generalizing found with
  | nil => rfl
  | keep _ _ ih => simp only [Members.ofList, readMembers, ih]
  | pass hk hd _ ih => rw [Members.ofList, readMembers_other hk hd, ih]

/-- A member that is new and passes its check is gathered. -/
theorem readMembers_member (hnames : r.names.Nodup) (htakes : r.Takes (k, d))
    (hnew : k ∉ found.map Prod.fst) (rest : Members) :
    readMembers r.fields found (.member (writtenText k) d rest) =
      readMembers r.fields ((k, d) :: found) rest := by
  obtain ⟨f, hf, rfl, hcheck⟩ := htakes
  have hfind := find?_of_nodup_names hnames hf
  have hlookup := lookup_of_not_mem hnew
  simp [readMembers, get_writtenText, hfind, hlookup, hcheck, bind, Except.bind]

/-- Members with new keys are gathered one after the other, the last one first. -/
theorem readMembers_ofList (hnames : r.names.Nodup) (hkeys : (own.map Prod.fst).Nodup)
    (htakes : ∀ m ∈ own, r.Takes m) (hnew : ∀ m ∈ own, m.1 ∉ found.map Prod.fst) :
    readMembers r.fields found (.ofList own) = .ok (own.reverse ++ found) := by
  induction own generalizing found with
  | nil => rfl
  | cons m own ih =>
    obtain ⟨k, d⟩ := m
    obtain ⟨hk, hkeys⟩ := List.nodup_cons.mp hkeys
    obtain ⟨hfirst, hrest⟩ := List.forall_mem_cons.mp htakes
    have hnext : ∀ m ∈ own, m.1 ∉ ((k, d) :: found).map Prod.fst := fun m hm h => by
      rcases List.mem_cons.mp h with heq | h
      · exact hk (heq ▸ List.mem_map_of_mem hm)
      · exact hnew m (List.mem_cons_of_mem _ hm) h
    rw [Members.ofList, readMembers_member hnames hfirst (hnew _ List.mem_cons_self),
      ih hkeys hrest hnext]
    simp

/-! ### fields -/

/-- The order of members does not matter. -/
theorem Admits.perm (h : r.Admits own) (hperm : kept.Perm own) : r.Admits kept where
  names := h.names
  keys := (hperm.map Prod.fst).nodup_iff.mpr h.keys
  takes m hm := h.takes m (hperm.mem_iff.mp hm)
  complete f hf hneeded := (hperm.map Prod.fst).mem_iff.mpr (h.complete f hf hneeded)

/-- Under each of its keys an object gives the document that stands there. -/
theorem Admits.lookup (h : r.Admits own) (hfound : found.Perm own) (hmem : (k, d) ∈ own) :
    found.lookup k = some d :=
  lookup_of_mem ((hfound.map Prod.fst).nodup_iff.mpr h.keys) (hfound.mem_iff.mpr hmem)

/-- **Records**: an object of members that a record asks for gives it all of them, whatever their
order is and whatever else the object holds. -/
theorem Admits.read (h : r.Admits own) (hd : d.IsObjectOf r.names own) (hscan : d.scan = none) :
    ∃ found, found.Perm own ∧ r.read d = .ok found := by
  obtain ⟨ms, kept, rfl, hsifted, hperm⟩ :=
    hd.exists_sifted (fun m hm => (h.takes m hm).mem_names) hscan
  have hkept := h.perm hperm
  have hfound : kept.reverse.Perm own := (List.reverse_perm kept).trans hperm
  have hgathered : readMembers r.fields [] (.ofList ms) = .ok kept.reverse := by
    rw [readMembers_sifted hsifted,
      readMembers_ofList hkept.names hkept.keys hkept.takes fun _ _ => List.not_mem_nil,
      List.append_nil]
  have hmissing : missing? r.fields kept.reverse = none := by
    refine List.find?_eq_none.mpr fun f hf habsent => ?_
    rw [Bool.and_eq_true] at habsent
    obtain ⟨⟨k, d⟩, hmem, rfl⟩ := List.mem_map.mp (h.complete f hf habsent.1)
    rw [h.lookup hfound hmem] at habsent
    exact nomatch habsent.2
  refine ⟨kept.reverse, hfound, ?_⟩
  simp [Record.read, hgathered, hmissing, bind, Except.bind, pure, Except.pure]

/-- An object that is written gives a record its members. -/
theorem Admits.read_doc {ms : List (String × Value)} (h : r.Admits (docsOf ms)) :
    ∃ found, found.Perm (docsOf ms) ∧ r.read (Value.object ms).doc = .ok found :=
  h.read (isObjectOf_doc r.names ms) (scan_doc (.object ms))

/-- The value under a key, if it decodes. -/
theorem Admits.get (h : r.Admits own) (hfound : found.Perm own) (hmem : (k, d) ∈ own)
    {decoder : Decoder α} {a : α} (hd : decoder d = .ok a) : found.get k decoder = .ok a := by
  rw [Found.get, h.lookup hfound hmem]
  exact hd

theorem Admits.getD (h : r.Admits own) (hfound : found.Perm own) (hmem : (k, d) ∈ own)
    {decoder : Decoder α} {a : α} (hd : decoder d = .ok a) (absent : α) :
    found.getD k decoder absent = .ok a := by
  rw [Found.getD, h.lookup hfound hmem]
  exact hd

/-- What stands in for a member that an object lacks. -/
theorem getD_of_not_mem (hfound : found.Perm own) (hk : k ∉ own.map Prod.fst)
    (decoder : Decoder α) (absent : α) : found.getD k decoder absent = .ok absent := by
  rw [Found.getD, lookup_of_not_mem ((hfound.map Prod.fst).mem_iff.not.mpr hk)]

/-! ### members left out -/

section

variable {keep : String → Bool} (hkeep : ∀ f ∈ r.fields, f.needed = true → keep f.name = true)
include hkeep

/-- Members that a record can do without may be left out. -/
theorem Admits.filter (h : r.Admits own) : r.Admits (own.filter fun m => keep m.1) where
  names := h.names
  keys := (List.filter_sublist.map Prod.fst).nodup h.keys
  takes m hm := h.takes m (List.mem_filter.mp hm).1
  complete f hf hneeded := by
    obtain ⟨m, hm, hname⟩ := List.mem_map.mp (h.complete f hf hneeded)
    have hkept : keep m.1 = true := hname ▸ hkeep f hf hneeded
    exact List.mem_map.mpr ⟨m, List.mem_filter.mpr ⟨hm, hkept⟩, hname⟩

variable (h : r.Admits own) (hfound : found.Perm (own.filter fun m => keep m.1))
  (hmem : (k, d) ∈ own) {decoder : Decoder α} {a : α} (hd : decoder d = .ok a)
include h hfound hmem hd

/-- The members that stay give what they gave. -/
theorem Admits.get_filter (hk : keep k = true) : found.get k decoder = .ok a :=
  (h.filter hkeep).get hfound (List.mem_filter.mpr ⟨hmem, hk⟩) hd

/-- A member that is left out has something to stand in for it. -/
theorem Admits.getD_filter (absent : α) :
    found.getD k decoder absent = .ok (if keep k then a else absent) := by
  split
  · next hk => exact (h.filter hkeep).getD hfound (List.mem_filter.mpr ⟨hmem, hk⟩) hd absent
  · next hk =>
    refine getD_of_not_mem hfound (fun hgone => ?_) decoder absent
    obtain ⟨m, hm, rfl⟩ := List.mem_map.mp hgone
    exact hk (List.mem_filter.mp hm).2

end

end Record

end FixBatch.Json
