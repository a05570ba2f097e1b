import FixBatch.Proofs.Except
import FixBatch.Proofs.Json.Decode

/-!
# FixBatch.Proofs.Json.Part

What stands in a document, said without decoders, and what decoders take from there.  Decoders read
on and on and stop at the first fault; a part of a document is found by looking for it:

* `Doc.text?`, `Doc.oneOf?`, `Doc.listOf?` — what a document is by itself;
* `Doc.part?` — what stands in it under a name or, if it is an array, at a place;
* `Record.part?_of_get` — what a record makes of a field it makes of such a part.
-/

namespace FixBatch.Json

variable {α : Type}

/-! ## parts -/

/-- The string that a token is read as. -/
def Reading.string? (r : Reading (List Char)) : Option String := r.value.toOption.map String.ofList

/-- The documents of an array that is closed. -/
def Items.docs? : Items → Option (List Doc)
  | .closed => some []
  | .broken _ => none
  | .item d rest => rest.docs?.map (d :: ·)

/-- What stands under a key where it occurs first. -/
def Members.under? (name : String) : Members → Option Doc
  | .closed | .broken _ | .stray _ => none
  | .member key value rest => if key.string? = some name then some value else rest.under? name

namespace Doc

/-- The string that a document is. -/
def text? : Doc → Option String
  | .text r => r.string?
  | _ => none

/-- The truth value that a document is. -/
def truth? : Doc → Option Bool
  | .bool b => some b
  | _ => none

/-- The word that a document is: a string, or the only key of an object, with null under it. -/
def word? : Doc → Option String
  | .text r => r.string?
  | .object (.member key .null .closed) => key.string?
  | _ => none

/-- What the word that a document is stands for. -/
def oneOf? (known : List (String × α)) (d : Doc) : Option α :=
  d.word?.bind fun word => known.lookup word

/-- What the items of an array are, if each is something. -/
def listOf? (item? : Doc → Option α) : Doc → Option (List α)
  | .array is => is.docs?.bind (List.mapM item?)
  | _ => none

/-- What stands under a name in an object, or at a place in an array. -/
def part? (place : Nat) (name : String) : Doc → Option Doc
  | .object ms => ms.under? name
  | .array is => is.docs?.bind (·[place]?)
  | _ => none

end Doc

/-! ## plain values -/

theorem get_eq_ok {r : Reading α} {a : α} : r.get = .ok a ↔ r.value = .ok a := mapError_eq_ok

theorem string?_of_get {r : Reading (List Char)} {s : List Char} (h : r.get = .ok s) :
    r.string? = some (String.ofList s) := by
  rw [Reading.string?, get_eq_ok.mp h]
  rfl

theorem wrongType_ne_ok {d : Doc} {expected : String} {a : α} : wrongType d expected ≠ .ok a := by
  intro h
  cases d with
  | number | text =>
    obtain ⟨_, -, h⟩ := bind_eq_ok.mp h
    cases h
  | _ => cases h

/-- A decoded string is the string that stands there. -/
theorem text?_of_string {d : Doc} {expected s : String} (h : string expected d = .ok s) :
    d.text? = some s := by
  unfold string at h
  split at h
  · obtain ⟨cs, hget, rfl⟩ := map_eq_ok.mp h
    exact string?_of_get hget
  · exact absurd h wrongType_ne_ok

theorem truth?_of_truth {d : Doc} {b : Bool} (h : truth d = .ok b) : d.truth? = some b := by
  unfold truth at h
  split at h
  · cases h; rfl
  · exact absurd h wrongType_ne_ok

theorem eq_null_of_unit {d : Doc} {expected : String} {u : Unit} (h : unit expected d = .ok u) :
    d = .null := by
  unfold unit at h
  split at h
  · rfl
  · exact absurd h wrongType_ne_ok

/-- What null leaves out is null, and anything else is decoded. -/
theorem eq_null_or_of_nullable {decoder : Decoder α} {d : Doc} {o : Option α}
    (h : nullable decoder d = .ok o) :
    (d = .null ∧ o = none) ∨ ∃ a, o = some a ∧ decoder d = .ok a := by
  unfold nullable at h
  split at h
  · cases h; exact .inl ⟨rfl, rfl⟩
  · obtain ⟨a, ha, rfl⟩ := map_eq_ok.mp h
    exact .inr ⟨a, rfl, ha⟩

/-- Decoded items are what the items of the array are, one by one. -/
theorem mapM_docs?_of_items {decoder : Decoder α} {item? : Doc → Option α}
    (hitem : ∀ {d : Doc} {a : α}, decoder d = .ok a → item? d = some a) :
    ∀ {is : Items} {l : List α}, items decoder is = .ok l →
      is.docs?.bind (List.mapM item?) = some l
  | .closed, l, h => by
    cases h
    rfl
  | .broken f, l, h => by cases h
  | .item d rest, l, h => by
    obtain ⟨a, ha, h⟩ := bind_eq_ok.mp h
    obtain ⟨l', hl', h⟩ := bind_eq_ok.mp h
    cases h
    obtain ⟨ds, hds, hmap⟩ := Option.bind_eq_some_iff.mp (mapM_docs?_of_items hitem hl')
    have hcons : List.mapM item? (d :: ds) = some (a :: l') := by
      rw [List.mapM_cons, hitem ha, hmap]
      rfl
    rw [Items.docs?, hds]
    exact hcons

theorem listOf?_of_array {decoder : Decoder α} {item? : Doc → Option α}
    (hitem : ∀ {d : Doc} {a : α}, decoder d = .ok a → item? d = some a) {d : Doc} {l : List α}
    (h : array decoder d = .ok l) : d.listOf? item? = some l := by
  unfold array at h
  split at h
  · exact mapM_docs?_of_items hitem h
  · exact absurd h wrongType_ne_ok

/-! ## words -/

theorem mem_of_ofWord {known : List (String × α)} {word : List Char} {a : α}
    (h : ofWord known word = .ok a) : (String.ofList word, a) ∈ known := by
  unfold ofWord at h
  split at h
  · next k a' hfind =>
    cases h
    have hword : k.toList = word := by simpa using List.find?_some hfind
    rw [← hword, String.ofList_toList]
    exact List.mem_of_find?_eq_some hfind
  · cases h

/-- What a word stands for stands beside it in the list. -/
theorem exists_word?_of_words {known : List (String × α)} {d : Doc} {a : α}
    (h : words known d = .ok a) : ∃ word, d.word? = some word ∧ (word, a) ∈ known := by
  unfold words at h
  split at h
  · obtain ⟨cs, hget, hword⟩ := bind_eq_ok.mp h
    exact ⟨String.ofList cs, string?_of_get hget, mem_of_ofWord hword⟩
  · next key value rest =>
    obtain ⟨a', hkey, h⟩ := bind_eq_ok.mp h
    obtain ⟨cs, hget, hword⟩ := bind_eq_ok.mp hkey
    obtain ⟨u, hunit, h⟩ := bind_eq_ok.mp h
    cases eq_null_of_unit hunit
    cases rest with
    | closed => cases h; exact ⟨String.ofList cs, string?_of_get hget, mem_of_ofWord hword⟩
    | _ => cases h
  all_goals cases h

theorem oneOf?_of_words {known : List (String × α)} (hknown : (known.map Prod.fst).Nodup) {d : Doc}
    {a : α} (h : words known d = .ok a) : d.oneOf? known = some a := by
  obtain ⟨word, hword, hmem⟩ := exists_word?_of_words h
  rw [Doc.oneOf?, hword]
  exact lookup_of_mem hknown hmem

/-- A word that is decoded as a string may be looked up. -/
theorem oneOf?_of_ofWord {known : List (String × α)} (hknown : (known.map Prod.fst).Nodup) {d : Doc}
    {expected word : String} (hword : string expected d = .ok word) {a : α}
    (h : ofWord known word.toList = .ok a) : d.oneOf? known = some a := by
  have htext : d.text? = some word := text?_of_string hword
  have hmem : (word, a) ∈ known := by simpa using mem_of_ofWord h
  cases d with
  | text r =>
    rw [Doc.oneOf?, Doc.word?, ← Doc.text?, htext]
    exact lookup_of_mem hknown hmem
  | _ => cases htext

/-! ## records -/

/-- A member is left out if no field has its name, and otherwise is gathered, the first of its
name. -/
theorem readMembers_member_cases {fields : List Field} {key : Reading (List Char)} {value : Doc}
    {rest : Members} {found found' : Found}
    (h : Record.readMembers fields found (.member key value rest) = .ok found') :
    ∃ name, key.string? = some name ∧
      ((∀ f ∈ fields, f.name ≠ name) ∧ Record.readMembers fields found rest = .ok found' ∨
        found.lookup name = none ∧
          Record.readMembers fields ((name, value) :: found) rest = .ok found') := by
  rw [Record.readMembers] at h
  obtain ⟨cs, hkey, h⟩ := bind_eq_ok.mp h
  refine ⟨String.ofList cs, string?_of_get hkey, ?_⟩
  cases hfind : fields.find? fun f => f.name.toList == cs with
  | none =>
    simp only [hfind] at h
    obtain ⟨_, -, h⟩ := bind_eq_ok.mp h
    refine .inl ⟨fun f hf hname => ?_, h⟩
    have hne := List.find?_eq_none.mp hfind f hf
    rw [hname, String.toList_ofList] at hne
    exact hne (beq_self_eq_true cs)
  | some f =>
    have hname : f.name = String.ofList cs := by
      have hcs : f.name.toList = cs := by simpa using List.find?_some hfind
      rw [← hcs, String.ofList_toList]
    simp only [hfind, hname] at h
    split at h
    · cases h
    · next hnew =>
      obtain ⟨_, -, h⟩ := bind_eq_ok.mp h
      exact .inr ⟨Option.not_isSome_iff_eq_none.mp hnew, h⟩

/-- A field that was gathered from an object is what stands under its name. -/
theorem lookup_of_readMembers {fields : List Field} {f : Field} (hf : f ∈ fields) :
    ∀ {ms : Members} {found found' : Found}, Record.readMembers fields found ms = .ok found' →
      found'.lookup f.name = (found.lookup f.name).or (ms.under? f.name)
  | .closed, found, found', h => by
    cases h
    rw [Members.under?, Option.or_none]
  | .broken _, _, _, h | .stray _, _, _, h => by cases h
  | .member key value rest, found, found', h => by
    obtain ⟨name, hkey, ⟨hother, h⟩ | ⟨hnew, h⟩⟩ := readMembers_member_cases h
    · have hne : ¬some name = some f.name := fun heq => hother f hf (Option.some.inj heq).symm
      rw [Members.under?, hkey, if_neg hne, lookup_of_readMembers hf h]
    · rw [Members.under?, hkey, lookup_of_readMembers hf h]
      by_cases hname : name = f.name
      · subst hname
        rw [if_pos rfl, hnew, List.lookup_cons_self]
        rfl
      · have hne : (f.name == name) = false := beq_false_of_ne (Ne.symm hname)
        rw [if_neg (fun heq => hname (Option.some.inj heq)), List.lookup_cons, hne]

/-- Names that no field has are left alone, and the fields are the items of the array at their
places. -/
theorem lookup_of_readItems {expected : String} {fields : List Field}
    (hnames : (fields.map Field.name).Nodup) {place : Nat} {is : Items} {found found' : Found}
    (hnew : ∀ f ∈ fields, found.lookup f.name = none)
    (h : Record.readItems expected place found fields is = .ok found') :
    ∃ ds, is.docs? = some ds ∧
      (∀ (i : Nat) (f : Field), fields[i]? = some f → found'.lookup f.name = ds[i]?) ∧
      ∀ name, (∀ f ∈ fields, f.name ≠ name) → found'.lookup name = found.lookup name := by
  induction fields generalizing place is found with
  | nil =>
    cases is with
    | closed => cases h; exact ⟨[], rfl, by simp, fun _ _ => rfl⟩
    | broken | item => cases h
  | cons field fields ih =>
    obtain ⟨hfield, hnames⟩ := List.nodup_cons.mp hnames
    have hothers : ∀ f ∈ fields, f.name ≠ field.name := fun f hf heq =>
      hfield (heq ▸ List.mem_map_of_mem hf)
    obtain ⟨hfirst, hrest⟩ := List.forall_mem_cons.mp hnew
    cases is with
    | broken => cases h
    | closed =>
      rw [Record.readItems] at h
      split at h
      · cases h
      · obtain ⟨ds, hds, hplaces, hleft⟩ := ih hnames hrest h
        cases hds
        refine ⟨[], rfl, fun i f hi => ?_, fun name hname => ?_⟩
        · cases i with
          | zero =>
            cases hi
            rw [hleft field.name hothers, hfirst]
            rfl
          | succ i => exact hplaces i f hi
        · exact hleft name (List.forall_mem_cons.mp hname).2
    | item value rest =>
      obtain ⟨_, -, h⟩ := bind_eq_ok.mp h
      have hcons {name : String} (hne : field.name ≠ name) :
          List.lookup name ((field.name, value) :: found) = found.lookup name := by
        rw [List.lookup_cons, beq_false_of_ne (Ne.symm hne)]
      have hrest' : ∀ f ∈ fields, List.lookup f.name ((field.name, value) :: found) = none :=
        fun f hf => (hcons (hothers f hf).symm).trans (hrest f hf)
      obtain ⟨ds, hds, hplaces, hleft⟩ := ih hnames hrest' h
      refine ⟨value :: ds, by rw [Items.docs?, hds]; rfl, fun i f hi => ?_, fun name hname => ?_⟩
      · cases i with
        | zero =>
          cases hi
          rw [hleft field.name hothers, List.lookup_cons_self]
          rfl
        | succ i => exact hplaces i f hi
      · obtain ⟨hne, hname⟩ := List.forall_mem_cons.mp hname
        rw [hleft name hname, hcons hne]

namespace Record

variable {r : Record} {d : Doc} {found : Found} {name : String} {decoder : Decoder α} {a : α}

/-- **Records**: a field that was read is what stands under its name or at its place. -/
theorem lookup_of_read (hnames : (r.fields.map Field.name).Nodup) (h : r.read d = .ok found)
    {place : Nat} (hplace : (r.fields.map Field.name)[place]? = some name) :
    found.lookup name = d.part? place name := by
  rw [List.getElem?_map] at hplace
  obtain ⟨f, hf, rfl⟩ := Option.map_eq_some_iff.mp hplace
  unfold read at h
  split at h
  · next ms =>
    obtain ⟨found', hfound, h⟩ := bind_eq_ok.mp h
    split at h
    · cases h
    · cases h
      exact lookup_of_readMembers (List.mem_of_getElem? hf) hfound
  · next is =>
    obtain ⟨ds, hds, hplaces, -⟩ := lookup_of_readItems hnames (by simp) h
    rw [Doc.part?, hds, hplaces place f hf]
    rfl
  · exact absurd h wrongType_ne_ok

theorem part?_of_get (hnames : (r.fields.map Field.name).Nodup) (h : r.read d = .ok found)
    (hget : found.get name decoder = .ok a) (place : Nat)
    (hplace : (r.fields.map Field.name)[place]? = some name) :
    ∃ v, d.part? place name = some v ∧ decoder v = .ok a := by
  rw [Found.get, lookup_of_read hnames h hplace] at hget
  cases hpart : d.part? place name with
  | none => rw [hpart] at hget; cases hget
  | some v => rw [hpart] at hget; exact ⟨v, rfl, hget⟩

theorem part?_of_getD (hnames : (r.fields.map Field.name).Nodup) (h : r.read d = .ok found)
    {absent : α} (hget : found.getD name decoder absent = .ok a) (place : Nat)
    (hplace : (r.fields.map Field.name)[place]? = some name) :
    (d.part? place name = none ∧ a = absent) ∨
      ∃ v, d.part? place name = some v ∧ decoder v = .ok a := by
  rw [Found.getD, lookup_of_read hnames h hplace] at hget
  cases hpart : d.part? place name with
  | none => rw [hpart] at hget; cases hget; exact .inl ⟨rfl, rfl⟩
  | some v => rw [hpart] at hget; exact .inr ⟨v, rfl, hget⟩

end Record

/-! ## whole texts -/

/-- A text is decoded as its document is. -/
theorem decoder_of_decode {decoder : Decoder α} {s : List Char} {a : α}
    (h : decode decoder s = .ok a) : decoder (Doc.read s).1 = .ok a := by
  rw [decode] at h
  generalize Doc.read s = read at h ⊢
  obtain ⟨a', ha', h⟩ := bind_eq_ok.mp h
  split at h
  · cases h; exact ha'
  · cases h

end FixBatch.Json
