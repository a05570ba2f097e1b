import FixBatch.Proofs.Except
import FixBatch.Proofs.Toml.Table
import FixBatch.Toml.Document

/-!
# FixBatch.Proofs.Toml.Document

Every document that is read is a proper table: no key stands twice in any of its tables, and none of
its arrays of tables is empty.  Scalars are proper, so are values made of proper ones, and each
statement leaves the table of its document proper.

* `Open.Proper.carryOut` — one statement;
* `proper_read` — a whole document.
-/

namespace FixBatch.Toml

/-! ## scalars -/

theorem proper_decimalInteger? {s : List Char} {v : Value} (h : decimalInteger? s = some v) :
    v.Proper := by
  obtain ⟨digits, -, rfl⟩ := Option.map_eq_some_iff.mp h
  exact .integer

theorem proper_basedInteger? {base : Nat} {s : List Char} {v : Value}
    (h : basedInteger? base s = some v) : v.Proper := by
  rw [basedInteger?] at h
  split at h
  · obtain ⟨digits, -, rfl⟩ := Option.map_eq_some_iff.mp h
    exact .integer
  · contradiction

theorem proper_decimalFloat? {s : List Char} {v : Value} (h : decimalFloat? s = some v) :
    v.Proper := by
  obtain ⟨⟨whole, fraction, exponent⟩, -, h⟩ := Option.bind_eq_some_iff.mp h
  obtain ⟨digits, -, h⟩ := Option.bind_eq_some_iff.mp h
  rw [← Option.some.inj h]
  exact .float

theorem proper_namedFloat? {s : List Char} {v : Value} (h : namedFloat? s = some v) :
    v.Proper := by
  simp only [namedFloat?] at h
  split at h
  · rw [← Option.some.inj h]
    exact .float
  · split at h
    · rw [← Option.some.inj h]
      exact .float
    · contradiction

theorem proper_number? {s : List Char} {v : Value} (h : number? s = some v) : v.Proper := by
  simp only [number?] at h
  split at h
  · exact proper_decimalInteger? h
  · exact proper_basedInteger? (Option.ite_none_right_eq_some.mp h).2
  · exact proper_basedInteger? (Option.ite_none_right_eq_some.mp h).2
  · exact proper_basedInteger? (Option.ite_none_right_eq_some.mp h).2
  · split at h
    · exact proper_decimalFloat? h
    · exact proper_decimalInteger? (Option.ite_none_right_eq_some.mp h).2

/-- **Scalars** are proper. -/
theorem proper_scalar? {s : List Char} {v : Value} (h : scalar? s = some v) : v.Proper := by
  unfold scalar? at h
  split at h
  · rw [← Option.some.inj h]
    exact .bool
  split at h
  · rw [← Option.some.inj h]
    exact .bool
  split at h
  · rw [← Option.some.inj h]
    exact .datetime
  cases hunsigned : (splitSign s).2 with
  | nil =>
    rw [hunsigned] at h
    contradiction
  | cons c r =>
    rw [hunsigned] at h
    dsimp only at h
    split at h
    · exact proper_number? (Option.ite_none_left_eq_some.mp h).2
    · exact proper_namedFloat? h

/-! ## values as they are written -/

/-- A value as it is written, whose scalars are proper. -/
inductive Node.Proper : Node → Prop
  | scalar : (∀ x ∈ v, x.Proper) → Proper (.scalar v)
  | array : (∀ n ∈ items, Proper n) → Proper (.array items)
  | table : (∀ entry ∈ entries, Proper entry.2) → Proper (.table entries)

theorem proper_readScalar {s r : List Char} {v : Option Value}
    (h : readScalar s = some (v, r)) : (Node.scalar v).Proper := by
  rw [readScalar] at h
  split at h
  · contradiction
  · next scalar rest _ =>
    obtain ⟨rfl, -⟩ := Prod.mk.inj (Option.some.inj h)
    exact .scalar fun x hx => proper_scalar? hx

/-- A string whose text is the value of a node. -/
theorem proper_decoded (t : RawText) : (Node.scalar (t.decode.map .text)).Proper := by
  refine .scalar fun v hv => ?_
  obtain ⟨text, -, rfl⟩ := Option.map_eq_some_iff.mp hv
  exact .text

section

variable {fuel depth : Nat} {s r : List Char}
variable (hnode : ∀ {depth s n r}, readNode fuel depth s = some (n, r) → n.Proper)
variable (hitems : ∀ {depth s items r}, readItems fuel depth s = some (items, r) →
  ∀ n ∈ items, n.Proper)
variable (hentries : ∀ {depth s entries r}, readEntries fuel depth s = some (entries, r) →
  ∀ entry ∈ entries, entry.2.Proper)

include hitems hentries in
theorem proper_readNode_succ {n : Node} (h : readNode (fuel + 1) depth s = some (n, r)) :
    n.Proper := by
  unfold readNode at h
  split at h
  · obtain ⟨⟨t, _⟩, -, hn⟩ := Option.map_eq_some_iff.mp h
    obtain ⟨rfl, -⟩ := Prod.mk.inj hn
    exact proper_decoded t
  · obtain ⟨⟨t, _⟩, -, hn⟩ := Option.map_eq_some_iff.mp h
    obtain ⟨rfl, -⟩ := Prod.mk.inj hn
    exact proper_decoded t
  · split at h
    · contradiction
    · obtain ⟨⟨items, _⟩, hread, hn⟩ := Option.map_eq_some_iff.mp h
      obtain ⟨rfl, -⟩ := Prod.mk.inj hn
      exact .array (hitems hread)
  · split at h
    · contradiction
    · obtain ⟨⟨entries, _⟩, hread, hn⟩ := Option.map_eq_some_iff.mp h
      obtain ⟨rfl, -⟩ := Prod.mk.inj hn
      exact .table (hentries hread)
  · obtain ⟨⟨v, _⟩, hread, hn⟩ := Option.map_eq_some_iff.mp h
    obtain ⟨rfl, -⟩ := Prod.mk.inj hn
    exact proper_readScalar hread

include hnode hitems in
theorem proper_readItems_succ {items : List Node}
    (h : readItems (fuel + 1) depth s = some (items, r)) : ∀ n ∈ items, n.Proper := by
  rw [readItems] at h
  obtain ⟨_, -, h⟩ := Option.bind_eq_some_iff.mp h
  split at h
  · obtain ⟨rfl, -⟩ := Prod.mk.inj (Option.some.inj h)
    exact List.forall_mem_nil _
  · obtain ⟨⟨n, _⟩, hn, h⟩ := Option.bind_eq_some_iff.mp h
    obtain ⟨_, -, h⟩ := Option.bind_eq_some_iff.mp h
    split at h
    · obtain ⟨rfl, -⟩ := Prod.mk.inj (Option.some.inj h)
      exact List.forall_mem_singleton.mpr (hnode hn)
    · obtain ⟨⟨rest, _⟩, hrest, h⟩ := Option.bind_eq_some_iff.mp h
      obtain ⟨rfl, -⟩ := Prod.mk.inj (Option.some.inj h)
      exact List.forall_mem_cons.mpr ⟨hnode hn, hitems hrest⟩
    · contradiction

include hnode hentries in
theorem proper_readEntries_succ {entries : List (Parts × Node)}
    (h : readEntries (fuel + 1) depth s = some (entries, r)) :
    ∀ entry ∈ entries, entry.2.Proper := by
  rw [readEntries] at h
  obtain ⟨_, -, h⟩ := Option.bind_eq_some_iff.mp h
  split at h
  · obtain ⟨rfl, -⟩ := Prod.mk.inj (Option.some.inj h)
    exact List.forall_mem_nil _
  · obtain ⟨⟨key, _⟩, -, h⟩ := Option.bind_eq_some_iff.mp h
    obtain ⟨_, -, h⟩ := Option.bind_eq_some_iff.mp h
    obtain ⟨⟨n, _⟩, hn, h⟩ := Option.bind_eq_some_iff.mp h
    obtain ⟨_, -, h⟩ := Option.bind_eq_some_iff.mp h
    split at h
    · obtain ⟨rfl, -⟩ := Prod.mk.inj (Option.some.inj h)
      exact List.forall_mem_singleton.mpr (hnode hn)
    · obtain ⟨⟨rest, _⟩, hrest, h⟩ := Option.bind_eq_some_iff.mp h
      obtain ⟨rfl, -⟩ := Prod.mk.inj (Option.some.inj h)
      exact List.forall_mem_cons.mpr ⟨hnode hn, hentries hrest⟩
    · contradiction

end

/-- **Reading values**: what is read has proper scalars. -/
theorem proper_readNode {fuel : Nat} :
    (∀ {depth s n r}, readNode fuel depth s = some (n, r) → n.Proper) ∧
      (∀ {depth s items r}, readItems fuel depth s = some (items, r) → ∀ n ∈ items, n.Proper) ∧
      ∀ {depth s entries r}, readEntries fuel depth s = some (entries, r) →
        ∀ entry ∈ entries, entry.2.Proper := by
  induction fuel with
  | zero =>
    refine ⟨fun h => ?_, fun h => ?_, fun h => ?_⟩
    · rw [readNode] at h
      contradiction
    · rw [readItems] at h
      contradiction
    · rw [readEntries] at h
      contradiction
  | succ fuel ih =>
    obtain ⟨hnode, hitems, hentries⟩ := ih
    exact ⟨proper_readNode_succ hitems hentries, proper_readItems_succ hnode hitems,
      proper_readEntries_succ hnode hentries⟩

/-! ## statements -/

/-- A statement whose value, if it gives one, has proper scalars. -/
def Statement.Proper : Statement → Prop
  | .table _ | .element _ => True
  | .pair _ n => n.Proper

theorem proper_readStatement {fuel : Nat} {s r : List Char} {statement : Statement}
    (h : readStatement fuel s = some (statement, r)) : statement.Proper := by
  unfold readStatement at h
  split at h
  · obtain ⟨_, -, h⟩ := Option.map_eq_some_iff.mp h
    obtain ⟨rfl, -⟩ := Prod.mk.inj h
    trivial
  · obtain ⟨_, -, h⟩ := Option.map_eq_some_iff.mp h
    obtain ⟨rfl, -⟩ := Prod.mk.inj h
    trivial
  · obtain ⟨⟨key, _⟩, -, h⟩ := Option.bind_eq_some_iff.mp h
    obtain ⟨_, -, h⟩ := Option.bind_eq_some_iff.mp h
    obtain ⟨⟨n, _⟩, hn, h⟩ := Option.bind_eq_some_iff.mp h
    obtain ⟨_, -, h⟩ := Option.bind_eq_some_iff.mp h
    obtain ⟨rfl, -⟩ := Prod.mk.inj (Option.some.inj h)
    exact proper_readNode.1 hn

theorem proper_readStatementsFrom {fuel : Nat} {s : List Char} {statements : List Statement}
    (h : readStatementsFrom fuel s = some statements) :
    ∀ statement ∈ statements, statement.Proper := by
  induction fuel generalizing s statements with
  | zero =>
    rw [readStatementsFrom] at h
    contradiction
  | succ fuel ih =>
    rw [readStatementsFrom] at h
    obtain ⟨_, -, h⟩ := Option.bind_eq_some_iff.mp h
    split at h
    · rw [← Option.some.inj h]
      exact List.forall_mem_nil _
    · obtain ⟨⟨statement, _⟩, hstatement, h⟩ := Option.bind_eq_some_iff.mp h
      obtain ⟨rest, hrest, h⟩ := Option.bind_eq_some_iff.mp h
      rw [← Option.some.inj h]
      exact List.forall_mem_cons.mpr ⟨proper_readStatement hstatement, ih hrest⟩

/-! ## values -/

theorem orMalformed_eq_ok {α : Type} {o : Option α} {a : α} :
    orMalformed o = .ok a ↔ o = some a := by
  cases o <;> simp [orMalformed]

mutual

/-- The value of a node with proper scalars. -/
theorem Node.Proper.value {n : Node} {v : Value} (h : n.Proper) (hv : n.value = .ok v) :
    v.Proper := by
  match n, h with
  | .scalar o, .scalar hx =>
    rw [Node.value] at hv
    exact hx v (orMalformed_eq_ok.mp hv)
  | .array items, .array hitems =>
    rw [Node.value] at hv
    obtain ⟨values, hvalues, hv⟩ := bind_eq_ok.mp hv
    rw [← Except.ok.inj hv]
    exact .array (proper_valuesOf hitems hvalues)
  | .table entries, .table hentries =>
    rw [Node.value] at hv
    obtain ⟨table, htable, hv⟩ := bind_eq_ok.mp hv
    rw [← Except.ok.inj hv]
    exact Value.proper_table_iff.mpr (proper_entriesOf hentries Entries.proper_nil htable)

theorem proper_valuesOf {items : List Node} {values : List Value}
    (h : ∀ n ∈ items, n.Proper) (hvalues : valuesOf items = .ok values) :
    ∀ v ∈ values, v.Proper := by
  match items, h with
  | [], _ =>
    rw [valuesOf] at hvalues
    rw [← Except.ok.inj hvalues]
    exact List.forall_mem_nil _
  | n :: rest, h =>
    rw [valuesOf] at hvalues
    obtain ⟨hn, hrest⟩ := List.forall_mem_cons.mp h
    obtain ⟨v, hv, hvalues⟩ := bind_eq_ok.mp hvalues
    obtain ⟨vs, hvs, hvalues⟩ := bind_eq_ok.mp hvalues
    rw [← Except.ok.inj hvalues]
    exact List.forall_mem_cons.mpr ⟨hn.value hv, proper_valuesOf hrest hvs⟩

theorem proper_entriesOf {before after : Entries} {entries : List (Parts × Node)}
    (h : ∀ entry ∈ entries, entry.2.Proper) (hbefore : before.Proper)
    (hafter : entriesOf before entries = .ok after) : after.Proper := by
  match entries, h with
  | [], _ =>
    rw [entriesOf] at hafter
    rw [← Except.ok.inj hafter]
    exact hbefore
  | (parts, n) :: rest, h =>
    rw [entriesOf] at hafter
    obtain ⟨hn, hrest⟩ := List.forall_mem_cons.mp h
    obtain ⟨key, -, hafter⟩ := bind_eq_ok.mp hafter
    obtain ⟨v, hv, hafter⟩ := bind_eq_ok.mp hafter
    obtain ⟨added, hadded, hafter⟩ := bind_eq_ok.mp hafter
    have hproper : added.Proper := Entries.keeps_add (Node.Proper.value hn hv) key.last key.path
      before added hbefore (orMalformed_eq_ok.mp hadded)
    exact proper_entriesOf hrest hproper hafter

end

/-! ## documents -/

/-- A document whose table is proper. -/
def Open.Proper (d : Open) : Prop := d.table.Proper

/-- **One statement** leaves the table of a document proper. -/
theorem Open.Proper.carryOut {d d' : Open} {statement : Statement} (h : d.Proper)
    (hstatement : statement.Proper) (hd' : d.carryOut statement = .ok d') : d'.Proper := by
  cases statement with
  | table parts =>
    obtain ⟨key, -, hd'⟩ := bind_eq_ok.mp hd'
    obtain ⟨table, htable, hd'⟩ := bind_eq_ok.mp hd'
    rw [← Except.ok.inj hd']
    exact Entries.keeps_openTable key.path key.last d.table table h (orMalformed_eq_ok.mp htable)
  | element parts =>
    obtain ⟨key, -, hd'⟩ := bind_eq_ok.mp hd'
    obtain ⟨table, htable, hd'⟩ := bind_eq_ok.mp hd'
    rw [← Except.ok.inj hd']
    exact Entries.keeps_openElement key.path key.last d.table table h (orMalformed_eq_ok.mp htable)
  | pair parts n =>
    obtain ⟨key, -, hd'⟩ := bind_eq_ok.mp hd'
    obtain ⟨v, hv, hd'⟩ := bind_eq_ok.mp hd'
    obtain ⟨table, htable, hd'⟩ := bind_eq_ok.mp hd'
    rw [← Except.ok.inj hd']
    have hadd : Entries.Keeps (Entries.add v key.last key.path) :=
      Entries.keeps_add (Node.Proper.value hstatement hv) key.last key.path
    exact hadd.descend d.path d.table table h (orMalformed_eq_ok.mp htable)

/-- **Documents**: the table that is read from a text is proper. -/
theorem proper_read {s : List Char} {table : Entries} (h : read s = .ok table) :
    table.Proper := by
  obtain ⟨statements, hstatements, h⟩ := bind_eq_ok.mp h
  obtain ⟨d, hd, h⟩ := bind_eq_ok.mp h
  rw [← Except.ok.inj h]
  have hproper : ∀ statement ∈ statements, statement.Proper :=
    proper_readStatementsFrom (orMalformed_eq_ok.mp hstatements)
  have hempty : Open.Proper ⟨[], []⟩ := Entries.proper_nil
  exact foldlM_keeps Open.Proper (fun statement hmem d d' hd hd' =>
    hd.carryOut (hproper statement hmem) hd') hempty hd

end FixBatch.Toml
