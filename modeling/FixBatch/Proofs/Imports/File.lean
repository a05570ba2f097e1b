import FixBatch.Imports.Prune
import FixBatch.Proofs.Imports.Line
import FixBatch.Proofs.Text.Word

/-!
# FixBatch.Proofs.Imports.File

Reading the lines of a source, and what they need.  A file is a list of lines that end as the lines
of a text do, each as it is read from its own text:

* `parse_eq_ok` — a source is read as the one file whose lines make it up;
* `isUsed_iff` — an import may stay when the file needs it, said without cutting lines into words.
-/

namespace FixBatch.Imports

open Text

/-! ## reading a file -/

/-- A line as it is read from its own text. -/
def Line.IsRead (line : Line) : Prop := Line.ofText line.text = .ok line

theorem Line.ofText_eq_ok {text : List Char} {line : Line} :
    Line.ofText text = .ok line ↔ line.text = text ∧ line.IsRead := by
  unfold IsRead
  constructor
  · intro h
    have htext : line.text = text := by
      unfold ofText at h
      split at h
      · obtain ⟨ts, -, rfl⟩ := map_eq_ok.mp h
        rfl
      · cases h; rfl
    exact ⟨htext, htext ▸ h⟩
  · rintro ⟨rfl, h⟩
    exact h

/-- The targets of an import line are read from it. -/
theorem Line.IsRead.targets? {line : Line} (h : line.IsRead) (hts : line.targets = some ts) :
    targets? line.text = .ok ts := by
  unfold IsRead ofText at h
  split at h
  · obtain ⟨ts', hts', hline⟩ := map_eq_ok.mp h
    have hsome : some ts' = line.targets := congrArg Line.targets hline
    rw [hts, Option.some.injEq] at hsome
    rw [hts', hsome]
  · have hnone : none = line.targets := congrArg Line.targets (Except.ok.inj h)
    rw [hts] at hnone
    contradiction

theorem parseLines_eq_ok {number : Nat} {texts : List (List Char)} {file : List Line} :
    parseLines number texts = .ok file ↔
      file.map Line.text = texts ∧ ∀ line ∈ file, line.IsRead := by
  induction texts generalizing number file with
  | nil =>
    rw [parseLines, List.map_eq_nil_iff]
    exact ⟨fun h => by cases h; simp, fun ⟨h, _⟩ => by rw [h]⟩
  | cons text rest ih =>
    rw [parseLines, bind_eq_ok]
    constructor
    · rintro ⟨line, hline, h⟩
      obtain ⟨file', hfile', h⟩ := bind_eq_ok.mp h
      cases h
      obtain ⟨htext, hread⟩ := Line.ofText_eq_ok.mp (mapError_eq_ok.mp hline)
      obtain ⟨hmap, hreads⟩ := ih.mp hfile'
      exact ⟨by rw [List.map_cons, htext, hmap], List.forall_mem_cons.mpr ⟨hread, hreads⟩⟩
    · rintro ⟨hmap, hreads⟩
      obtain ⟨line, file', rfl, htext, hmap'⟩ := List.map_eq_cons_iff.mp hmap
      obtain ⟨hread, hreads'⟩ := List.forall_mem_cons.mp hreads
      exact ⟨line, mapError_eq_ok.mpr (Line.ofText_eq_ok.mpr ⟨htext, hread⟩),
        bind_eq_ok.mpr ⟨file', ih.mpr ⟨hmap', hreads'⟩, rfl⟩⟩

/-- Lines are refused for the first of them that cannot be read. -/
theorem parseLines_eq_error {number : Nat} {texts : List (List Char)} {m : Malformed} :
    parseLines number texts = .error m ↔ ∃ before text after,
      texts = before ++ text :: after ∧ (∀ t ∈ before, ∃ line, Line.ofText t = .ok line) ∧
      m.line = number + before.length ∧ Line.ofText text = .error m.fault := by
  induction texts generalizing number with
  | nil =>
    refine ⟨fun h => (by cases h), ?_⟩
    rintro ⟨before, text, after, h, -⟩
    simp at h
  | cons text rest ih =>
    rw [parseLines, bind_eq_error]
    constructor
    · rintro (htext | ⟨line, hline, h⟩)
      · obtain ⟨fault, hfault, rfl⟩ := mapError_eq_error.mp htext
        exact ⟨[], text, rest, rfl, by simp, rfl, hfault⟩
      · have hrest : parseLines (number + 1) rest = .error m := by
          rcases bind_eq_error.mp h with hrest | ⟨file, -, h⟩
          · exact hrest
          · cases h
        obtain ⟨before, bad, after, rfl, hbefore, hnumber, hbad⟩ := ih.mp hrest
        refine ⟨text :: before, bad, after, rfl,
          List.forall_mem_cons.mpr ⟨⟨line, mapError_eq_ok.mp hline⟩, hbefore⟩, ?_, hbad⟩
        rw [hnumber, List.length_cons]
        omega
    · rintro ⟨before, bad, after, h, hbefore, hnumber, hbad⟩
      cases before with
      | nil =>
        obtain ⟨rfl, -⟩ := List.cons.inj h
        refine .inl (mapError_eq_error.mpr ⟨m.fault, hbad, ?_⟩)
        rw [List.length_nil, Nat.add_zero] at hnumber
        rw [← hnumber]
      | cons first before =>
        obtain ⟨rfl, rfl⟩ := List.cons.inj h
        obtain ⟨⟨line, hline⟩, hbefore⟩ := List.forall_mem_cons.mp hbefore
        have hnumber : m.line = number + 1 + before.length := by
          rw [hnumber, List.length_cons]
          omega
        have hrest := ih.mpr ⟨before, bad, after, rfl, hbefore, hnumber, hbad⟩
        exact .inr ⟨line, mapError_eq_ok.mpr hline, bind_eq_error.mpr (.inl hrest)⟩

/-- The lines of a source, each as it is read. -/
structure IsFile (file : List Line) : Prop where
  broken : Broken (file.map Line.text)
  read : ∀ line ∈ file, line.IsRead

/-- **Reading**: a source is read as the one file whose lines make it up. -/
theorem parse_eq_ok {source : List Char} {file : List Line} :
    parse source = .ok file ↔ IsFile file ∧ (file.map Line.text).flatten = source := by
  rw [parse, parseLines_eq_ok, eq_comm, lines_eq_iff]
  constructor
  · rintro ⟨⟨hbroken, hflat⟩, hread⟩
    exact ⟨⟨hbroken, hread⟩, hflat⟩
  · rintro ⟨⟨hbroken, hread⟩, hflat⟩
    exact ⟨⟨hbroken, hflat⟩, hread⟩

theorem IsFile.tail {line : Line} {file : List Line} (h : IsFile (line :: file)) : IsFile file :=
  ⟨h.broken.tail, fun l hl => h.read l (List.mem_cons_of_mem line hl)⟩

/-! ## what a file needs -/

/-- Whether `name` is what follows the last dot of a target, or the whole of a target without
dots. -/
def IsSimpleName (name target : List Char) : Prop :=
  '.' ∉ name ∧ (target = name ∨ ∃ qualifier, target = qualifier ++ '.' :: name)

/-- Reading a name from its end goes on to the first dot. -/
theorem takeWhile_reverse_append {name : List Char} (h : '.' ∉ name) (rest : List Char) :
    (name.reverse ++ rest).takeWhile (· != '.') = name.reverse ++ rest.takeWhile (· != '.') :=
  List.takeWhile_append_of_pos fun _ hc =>
    bne_iff_ne.mpr fun hdot => h (hdot ▸ List.mem_reverse.mp hc)

theorem simpleName_of_not_mem {name : List Char} (h : '.' ∉ name) : simpleName name = name := by
  have htake := takeWhile_reverse_append h []
  rw [List.takeWhile_nil, List.append_nil] at htake
  rw [simpleName, htake, List.reverse_reverse]

theorem simpleName_append_dot {name : List Char} (h : '.' ∉ name) (qualifier : List Char) :
    simpleName (qualifier ++ '.' :: name) = name := by
  have hrev : (qualifier ++ '.' :: name).reverse = name.reverse ++ '.' :: qualifier.reverse := by
    simp
  rw [simpleName, hrev, takeWhile_reverse_append h, List.takeWhile_cons_of_neg (by simp),
    List.append_nil, List.reverse_reverse]

theorem isSimpleName_iff {name target : List Char} :
    IsSimpleName name target ↔ simpleName target = name := by
  constructor
  · rintro ⟨hdot, rfl | ⟨qualifier, rfl⟩⟩
    · exact simpleName_of_not_mem hdot
    · exact simpleName_append_dot hdot qualifier
  · rintro rfl
    by_cases hmem : '.' ∈ target
    · -- the last dot of the target is the first of its reverse
      obtain ⟨name, rest, hsplit, hname⟩ := List.eq_append_cons_of_mem (List.mem_reverse.mpr hmem)
      have htarget : target = rest.reverse ++ '.' :: name.reverse := by
        rw [← List.reverse_reverse target, hsplit]
        simp
      have hdot : '.' ∉ name.reverse := by simpa using hname
      rw [htarget, simpleName_append_dot hdot]
      exact ⟨hdot, .inr ⟨rest.reverse, rfl⟩⟩
    · rw [simpleName_of_not_mem hmem]
      exact ⟨hmem, .inl rfl⟩

/-- Whether a file needs an import: a static and a wildcard import always, any other if its simple
name is a word of some line that is no import line. -/
def Needs (file : List Line) (target : List Char) : Prop :=
  "static ".toList <+: target ∨ ".*".toList <:+ target ∨
    ∃ name, IsSimpleName name target ∧
      ∃ line ∈ file, line.targets = none ∧ IsWord name line.text

theorem mem_identifiers_iff {name : List Char} {line : Line} :
    name ∈ line.identifiers ↔ line.targets = none ∧ IsWord name line.text := by
  unfold Line.identifiers
  cases line.targets with
  | none => simp [mem_words_iff]
  | some ts => simp

theorem isUsed_iff {file : List Line} {target : List Char} :
    isUsed (usedNames file) target = true ↔ Needs file target := by
  simp only [isUsed, alwaysKept, Bool.or_eq_true, List.isPrefixOf_iff_prefix,
    List.isSuffixOf_iff_suffix, List.contains_iff_mem, usedNames, List.mem_flatMap,
    mem_identifiers_iff, or_assoc, Needs, isSimpleName_iff, exists_eq_left']
  rfl

instance (file : List Line) (target : List Char) : Decidable (Needs file target) :=
  decidable_of_iff _ isUsed_iff

end FixBatch.Imports
