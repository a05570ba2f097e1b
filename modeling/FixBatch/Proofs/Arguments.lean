import FixBatch.Proofs.Check
import FixBatch.Proofs.Options

/-!
# FixBatch.Proofs.Arguments

What reading arguments comes to, said token by token.  The paths are the tokens that do not start
with two dashes, repeats of a place left out, and the value of an option is the one that the first
token with its name carries:

* `isFirst_cons`, `isFirst_append_of_mem` — the first element with some property, list by list;
* `Carries` — which tokens carry a value for an option;
* `paths_parse`, `lookup_parse_iff` — the two sides of what is read.
-/

namespace FixBatch

/-! ## first elements -/

variable {α : Type u} {p : α → Prop} {l m : List α} {a b : α}

theorem not_isFirst_nil : ¬IsFirst p [] b := by
  rintro ⟨-, before, after, h, -⟩
  simp at h

/-- The first element with a property is the head of a list, or the first one after it. -/
theorem isFirst_cons : IsFirst p (a :: l) b ↔ (p a ∧ b = a) ∨ (¬p a ∧ IsFirst p l b) := by
  constructor
  · rintro ⟨hb, before, after, heq, hbefore⟩
    cases before with
    | nil =>
      obtain ⟨rfl, rfl⟩ := List.cons.inj heq
      exact .inl ⟨hb, rfl⟩
    | cons c before =>
      obtain ⟨rfl, rfl⟩ := List.cons.inj heq
      obtain ⟨hc, hbefore⟩ := List.forall_mem_cons.mp hbefore
      exact .inr ⟨hc, hb, before, after, rfl, hbefore⟩
  · rintro (⟨ha, rfl⟩ | ⟨ha, hb, before, after, rfl, hbefore⟩)
    · exact ⟨ha, [], l, rfl, by simp⟩
    · exact ⟨hb, a :: before, after, rfl, List.forall_mem_cons.mpr ⟨ha, hbefore⟩⟩

theorem IsFirst.mem (h : IsFirst p l b) : b ∈ l := by
  obtain ⟨-, before, after, rfl, -⟩ := h
  simp

/-- Where some element has the property, there is a first one. -/
theorem exists_isFirst (ha : a ∈ l) (hp : p a) : ∃ b, IsFirst p l b := by
  induction l with
  | nil => cases ha
  | cons c l ih =>
    by_cases hc : p c
    · exact ⟨c, isFirst_cons.mpr (.inl ⟨hc, rfl⟩)⟩
    · rcases List.mem_cons.mp ha with rfl | hl
      · exact absurd hp hc
      · obtain ⟨b, hb⟩ := ih hl
        exact ⟨b, isFirst_cons.mpr (.inr ⟨hc, hb⟩)⟩

theorem isFirst_cons_of_neg (ha : ¬p a) : IsFirst p (a :: l) b ↔ IsFirst p l b := by
  simp [isFirst_cons, ha]

/-- Where a list has an element with the property, what follows the list does not matter. -/
theorem isFirst_append_of_mem (ha : a ∈ l) (hp : p a) :
    IsFirst p (l ++ m) b ↔ IsFirst p l b := by
  induction l with
  | nil => cases ha
  | cons c l ih =>
    rw [List.cons_append, isFirst_cons, isFirst_cons]
    by_cases hc : p c
    · simp [hc]
    · have hl : a ∈ l := by
        rcases List.mem_cons.mp ha with rfl | hl
        · exact absurd hp hc
        · exact hl
      simp only [hc, ih hl]

/-- An element without the property may be left out. -/
theorem isFirst_append_cons_of_neg (ha : ¬p a) :
    IsFirst p (l ++ a :: m) b ↔ IsFirst p (l ++ m) b := by
  induction l with
  | nil => exact isFirst_cons_of_neg ha
  | cons c l ih => simp only [List.cons_append, isFirst_cons, ih]

/-- So may all elements that lack something that goes with the property. -/
theorem isFirst_filter {q : α → Bool} (h : ∀ a, p a → q a = true) :
    IsFirst p (l.filter q) b ↔ IsFirst p l b := by
  induction l with
  | nil => rfl
  | cons c l ih =>
    by_cases hc : q c = true
    · rw [List.filter_cons_of_pos hc, isFirst_cons, isFirst_cons, ih]
    · rw [List.filter_cons_of_neg hc, ih, isFirst_cons_of_neg fun hp => hc (h c hp)]

/-- What is found as a first occurrence is the first value that equals it. -/
theorem isFirst_of_mem_firstOccurrencesAfter [BEq α] [EquivBEq α] {seen : List α}
    (h : a ∈ firstOccurrencesAfter seen l) : IsFirst (fun b => (b == a) = true) l a := by
  induction l generalizing seen with
  | nil => contradiction
  | cons c l ih =>
    have hseen := not_seen_of_mem_firstOccurrencesAfter h
    rw [firstOccurrencesAfter] at h
    split at h
    · next hc =>
      refine isFirst_cons.mpr (.inr ⟨fun hca => ?_, ih h⟩)
      -- `c` was seen, so `a` would have been as well
      rw [any_beq_of_beq hc hca] at hseen
      cases hseen
    · rcases List.mem_cons.mp h with rfl | h
      · exact isFirst_cons.mpr (.inl ⟨BEq.rfl, rfl⟩)
      · have hseen := not_seen_of_mem_firstOccurrencesAfter h
        rw [List.any_cons, Bool.or_eq_false_iff] at hseen
        exact isFirst_cons.mpr (.inr ⟨by simp [hseen.1], ih h⟩)

/-! ## tokens -/

namespace Token

/-- Whether a token starts with two dashes. -/
def isDashed (token : String) : Bool := ['-', '-'].isPrefixOf token.toList

/-- The token that gives an option a value, or none. -/
def optionText (name : String) : Option String → String
  | none => "--" ++ name
  | some value => "--" ++ name ++ "=" ++ value

/-- Whether a token carries a name. -/
def Carries (name token : String) : Prop := ∃ value, token = optionText name value

theorem isDashed_iff {token : String} : isDashed token = true ↔ ∃ name, token = "--" ++ name := by
  rw [isDashed, List.isPrefixOf_iff_prefix]
  constructor
  · rintro ⟨rest, h⟩
    refine ⟨String.ofList rest, String.toList_injective ?_⟩
    rw [toList_dashes, String.toList_ofList, ← h]
    rfl
  · rintro ⟨name, rfl⟩
    exact ⟨name.toList, by rw [toList_dashes]; rfl⟩

/-- What carries a name starts with two dashes. -/
theorem Carries.isDashed {name token : String} (h : Carries name token) :
    isDashed token = true := by
  obtain ⟨_ | value, rfl⟩ := h
  · exact isDashed_iff.mpr ⟨name, rfl⟩
  · exact isDashed_iff.mpr ⟨name ++ "=" ++ value, by simp only [optionText, String.append_assoc]⟩

theorem ofString_optionText {name : String} (h : '=' ∉ name.toList) (value : Option String) :
    ofString (optionText name value) = option name value := by
  cases value with
  | none => exact ofString_bare h
  | some value => exact ofString_attached h value

/-- An option has a name without an equals sign, and is read from one token only. -/
theorem eq_of_ofString_eq_option {token name : String} {value : Option String}
    (h : ofString token = option name value) :
    '=' ∉ name.toList ∧ token = optionText name value := by
  rcases shapes token with ⟨name', hname, rfl⟩ | ⟨name', value', hname, rfl⟩ | hplain
  · rw [ofString_bare hname] at h
    cases h
    exact ⟨hname, rfl⟩
  · rw [ofString_attached hname] at h
    cases h
    exact ⟨hname, rfl⟩
  · rw [ofString_plain hplain] at h
    cases h

theorem optionText_inj {name : String} (hname : '=' ∉ name.toList) (value value' : Option String) :
    optionText name value = optionText name value' ↔ value = value' := by
  constructor
  · intro h
    have hread := ofString_optionText hname value
    rw [h, ofString_optionText hname value'] at hread
    cases hread
    rfl
  · rintro rfl
    rfl

/-- A token carries at most one name. -/
theorem Carries.name_eq {name name' token : String} (h : Carries name token)
    (h' : Carries name' token) (hname : '=' ∉ name.toList) (hname' : '=' ∉ name'.toList) :
    name = name' := by
  obtain ⟨value, rfl⟩ := h
  obtain ⟨value', heq⟩ := h'
  have hread := ofString_optionText hname value
  rw [heq, ofString_optionText hname' value'] at hread
  cases hread
  rfl

theorem ofString_of_not_isDashed {token : String} (h : isDashed token = false) :
    ofString token = path ⟨token⟩ :=
  ofString_plain fun hdashes => by simp [isDashed_iff.mpr hdashes] at h

/-- A token that starts with two dashes is no path. -/
theorem path?_ofString (token : String) :
    (ofString token).path? = if isDashed token then none else some ⟨token⟩ := by
  cases h : isDashed token with
  | false => rw [ofString_of_not_isDashed h]; rfl
  | true =>
    cases hread : ofString token with
    | option => rfl
    | path p =>
      obtain ⟨name, rfl⟩ := isDashed_iff.mp h
      rcases shapes ("--" ++ name) with ⟨name', hname, heq⟩ | ⟨name', value, hname, heq⟩ | hplain
      · rw [heq, ofString_bare hname] at hread; cases hread
      · rw [heq, ofString_attached hname] at hread; cases hread
      · exact absurd ⟨name, rfl⟩ hplain

end Token

/-! ## arguments -/

open Token

/-- The tokens that are paths. -/
def pathTokens (args : List String) : List Path := (args.filter (!isDashed ·)).map Path.mk

@[simp] theorem pathTokens_append (args args' : List String) :
    pathTokens (args ++ args') = pathTokens args ++ pathTokens args' := by
  simp [pathTokens]

theorem pathTokens_cons_of_isDashed {token : String} (h : isDashed token = true)
    (args : List String) : pathTokens (token :: args) = pathTokens args := by
  simp [pathTokens, h]

theorem pathTokens_cons_of_not_isDashed {token : String} (h : isDashed token = false)
    (args : List String) : pathTokens (token :: args) = ⟨token⟩ :: pathTokens args := by
  simp [pathTokens, h]

theorem mem_pathTokens {path : Path} {args : List String} :
    path ∈ pathTokens args ↔ path.text ∈ args ∧ isDashed path.text = false := by
  constructor
  · intro h
    obtain ⟨token, htoken, rfl⟩ := List.mem_map.mp h
    obtain ⟨hmem, hdashed⟩ := List.mem_filter.mp htoken
    exact ⟨hmem, by simpa using hdashed⟩
  · rintro ⟨hmem, hdashed⟩
    exact List.mem_map.mpr ⟨path.text, List.mem_filter.mpr ⟨hmem, by simp [hdashed]⟩, rfl⟩

/-- The first path of some kind is the first token that is such a path. -/
theorem isFirst_pathTokens {p : Path → Prop} {path : Path} {args : List String} :
    IsFirst p (pathTokens args) path ↔
      IsFirst (fun token => isDashed token = false ∧ p ⟨token⟩) args path.text := by
  induction args with
  | nil => exact iff_of_false not_isFirst_nil not_isFirst_nil
  | cons token args ih =>
    rw [isFirst_cons]
    cases h : isDashed token with
    | true => simp [pathTokens_cons_of_isDashed h, ih]
    | false =>
      have heq : path = ⟨token⟩ ↔ path.text = token := by
        cases path
        simp
      simp [pathTokens_cons_of_not_isDashed h, isFirst_cons, ih, heq]

variable {args : List String} {name : String}

/-- **Paths**: they are the tokens that do not start with two dashes, repeats of a place left
out. -/
theorem paths_parse (args : List String) :
    (Arguments.parse args).paths.toList = firstOccurrences (pathTokens args) := by
  have htokens : (args.map ofString).filterMap path? = pathTokens args := by
    induction args with
    | nil => rfl
    | cons token args ih =>
      rw [List.map_cons, List.filterMap_cons, path?_ofString, ih]
      cases h : isDashed token with
      | false => rw [pathTokens_cons_of_not_isDashed h]; rfl
      | true => rw [pathTokens_cons_of_isDashed h]; rfl
  rw [Arguments.parse, Distinct.toList_ofList, htokens]

/-- The options that tokens carry, in order. -/
def optionTokens (args : List String) : List (String × Option String) :=
  (args.map ofString).filterMap option?

theorem optionTokens_cons_optionText (hname : '=' ∉ name.toList) (value : Option String)
    (args : List String) :
    optionTokens (optionText name value :: args) = (name, value) :: optionTokens args := by
  rw [optionTokens, List.map_cons, ofString_optionText hname]
  rfl

/-- Options that are written as tokens are no paths. -/
theorem pathTokens_map_optionText (entries : List (String × Option String)) :
    pathTokens (entries.map fun e => optionText e.1 e.2) = [] := by
  induction entries with
  | nil => rfl
  | cons e entries ih =>
    have hcarries : Carries e.1 (optionText e.1 e.2) := ⟨e.2, rfl⟩
    rw [List.map_cons, pathTokens_cons_of_isDashed hcarries.isDashed, ih]

/-- They are read again as the options they were. -/
theorem optionTokens_map_optionText {entries : List (String × Option String)}
    (h : ∀ e ∈ entries, '=' ∉ e.1.toList) :
    optionTokens (entries.map fun e => optionText e.1 e.2) = entries := by
  induction entries with
  | nil => rfl
  | cons e entries ih =>
    obtain ⟨he, h⟩ := List.forall_mem_cons.mp h
    rw [List.map_cons, optionTokens_cons_optionText he, ih h]

/-- A token that does not carry a name says nothing about the option. -/
theorem lookup_optionTokens_cons {token : String} (h : ¬Carries name token) (args : List String) :
    (optionTokens (token :: args)).lookup name = (optionTokens args).lookup name := by
  rw [optionTokens, List.map_cons, List.filterMap_cons]
  cases hread : ofString token with
  | path p => rfl
  | option name' value =>
    have hne : name ≠ name' := by
      rintro rfl
      exact h ⟨value, (eq_of_ofString_eq_option hread).2⟩
    simp only [option?, List.lookup_cons, beq_false_of_ne hne]
    rfl

theorem lookup_parse (args : List String) (name : String) :
    (Arguments.parse args).options.lookup name = (optionTokens args).lookup name :=
  Options.lookup_ofList _ _

/-- **Options**: the value of an option is the one that the first token with its name carries. -/
theorem lookup_parse_iff (hname : '=' ∉ name.toList) {value : Option String} :
    (Arguments.parse args).options.lookup name = some value ↔
      IsFirst (Carries name) args (optionText name value) := by
  rw [lookup_parse]
  induction args with
  | nil => simp [optionTokens, not_isFirst_nil]
  | cons token args ih =>
    rw [isFirst_cons]
    by_cases hcarries : Carries name token
    · obtain ⟨found, rfl⟩ := hcarries
      have hcarries : Carries name (optionText name found) := ⟨found, rfl⟩
      have heq := optionText_inj hname value found
      simp [optionTokens_cons_optionText hname, hcarries, heq, eq_comm]
    · rw [lookup_optionTokens_cons hcarries, ih]
      simp [hcarries]

/-- An option is there when some token carries its name. -/
theorem contains_parse_iff (hname : '=' ∉ name.toList) :
    (Arguments.parse args).options.contains name = true ↔ ∃ token ∈ args, Carries name token := by
  rw [Options.contains, Option.isSome_iff_exists]
  constructor
  · rintro ⟨value, h⟩
    have hfirst := (lookup_parse_iff hname).mp h
    exact ⟨_, hfirst.mem, hfirst.1⟩
  · rintro ⟨token, hmem, hcarries⟩
    obtain ⟨first, hfirst⟩ := exists_isFirst hmem hcarries
    obtain ⟨value, rfl⟩ := hfirst.1
    exact ⟨value, (lookup_parse_iff hname).mpr hfirst⟩

/-- A single directory becomes a plan when its rule lists ask for a selection. -/
theorem buildPlan_directory {settings : CheckSettings} {probe : Probe} {path : Path}
    {selection : Option Selection}
    (hpaths : firstOccurrences (pathTokens args) = [path])
    (hkind : (probe path).kind = some .directory)
    (hselects : Selects settings.legacy (Arguments.parse args).options.ruleLists selection) :
    buildPlan settings probe args = .ok (.make [⟨path, .directory⟩] selection
      ((Arguments.parse args).options.truth ignoreTestFilesOption settings.ignoreTestFiles)) := by
  have hpaths : (Arguments.parse args).paths.toList = [path] := by rw [paths_parse, hpaths]
  have htargets : (classify probe [path]).targets = [⟨path, .directory⟩] := by
    simp [targets_classify, hkind]
  rw [buildPlan, checkArguments_eq (by simp [hpaths]) (by simp [hpaths, hkind])
    (by simp [hpaths, hkind]), selectionFor_of_selects hselects, hpaths, htargets]
  rfl

/-- A directory alone is treated under all rules. -/
theorem buildPlan_directory_alone {settings : CheckSettings} {probe : Probe} {dir : String}
    (hlegacy : settings.legacy = false) (hplain : isDashed dir = false)
    (hkind : (probe ⟨dir⟩).kind = some .directory) :
    buildPlan settings probe [dir] =
      .ok (.make [⟨⟨dir⟩, .directory⟩] (some .all) settings.ignoreTestFiles) := by
  have hpaths : firstOccurrences (pathTokens [dir]) = [⟨dir⟩] := by
    rw [pathTokens_cons_of_not_isDashed hplain]
    rfl
  have hoptions : optionTokens [dir] = [] := by
    rw [optionTokens, List.map_singleton, ofString_of_not_isDashed hplain]
    rfl
  have hlists : (Arguments.parse [dir]).options.ruleLists = ([], []) := by
    rw [Options.ruleLists, Options.toList_list, Options.toList_list, lookup_parse, lookup_parse,
      hoptions]
    rfl
  have hselects : Selects settings.legacy (Arguments.parse [dir]).options.ruleLists
      (some .all) := hlists ▸ .all hlegacy
  rw [buildPlan_directory hpaths hkind hselects, Options.truth, lookup_parse, hoptions]
  rfl

end FixBatch
