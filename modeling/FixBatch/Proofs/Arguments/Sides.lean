import FixBatch.Proofs.Arguments

/-!
# FixBatch.Proofs.Arguments.Sides

The two sides of what is read from arguments.  A token that starts with two dashes carries the name
of an option, and no path names the same place; any other token is a path, in the first spelling of
its place, and carries no name:

* `isDashed_congr` — whether a path starts with two dashes does not depend on its spelling;
* `Arguments.Sides` — what stands on either side, token by token and name by name;
* `sides_parse` — what is read has these sides, and tokens may be read in two parts.
-/

namespace FixBatch

namespace Token

/-! ## dashes -/

/-- Whether a path starts with two dashes can be seen from the place that it names. -/
theorem isDashed_iff_place {p : Path} :
    isDashed p.text = true ↔
      p.isRooted = false ∧ ∃ step ∈ p.steps.head?, ['-', '-'] <+: step := by
  rw [isDashed, List.isPrefixOf_iff_prefix, Path.isRooted, Path.steps]
  cases htext : p.text.toList with
  | nil => simp
  | cons c text =>
    cases hc : c == '/' with
    | true =>
      rw [beq_iff_eq] at hc
      subst hc
      simp [List.cons_prefix_cons]
    | false =>
      obtain ⟨first, rest, hsegments⟩ :=
        List.exists_cons_of_ne_nil (Text.segments_ne_nil (· == '/') text)
      have hcut : Text.segments (· == '/') (c :: text) = (c :: first) :: rest := by
        rw [@Text.segments_cons_not_sep _ _ (· == '/') hc, hsegments, List.modifyHead_cons]
      have hprefix := Text.prefix_iff_of_segments (s := ['-', '-']) hcut (by simp)
      rw [hcut, hprefix]
      simp [hc]

/-- Of two paths to one place both start with two dashes or none does. -/
theorem isDashed_congr {p q : Path} (h : (p == q) = true) :
    isDashed p.text = isDashed q.text := by
  obtain ⟨hrooted, hsteps⟩ := Prod.mk.inj ((Path.beq_iff p q).mp h)
  rw [Bool.eq_iff_iff, isDashed_iff_place, isDashed_iff_place, hrooted, hsteps]

/-- What starts with two dashes carries a name. -/
theorem exists_carries_of_isDashed {token : String} (h : isDashed token = true) :
    ∃ name, '=' ∉ name.toList ∧ Carries name token := by
  rcases shapes token with ⟨name, hname, htoken⟩ | ⟨name, value, hname, htoken⟩ | hplain
  · exact ⟨name, hname, none, htoken⟩
  · exact ⟨name, hname, some value, htoken⟩
  · exact absurd (isDashed_iff.mp h) hplain

end Token

open Token

/-! ## what is read of one token -/

variable {args : List String} {name token : String} {value : Option String}

theorem optionTokens_cons_of_not_isDashed (h : isDashed token = false) (args : List String) :
    optionTokens (token :: args) = optionTokens args := by
  rw [optionTokens, List.map_cons, ofString_of_not_isDashed h]
  rfl

/-- Every token is a path or an option. -/
theorem length_pathTokens_add_length_optionTokens (args : List String) :
    (pathTokens args).length + (optionTokens args).length = args.length := by
  induction args with
  | nil => rfl
  | cons token args ih =>
    cases h : isDashed token with
    | false =>
      rw [pathTokens_cons_of_not_isDashed h, optionTokens_cons_of_not_isDashed h,
        List.length_cons, List.length_cons]
      omega
    | true =>
      obtain ⟨name, hname, value, rfl⟩ := exists_carries_of_isDashed h
      rw [pathTokens_cons_of_isDashed h, optionTokens_cons_optionText hname, List.length_cons,
        List.length_cons]
      omega

/-- The name of an option that is read has no equals sign. -/
theorem equals_not_mem_of_lookup (h : (Arguments.parse args).options.lookup name = some value) :
    '=' ∉ name.toList := by
  rw [lookup_parse, List.lookup_eq_some_iff] at h
  obtain ⟨before, after, h, -⟩ := h
  have hmem : (name, value) ∈ optionTokens args := by simp [h]
  obtain ⟨read, hread, hoption⟩ := List.mem_filterMap.mp hmem
  obtain ⟨token, -, rfl⟩ := List.mem_map.mp hread
  cases htoken : ofString token with
  | path p => simp [htoken, option?] at hoption
  | option name' value' =>
    rw [htoken] at hoption
    cases hoption
    exact (eq_of_ofString_eq_option htoken).1

/-! ## the two sides -/

namespace Arguments

/-- Whether a token is one of the paths, in whatever spelling. -/
def HasPath (a : Arguments) (token : String) : Prop :=
  ∃ path ∈ a.paths.toList, (path == ⟨token⟩) = true

/-- Whether a token carries the name of one of the options. -/
def HasOption (a : Arguments) (token : String) : Prop :=
  ∃ name, '=' ∉ name.toList ∧ Carries name token ∧ a.options.contains name = true

/-- What stands on the two sides of what is read from some tokens. -/
structure Sides (args : List String) (a : Arguments) : Prop where
  /-- The paths are the tokens without dashes, each place in its first spelling. -/
  paths : a.paths.toList = firstOccurrences (pathTokens args)
  plain : ∀ path ∈ a.paths.toList, isDashed path.text = false
  /-- Every token stands on the one side that its first characters tell. -/
  side : ∀ token ∈ args,
    (a.HasPath token ↔ isDashed token = false) ∧ (a.HasOption token ↔ isDashed token = true)
  contains_iff : ∀ name, a.options.contains name = true ↔
    '=' ∉ name.toList ∧ ∃ token ∈ args, Carries name token
  /-- An option has what the first token with its name gives it, be it nothing. -/
  lookup_iff : ∀ name value, a.options.lookup name = some value ↔
    '=' ∉ name.toList ∧ IsFirst (Carries name) args (optionText name value)
  raw_iff : ∀ name value, a.options.raw name = some value ↔
    '=' ∉ name.toList ∧ IsFirst (Carries name) args (optionText name (some value))
  names_nodup : (a.options.entries.map Prod.fst).Nodup
  size_le : a.paths.size + a.options.entries.length ≤ args.length

/-- A token is one of the paths that are read unless it starts with two dashes. -/
theorem hasPath_parse (h : token ∈ args) :
    (parse args).HasPath token ↔ isDashed token = false := by
  rw [HasPath, paths_parse, ← List.any_eq_true, any_firstOccurrences, List.any_eq_true]
  constructor
  · rintro ⟨path, hpath, heq⟩
    have hplain := (mem_pathTokens.mp hpath).2
    rwa [isDashed_congr heq] at hplain
  · intro hplain
    exact ⟨⟨token⟩, mem_pathTokens.mpr ⟨h, hplain⟩, BEq.rfl⟩

/-- It carries the name of an option that is read if it starts with two dashes. -/
theorem hasOption_parse (h : token ∈ args) :
    (parse args).HasOption token ↔ isDashed token = true := by
  constructor
  · rintro ⟨name, -, hcarries, -⟩
    exact hcarries.isDashed
  · intro hdashed
    obtain ⟨name, hname, hcarries⟩ := exists_carries_of_isDashed hdashed
    exact ⟨name, hname, hcarries, (contains_parse_iff hname).mpr ⟨token, h, hcarries⟩⟩

theorem lookup_parse_eq_some_iff : (parse args).options.lookup name = some value ↔
    '=' ∉ name.toList ∧ IsFirst (Carries name) args (optionText name value) := by
  constructor
  · intro h
    have hname := equals_not_mem_of_lookup h
    exact ⟨hname, (lookup_parse_iff hname).mp h⟩
  · rintro ⟨hname, h⟩
    exact (lookup_parse_iff hname).mpr h

theorem contains_parse_eq_true_iff : (parse args).options.contains name = true ↔
    '=' ∉ name.toList ∧ ∃ token ∈ args, Carries name token := by
  constructor
  · intro h
    obtain ⟨value, hvalue⟩ := Option.isSome_iff_exists.mp h
    have hname := equals_not_mem_of_lookup hvalue
    exact ⟨hname, (contains_parse_iff hname).mp h⟩
  · rintro ⟨hname, h⟩
    exact (contains_parse_iff hname).mpr h

/-- There are no more paths and options than tokens. -/
theorem size_parse_le (args : List String) :
    (parse args).paths.size + (parse args).options.entries.length ≤ args.length := by
  have hpaths : (parse args).paths.size ≤ (pathTokens args).length := by
    rw [Distinct.size, ← Array.length_toList, ← Distinct.toList, paths_parse]
    exact (firstOccurrencesAfter_sublist [] _).length_le
  have hoptions : (parse args).options.entries.length ≤ (optionTokens args).length :=
    (Options.nodup_ofList _).2
  have htokens := length_pathTokens_add_length_optionTokens args
  omega

/-- The paths of two lists of tokens: those of the first, and what the second adds to them. -/
theorem paths_parse_append (args args' : List String) :
    (parse (args ++ args')).paths.toList =
      ((parse args).paths.extend (parse args').paths.toList).toList := by
  rw [Distinct.toList_extend, paths_parse, paths_parse, paths_parse, pathTokens_append,
    firstOccurrences_append]

/-- The options of two lists of tokens: those of the first, and for other names the second's. -/
theorem lookup_parse_append (args args' : List String) (name : String) :
    (parse (args ++ args')).options.lookup name =
      ((parse args).options.lookup name).or ((parse args').options.lookup name) := by
  rw [lookup_parse, lookup_parse, lookup_parse, optionTokens, List.map_append,
    List.filterMap_append, List.lookup_append]
  rfl

end Arguments

/-- **Two sides**: every token goes to one side of what is read, paths are kept in their first
spelling and options with their first value, and to read on is to add to both sides. -/
theorem sides_parse (args args' : List String) :
    (Arguments.parse args).Sides args ∧
      (Arguments.parse (args ++ args')).paths.toList =
        ((Arguments.parse args).paths.extend (Arguments.parse args').paths.toList).toList ∧
      ∀ name, (Arguments.parse (args ++ args')).options.lookup name =
        ((Arguments.parse args).options.lookup name).or
          ((Arguments.parse args').options.lookup name) where
  left :=
    { paths := paths_parse args
      plain := by
        intro path hpath
        rw [paths_parse] at hpath
        exact (mem_pathTokens.mp ((firstOccurrencesAfter_sublist [] _).subset hpath)).2
      side := fun _ h => ⟨Arguments.hasPath_parse h, Arguments.hasOption_parse h⟩
      contains_iff := fun _ => Arguments.contains_parse_eq_true_iff
      lookup_iff := fun _ _ => Arguments.lookup_parse_eq_some_iff
      raw_iff := fun _ _ => Option.join_eq_some_iff.trans Arguments.lookup_parse_eq_some_iff
      names_nodup := (Options.nodup_ofList _).1
      size_le := Arguments.size_parse_le args }
  right := ⟨Arguments.paths_parse_append args args', Arguments.lookup_parse_append args args'⟩

/-- A place in two spellings, an option with two values, and a name before the first equals sign. -/
example : (Arguments.parse ["a/b", "--n=v=w", "a//b", "--n", "--=x"]).paths.toList = [⟨"a/b"⟩] ∧
    (Arguments.parse ["a/b", "--n=v=w", "a//b", "--n", "--=x"]).options.entries =
      [("n", some "v=w"), ("", some "x")] := by
  rw [paths_parse]
  decide

end FixBatch
