import FixBatch.CommandLine.Flag
import FixBatch.Proofs.Options

/-!
# FixBatch.Proofs.CommandLine.Flag

What routing does to a command line, said without the reader of items.  `Reading` splits a command
line from left to right into the groups of tokens that are flags and the plain tokens, and `Merges`
puts groups and plain tokens together in any way that keeps either order:

* `names_iff` — which tokens call a flag;
* `exists_reading`, `Reading.eq_items` — every command line has one reading, that of its items;
* `Reading.merges` — a reading loses no token, and moves none within its class;
* `IsWhole` — where a flag can stand;
* `routeCommand_reading` — what routing makes of a command line, and that it is the same for every
  merge of the same flags with the same plain tokens.
-/

namespace FixBatch.CommandLine

variable {α : Type}

/-! ## flags and plain tokens -/

/-- The flag that a token names, and whether the token brings a value along. -/
inductive Names (flags : List (Flag α)) : String → Flag α → Bool → Prop where
  | bare {name : String} {flag : Flag α} (hname : '=' ∉ name.toList)
      (hflag : flags.find? (·.long == some name) = some flag) :
      Names flags ("--" ++ name) flag false
  | attached {name : String} {flag : Flag α} (value : String) (hname : '=' ∉ name.toList)
      (hflag : flags.find? (·.long == some name) = some flag) :
      Names flags ("--" ++ name ++ "=" ++ value) flag true
  | short {c : Char} {flag : Flag α} (hc : c ≠ '-')
      (hflag : flags.find? (·.short == some c) = some flag) :
      Names flags (String.ofList ['-', c]) flag false

/-- A token that is a flag or wants to be followed by the value of one. -/
structure Wants (flags : List (Flag α)) (token : String) (wants : Bool) : Prop where
  ne_dashes : token ≠ "--"
  names : ∃ flag inline, Names flags token flag inline ∧ wants = (flag.takesValue && !inline)

/-- A flag with the value that it takes from the next token, if it takes one. -/
inductive IsGroup (flags : List (Flag α)) : List String → Prop where
  | alone {token : String} (h : Wants flags token false) : IsGroup flags [token]
  | valued {token : String} (value : String) (h : Wants flags token true) :
      IsGroup flags [token, value]

/-- A token that stands for itself. -/
structure IsPlain (flags : List (Flag α)) (token : String) : Prop where
  ne_dashes : token ≠ "--"
  not_names : ∀ flag inline, ¬Names flags token flag inline

/-- A command line read from left to right: its flags, each with its value, and its plain tokens.
The first `--` in the place of an item ends the reading, and all tokens after it are plain. -/
inductive Reading (flags : List (Flag α)) : List String → List (List String) → List String → Prop
    where
  | done : Reading flags [] [] []
  | ended (rest : List String) : Reading flags ("--" :: rest) [] rest
  | group {group args : List String} {groups : List (List String)} {plain : List String}
      (hgroup : IsGroup flags group) (h : Reading flags args groups plain) :
      Reading flags (group ++ args) (group :: groups) plain
  | lacking {token : String} (h : Wants flags token true) : Reading flags [token] [[token]] []
  | plain {token : String} {args : List String} {groups : List (List String)} {plain : List String}
      (htoken : IsPlain flags token) (h : Reading flags args groups plain) :
      Reading flags (token :: args) groups (token :: plain)

/-- Groups of tokens and single tokens put together, each in their own order. -/
inductive Merges : List (List String) → List String → List String → Prop where
  | nil : Merges [] [] []
  | group {group args : List String} {groups : List (List String)} {plain : List String}
      (h : Merges groups plain args) : Merges (group :: groups) plain (group ++ args)
  | plain {token : String} {args : List String} {groups : List (List String)} {plain : List String}
      (h : Merges groups plain args) : Merges groups (token :: plain) (token :: args)

/-! ## which tokens call a flag -/

namespace Calling

theorem ofToken?_bare {name : String} (h : '=' ∉ name.toList) :
    ofToken? ("--" ++ name) = some (long name none) := by
  simp only [ofToken?, Token.ofString_bare h]

theorem ofToken?_attached {name : String} (h : '=' ∉ name.toList) (value : String) :
    ofToken? ("--" ++ name ++ "=" ++ value) = some (long name (some value)) := by
  simp only [ofToken?, Token.ofString_attached h]

theorem ofToken?_short {c : Char} (hc : c ≠ '-') :
    ofToken? (String.ofList ['-', c]) = some (short c) := by
  have hlong : ¬∃ name, String.ofList ['-', c] = "--" ++ name := by
    rintro ⟨name, h⟩
    have h := congrArg String.toList h
    rw [String.toList_ofList, Token.toList_dashes] at h
    exact hc (List.cons.inj (List.cons.inj h).2).1
  simp only [ofToken?, Token.ofString_plain hlong, String.toList_ofList]

/-- A token that calls a flag has one of three shapes. -/
theorem eq_of_ofToken? {token : String} {calling : Calling} (h : ofToken? token = some calling) :
    (∃ name : String, '=' ∉ name.toList ∧ token = "--" ++ name ∧ calling = long name none) ∨
      (∃ name value : String, '=' ∉ name.toList ∧ token = "--" ++ name ++ "=" ++ value ∧
        calling = long name (some value)) ∨
        ∃ c, c ≠ '-' ∧ token = String.ofList ['-', c] ∧ calling = short c := by
  rcases Token.shapes token with ⟨name, hname, rfl⟩ | ⟨name, value, hname, rfl⟩ | hlong
  · rw [ofToken?_bare hname] at h
    exact .inl ⟨name, hname, rfl, (Option.some.inj h).symm⟩
  · rw [ofToken?_attached hname] at h
    exact .inr (.inl ⟨name, value, hname, rfl, (Option.some.inj h).symm⟩)
  · simp only [ofToken?, Token.ofString_plain hlong] at h
    split at h
    · next c hc =>
      have htoken : token = String.ofList ['-', c] := by rw [← hc, String.ofList_toList]
      refine .inr (.inr ⟨c, ?_, htoken, (Option.some.inj h).symm⟩)
      rintro rfl
      exact hlong ⟨"", htoken⟩
    · cases h

end Calling

variable {flags : List (Flag α)} {token : String}

theorem called?_eq_some_iff {flag : Flag α} {attached : Option String} :
    called? flags token = some (flag, attached) ↔ ∃ calling, Calling.ofToken? token = some calling ∧
      flags.find? (·.isCalled calling) = some flag ∧ calling.value = attached := by
  simp only [called?, Option.bind_eq_bind, Option.bind_eq_some_iff, Option.pure_def,
    Option.some.injEq, Prod.mk.injEq]
  constructor
  · rintro ⟨calling, hcalling, found, hfound, rfl, hvalue⟩
    exact ⟨calling, hcalling, hfound, hvalue⟩
  · rintro ⟨calling, hcalling, hfound, hvalue⟩
    exact ⟨calling, hcalling, flag, hfound, rfl, hvalue⟩

/-- **Flags**: a token names a flag when it calls it, and the value in it is the attached one. -/
theorem names_iff {flag : Flag α} {inline : Bool} : Names flags token flag inline ↔
    ∃ attached, called? flags token = some (flag, attached) ∧ attached.isSome = inline := by
  simp only [called?_eq_some_iff]
  constructor
  · rintro (⟨hname, hflag⟩ | ⟨value, hname, hflag⟩ | ⟨hc, hflag⟩)
    · exact ⟨none, ⟨_, Calling.ofToken?_bare hname, hflag, rfl⟩, rfl⟩
    · exact ⟨some value, ⟨_, Calling.ofToken?_attached hname value, hflag, rfl⟩, rfl⟩
    · exact ⟨none, ⟨_, Calling.ofToken?_short hc, hflag, rfl⟩, rfl⟩
  · rintro ⟨attached, ⟨calling, hcalling, hflag, rfl⟩, rfl⟩
    rcases Calling.eq_of_ofToken? hcalling with
      ⟨name, hname, rfl, rfl⟩ | ⟨name, value, hname, rfl, rfl⟩ | ⟨c, hc, rfl, rfl⟩
    · exact .bare hname hflag
    · exact .attached value hname hflag
    · exact .short hc hflag

theorem isPlain_iff : IsPlain flags token ↔ token ≠ "--" ∧ called? flags token = none := by
  constructor
  · rintro ⟨hne, hnot⟩
    refine ⟨hne, ?_⟩
    cases hcalled : called? flags token with
    | none => rfl
    | some found => exact absurd (names_iff.mpr ⟨found.2, hcalled, rfl⟩) (hnot _ _)
  · rintro ⟨hne, hcalled⟩
    refine ⟨hne, fun flag inline hnames => ?_⟩
    obtain ⟨attached, hsome, -⟩ := names_iff.mp hnames
    rw [hcalled] at hsome
    cases hsome

theorem wants_of_called {flag : Flag α} {attached : Option String} (hne : token ≠ "--")
    (hcalled : called? flags token = some (flag, attached)) :
    Wants flags token (flag.takesValue && attached.isNone) := by
  rw [← Option.not_isSome]
  exact ⟨hne, flag, attached.isSome, names_iff.mpr ⟨attached, hcalled, rfl⟩, rfl⟩

/-- Every token is `--`, a plain token or a flag. -/
theorem dashes_or_plain_or_wants (flags : List (Flag α)) (token : String) :
    token = "--" ∨ IsPlain flags token ∨ ∃ wants, Wants flags token wants := by
  by_cases hne : token = "--"
  · exact .inl hne
  cases hcalled : called? flags token with
  | none => exact .inr (.inl (isPlain_iff.mpr ⟨hne, hcalled⟩))
  | some found => exact .inr (.inr ⟨_, wants_of_called hne hcalled⟩)

/-! ## the items of a command line -/

theorem Wants.called {wants : Bool} (h : Wants flags token wants) :
    token ≠ "--" ∧ ∃ flag attached, called? flags token = some (flag, attached) ∧
      (flag.takesValue && attached.isNone) = wants := by
  obtain ⟨hne, flag, inline, hnames, rfl⟩ := h
  obtain ⟨attached, hcalled, rfl⟩ := names_iff.mp hnames
  exact ⟨hne, flag, attached, hcalled, by rw [Option.not_isSome]⟩

/-- A flag that wants no further token is an item of its own. -/
theorem items_alone (h : Wants flags token false) : ∃ given : Given α, given.tokens = [token] ∧
    ∀ rest, items flags (token :: rest) = .flag given :: items flags rest := by
  obtain ⟨hne, flag, attached, hcalled, hwants⟩ := h.called
  refine ⟨⟨flag, token, attached, none⟩, rfl, fun rest => ?_⟩
  rw [items.eq_def]
  simp only [hne, if_false, hcalled, hwants, Bool.false_eq_true]

theorem items_cons_of_called {flag : Flag α} {attached : Option String} (hne : token ≠ "--")
    (hcalled : called? flags token = some (flag, attached))
    (hwants : (flag.takesValue && attached.isNone) = true) (value : String) (rest : List String) :
    items flags (token :: value :: rest) =
      .flag ⟨flag, token, attached, some value⟩ :: items flags rest := by
  rw [items.eq_def]
  simp only [hne, if_false, hcalled, hwants, if_true]

/-- A flag that wants a value takes the next token, whatever that is. -/
theorem items_valued (h : Wants flags token true) (value : String) :
    ∃ given : Given α, given.tokens = [token, value] ∧
      ∀ rest, items flags (token :: value :: rest) = .flag given :: items flags rest := by
  obtain ⟨hne, flag, attached, hcalled, hwants⟩ := h.called
  exact ⟨⟨flag, token, attached, some value⟩, rfl,
    items_cons_of_called hne hcalled hwants value⟩

/-- At the end of a command line there is no value to take. -/
theorem items_lacking (h : Wants flags token true) :
    ∃ given : Given α, given.tokens = [token] ∧ items flags [token] = [.flag given] := by
  obtain ⟨hne, flag, attached, hcalled, hwants⟩ := h.called
  refine ⟨⟨flag, token, attached, none⟩, rfl, ?_⟩
  rw [items.eq_def]
  simp only [hne, if_false, hcalled, hwants, if_true]

/-- A group is an item, whatever follows it. -/
theorem items_group {group : List String} (h : IsGroup flags group) :
    ∃ given : Given α, given.tokens = group ∧
      ∀ rest, items flags (group ++ rest) = .flag given :: items flags rest := by
  cases h with
  | alone h => exact items_alone h
  | valued value h => exact items_valued h value

/-! ## readings -/

variable {args plain : List String} {groups : List (List String)}

/-- The items of a command line are its reading. -/
theorem Reading.eq_items (h : Reading flags args groups plain) :
    groups = (givenFlags flags args).map Given.tokens ∧ plain = plainTokens flags args := by
  induction h with
  | done => rw [givenFlags, plainTokens, items_nil]; exact ⟨rfl, rfl⟩
  | ended rest =>
    rw [givenFlags, plainTokens, items_dashes, List.filterMap_map, List.filterMap_map]
    exact ⟨by simp [Item.given?, Function.comp_def], List.filterMap_some.symm⟩
  | @group group args groups plain hgroup _ ih =>
    obtain ⟨given, rfl, hitems⟩ := items_group hgroup
    obtain ⟨rfl, rfl⟩ := ih
    simp only [givenFlags, plainTokens, hitems]
    exact ⟨rfl, rfl⟩
  | lacking h =>
    obtain ⟨given, htokens, hitems⟩ := items_lacking h
    rw [givenFlags, plainTokens, hitems, ← htokens]
    exact ⟨rfl, rfl⟩
  | @plain token args groups plain htoken _ ih =>
    obtain ⟨hne, hcalled⟩ := isPlain_iff.mp htoken
    obtain ⟨rfl, rfl⟩ := ih
    simp only [givenFlags, plainTokens, items_plain flags token args hne hcalled]
    exact ⟨rfl, rfl⟩

/-- Every command line has a reading. -/
theorem exists_reading (flags : List (Flag α)) (args : List String) :
    ∃ groups plain, Reading flags args groups plain := by
  match args with
  | [] => exact ⟨_, _, .done⟩
  | token :: rest =>
    rcases dashes_or_plain_or_wants flags token with rfl | htoken | ⟨wants, hwants⟩
    · exact ⟨_, _, .ended rest⟩
    · obtain ⟨groups, plain, h⟩ := exists_reading flags rest
      exact ⟨_, _, .plain htoken h⟩
    · cases wants with
      | false =>
        obtain ⟨groups, plain, h⟩ := exists_reading flags rest
        exact ⟨_, _, .group (.alone hwants) h⟩
      | true =>
        match rest with
        | [] => exact ⟨_, _, .lacking hwants⟩
        | value :: rest =>
          obtain ⟨groups, plain, h⟩ := exists_reading flags rest
          exact ⟨_, _, .group (.valued value hwants) h⟩
termination_by args.length

/-- Routing puts what is read in order. -/
theorem Reading.routeCommand_eq (h : Reading flags args groups plain) (program : String) :
    routeCommand flags (program :: args) = program :: groups.flatten ++ "--" :: plain := by
  obtain ⟨rfl, rfl⟩ := h.eq_items
  rw [routeCommand, route, List.flatMap_def, List.cons_append]

/-- Before the inserted `--` stand flags and their values only. -/
theorem Reading.isGroup (h : Reading flags args groups plain) {group : List String}
    (hmem : group ∈ groups) :
    IsGroup flags group ∨ ∃ token, group = [token] ∧ Wants flags token true := by
  induction h with
  | done | ended => cases hmem
  | group hgroup _ ih =>
    rcases List.mem_cons.mp hmem with rfl | hmem
    · exact .inl hgroup
    · exact ih hmem
  | lacking h => exact .inr ⟨_, List.mem_singleton.mp hmem, h⟩
  | plain _ _ ih => exact ih hmem

/-! ## where a flag can stand -/

/-- Tokens that end where a flag could start: whole flags and plain tokens, none of which ends the
reading of flags. -/
inductive IsWhole (flags : List (Flag α)) : List String → Prop where
  | nil : IsWhole flags []
  | group {group args : List String} (hgroup : IsGroup flags group) (h : IsWhole flags args) :
      IsWhole flags (group ++ args)
  | plain {token : String} {args : List String} (htoken : IsPlain flags token)
      (h : IsWhole flags args) : IsWhole flags (token :: args)

/-- What follows whole flags and plain tokens is read on its own. -/
theorem IsWhole.items_append {before : List String} (h : IsWhole flags before)
    (rest : List String) :
    items flags (before ++ rest) = items flags before ++ items flags rest := by
  induction h with
  | nil => rw [items_nil, List.nil_append, List.nil_append]
  | group hgroup _ ih =>
    obtain ⟨given, -, hitems⟩ := items_group hgroup
    rw [List.append_assoc, hitems, hitems, ih, List.cons_append]
  | plain htoken _ ih =>
    obtain ⟨hne, hcalled⟩ := isPlain_iff.mp htoken
    rw [List.cons_append, items_plain _ _ _ hne hcalled, items_plain _ _ _ hne hcalled, ih,
      List.cons_append]

/-- A flag of a command line stands after whole flags and plain tokens. -/
theorem exists_isWhole_of_mem_givenFlags {g : Given α}
    (h : g ∈ givenFlags flags args) : ∃ before after, IsWhole flags before ∧
      args = before ++ (g.tokens ++ after) ∧ called? flags g.token = some (g.flag, g.attached) ∧
      (g.flag.takesValue = false → g.operand = none) := by
  rw [givenFlags] at h
  fun_induction items flags args with
  | case1 => cases h
  | case2 rest => simp [Item.given?] at h
  | case3 token rest hne hcalled ih =>
    obtain ⟨before, after, hwhole, rfl, hg⟩ := ih h
    exact ⟨token :: before, after, .plain (isPlain_iff.mpr ⟨hne, hcalled⟩) hwhole, rfl, hg⟩
  | case4 token hne flag attached hcalled hwants =>
    obtain rfl := List.mem_singleton.mp h
    exact ⟨[], [], .nil, rfl, hcalled, fun _ => rfl⟩
  | case5 token hne flag attached hcalled hwants operand rest ih =>
    rcases List.mem_cons.mp h with rfl | h
    · refine ⟨[], rest, .nil, rfl, hcalled, fun htakes => ?_⟩
      simp only at htakes
      simp [htakes] at hwants
    · obtain ⟨before, after, hwhole, rfl, hg⟩ := ih h
      have hgroup := IsGroup.valued operand (hwants ▸ wants_of_called hne hcalled)
      exact ⟨_, after, .group hgroup hwhole, rfl, hg⟩
  | case6 token rest hne flag attached hcalled hwants ih =>
    rcases List.mem_cons.mp h with rfl | h
    · exact ⟨[], rest, .nil, rfl, hcalled, fun _ => rfl⟩
    · obtain ⟨before, after, hwhole, rfl, hg⟩ := ih h
      have hgroup := IsGroup.alone (eq_false_of_ne_true hwants ▸ wants_of_called hne hcalled)
      exact ⟨_, after, .group hgroup hwhole, rfl, hg⟩

/-! ## merges -/

theorem merges_nil_left (plain : List String) : Merges [] plain plain := by
  induction plain with
  | nil => exact .nil
  | cons token plain ih => exact .plain ih

/-- **Nothing is lost**: a command line merges its flags with its plain tokens and the `--` that
ends the reading, if there is one. -/
theorem Reading.merges (h : Reading flags args groups plain) :
    Merges groups plain args ∨ ∃ before after, plain = before ++ after ∧ "--" ∉ before ∧
      Merges groups (before ++ "--" :: after) args := by
  induction h with
  | done => exact .inl .nil
  | ended rest => exact .inr ⟨[], rest, rfl, List.not_mem_nil, merges_nil_left _⟩
  | group _ _ ih =>
    rcases ih with h | ⟨before, after, hplain, hbefore, h⟩
    · exact .inl (.group h)
    · exact .inr ⟨before, after, hplain, hbefore, .group h⟩
  | lacking => exact .inl (.group .nil)
  | @plain token _ _ _ htoken _ ih =>
    rcases ih with h | ⟨before, after, rfl, hbefore, h⟩
    · exact .inl (.plain h)
    · refine .inr ⟨token :: before, after, rfl, ?_, .plain h⟩
      exact List.not_mem_cons_of_ne_of_not_mem htoken.ne_dashes.symm hbefore

/-- Merged flags and plain tokens are read as what they were. -/
theorem Merges.reading (h : Merges groups plain args)
    (hgroups : ∀ group ∈ groups, IsGroup flags group)
    (hplain : ∀ token ∈ plain, IsPlain flags token) {ending tail : List String}
    (hend : Reading flags ending [] tail) :
    Reading flags (args ++ ending) groups (plain ++ tail) := by
  induction h with
  | nil => exact hend
  | group _ ih =>
    obtain ⟨hgroup, hgroups⟩ := List.forall_mem_cons.mp hgroups
    rw [List.append_assoc]
    exact .group hgroup (ih hgroups hplain)
  | plain _ ih =>
    obtain ⟨htoken, hplain⟩ := List.forall_mem_cons.mp hplain
    exact .plain htoken (ih hgroups hplain)

/-- **Routing**: a command line has one reading, and routing gives its flags in order, one `--`, and
its plain tokens in order.  All tokens of the reading are those of the command line, but for the
first `--` in the place of an item, and only flags and their values come before the `--` that is put
in.  However complete flags are merged with plain tokens, before a `--` with more tokens or without
one, the same flags and tokens come out in the same order. -/
theorem routeCommand_reading (flags : List (Flag α)) (program : String) :
    (∀ args, ∃ groups plain, Reading flags args groups plain ∧
      (∀ groups' plain', Reading flags args groups' plain' → groups' = groups ∧ plain' = plain) ∧
      routeCommand flags (program :: args) = program :: groups.flatten ++ "--" :: plain ∧
      (∀ group ∈ groups,
        IsGroup flags group ∨ ∃ token, group = [token] ∧ Wants flags token true) ∧
      (Merges groups plain args ∨ ∃ before after, plain = before ++ after ∧ "--" ∉ before ∧
        Merges groups (before ++ "--" :: after) args)) ∧
    ∀ groups plain tail args, (∀ group ∈ groups, IsGroup flags group) →
      (∀ token ∈ plain, IsPlain flags token) → Merges groups plain args →
        routeCommand flags (program :: args) = program :: groups.flatten ++ "--" :: plain ∧
        routeCommand flags (program :: (args ++ "--" :: tail)) =
          program :: groups.flatten ++ "--" :: (plain ++ tail) := by
  refine ⟨fun args => ?_, fun groups plain tail args hgroups hplain hmerges => ⟨?_, ?_⟩⟩
  · obtain ⟨groups, plain, h⟩ := exists_reading flags args
    refine ⟨groups, plain, h, fun groups' plain' h' => ?_, h.routeCommand_eq program,
      fun group => h.isGroup, h.merges⟩
    obtain ⟨rfl, rfl⟩ := h.eq_items
    exact h'.eq_items
  · have h := hmerges.reading hgroups hplain .done
    rw [List.append_nil, List.append_nil] at h
    exact h.routeCommand_eq program
  · exact (hmerges.reading hgroups hplain (.ended tail)).routeCommand_eq program

end FixBatch.CommandLine
