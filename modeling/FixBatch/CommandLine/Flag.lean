import FixBatch.Options

/-!
# FixBatch.CommandLine.Flag

Flags among other tokens.  A command line is read from left to right as items: a flag with the
tokens that are its own, or a token that is no flag's.  The first `--` where an item could start
ends the reading, and every token after it is no flag's.  Routing moves the flags to the front:

* `items` — the items of a command line;
* `route` — the flags in order, one `--`, and all other tokens in order.
-/

namespace FixBatch.CommandLine

/-! ## Flags -/

/-- A flag: what it means, what it is called, and whether it takes a value. -/
structure Flag (α : Type) where
  meaning : α
  long : Option String
  short : Option Char
  takesValue : Bool
deriving Repr

/-- How a token calls a flag: by two dashes and a name, perhaps with a value after the first equals
sign, or by one dash and one character. -/
inductive Calling where
  | long (name : String) (value : Option String)
  | short (c : Char)
deriving DecidableEq, Repr

namespace Calling

/-- How a token calls a flag, if it does. -/
def ofToken? (token : String) : Option Calling :=
  match Token.ofString token with
  | .option name value => some (long name value)
  | .path p =>
    match p.text.toList with
    | ['-', c] => some (short c)
    | _ => none

/-- The value that stands in the calling token itself. -/
def value : Calling → Option String
  | long _ value => value
  | short _ => none

end Calling

/-- Whether a flag is called so. -/
def Flag.isCalled (f : Flag α) : Calling → Bool
  | .long name _ => f.long == some name
  | .short c => f.short == some c

/-! ## Items -/

/-- A flag as a command line gives it: the token that calls it, and the value in that token or in
the next one. -/
structure Given (α : Type) where
  flag : Flag α
  token : String
  attached : Option String
  operand : Option String

/-- The tokens that are a flag's own. -/
def Given.tokens (g : Given α) : List String := g.token :: g.operand.toList

/-- One item of a command line. -/
inductive Item (α : Type) where
  | flag (given : Given α)
  | plain (token : String)

namespace Item

def given? : Item α → Option (Given α)
  | flag g => some g
  | plain _ => none

def plain? : Item α → Option String
  | flag _ => none
  | plain token => some token

end Item

/-- The flag that a token calls, with the value in the token. -/
def called? (flags : List (Flag α)) (token : String) : Option (Flag α × Option String) := do
  let calling ← Calling.ofToken? token
  let flag ← flags.find? (·.isCalled calling)
  return (flag, calling.value)

/-- The items of a command line.  A flag that wants a value and brings none takes the next token,
whatever that is. -/
def items (flags : List (Flag α)) : List String → List (Item α)
  | [] => []
  | token :: rest =>
    if token = "--" then rest.map .plain
    else match called? flags token with
      | none => .plain token :: items flags rest
      | some (flag, attached) =>
        if flag.takesValue && attached.isNone then
          match rest with
          | [] => [.flag ⟨flag, token, attached, none⟩]
          | operand :: rest => .flag ⟨flag, token, attached, some operand⟩ :: items flags rest
        else .flag ⟨flag, token, attached, none⟩ :: items flags rest

theorem items_nil (flags : List (Flag α)) : items flags [] = [] := by simp [items]

/-- After the first `--` there are no flags. -/
theorem items_dashes (flags : List (Flag α)) (rest : List String) :
    items flags ("--" :: rest) = rest.map .plain := by
  rw [items.eq_def]; simp

/-- A token that calls no flag is an item of its own. -/
theorem items_plain (flags : List (Flag α)) (token : String) (rest : List String)
    (hne : token ≠ "--") (h : called? flags token = none) :
    items flags (token :: rest) = .plain token :: items flags rest := by
  rw [items.eq_def]; simp [hne, h]

/-- The flags of a command line, in order. -/
def givenFlags (flags : List (Flag α)) (args : List String) : List (Given α) :=
  (items flags args).filterMap Item.given?

/-- The tokens of a command line that are no flag's, in order. -/
def plainTokens (flags : List (Flag α)) (args : List String) : List String :=
  (items flags args).filterMap Item.plain?

/-! ## Routing -/

/-- The flags first, then `--`, then all other tokens. -/
def route (flags : List (Flag α)) (args : List String) : List String :=
  (givenFlags flags args).flatMap Given.tokens ++ "--" :: plainTokens flags args

/-- Routes what follows the name of the program. -/
def routeCommand (flags : List (Flag α)) : List String → List String
  | [] => route flags []
  | program :: args => program :: route flags args

end FixBatch.CommandLine
