import FixBatch.Shell.Condition
import FixBatch.Shell.Running

/-!
# FixBatch.Shell.Builtin.Basic

What the builtins of the shells have in common: what they get, how they complain, and how they read
options and numbers.  A builtin answers with its status.
-/

namespace FixBatch.Shell

variable {m : Type → Type} [Monad m]

/-- What a builtin can use of the shell that it is part of. -/
structure Host (m : Type → Type) where
  execute : Execute m

/-- A builtin: what it does with its arguments, under the name it is called by. -/
abbrev Builtin (m : Type → Type) := Host m → Bytes → List Bytes → Act m Nat

namespace Builtin

/-- Complains, with a status. -/
def fail (name : Bytes) (status : Nat) (text : Bytes) : Act m Nat := do
  complainAs name text
  return status

/-- Complains as a builtin whose faults end a plain shell. -/
def failSpecial (name : Bytes) (status : Nat) (text : Bytes) : Act m Nat := do
  let s ← get
  complainAs name text
  if s.dialect = .plain && !s.guarded then throw (.exit status) else return status

/-- Writes to where errors are told, without saying where in the script. -/
def tell (text : Bytes) : Act m Unit := do
  let _ ← emit 2 text

/-- What the extended shell says about how a builtin is used. -/
def usage? (name : Bytes) : Option Bytes :=
  List.lookup name
    [("cd", "cd [-L|[-P [-e]] [-@]] [dir]"), ("command", "command [-pVv] command [arg ...]"),
      ("export", "export [-fn] [name[=value] ...] or export -p"),
      ("kill", "kill [-s sigspec | -n signum | -sigspec] pid | jobspec ... or kill -l [sigspec]"),
      ("local", "local [option] name[=value] ..."), ("printf", "printf [-v var] format [arguments]"),
      ("pwd", "pwd [-LP]"),
      ("read", "read [-ers] [-a array] [-d delim] [-i text] [-n nchars] [-N nchars] [-p prompt] " ++
        "[-t timeout] [-u fd] [name ...]"),
      ("set", "set [-abefhkmnptuvxBCEHPT] [-o option-name] [--] [-] [arg ...]"),
      ("source", "source filename [arguments]"), (".", ". filename [arguments]"),
      ("trap", "trap [-lp] [[arg] signal_spec ...]"), ("unset", "unset [-f] [-v] [-n] [name ...]"),
      ("wait", "wait [-fn] [-p var] [id ...]")]

/-- Tells how a builtin is used. -/
def tellUsage (name : Bytes) : Act m Unit :=
  match usage? name with
  | some text => tell (name ++ ": usage: " ++ text ++ "\n")
  | none => return

/-! ## Options -/

/-- The options in front of arguments, by their letters, and the other arguments. -/
structure Options where
  letters : List Char
  rest : List Bytes

/-- Whether an option is among those given. -/
def Options.has (o : Options) (c : Char) : Bool := o.letters.contains c

/-- The options in front of arguments, or the letter of one that is not known. -/
def takeOptions (known : List Char) : List Bytes → Except Char Options
  | [] => .ok ⟨[], []⟩
  | arg :: rest =>
    match arg.toList with
    | ['-', '-'] => .ok ⟨[], rest⟩
    | '-' :: c :: cs =>
      match (c :: cs).find? (!known.contains ·) with
      | some bad => .error bad
      | none => (takeOptions known rest).map fun o => ⟨c :: cs ++ o.letters, o.rest⟩
    | _ => .ok ⟨[], arg :: rest⟩

/-- Goes on with the options in front of arguments; each shell has words of its own for options that
it does not have. -/
def withOptions (name : Bytes) (special : Bool) (known : List Char) (args : List Bytes)
    (body : Options → Act m Nat) : Act m Nat := do
  match takeOptions known args, (← get).dialect with
  | .ok o, _ => body o
  | .error c, .plain =>
    let text := "Illegal option -" ++ String.ofList [c]
    if special then failSpecial name 2 text else fail name 2 text
  | .error c, .extended => do
    complainAs name ("-" ++ String.ofList [c] ++ ": invalid option")
    tellUsage name
    return 2

/-! ## Numbers -/

/-- A number that is not negative. -/
def number? (s : Bytes) : Option Nat :=
  let cs := s.toList
  if cs.isEmpty || !cs.all Char.isDigit then none else some (Text.ofDigits 10 cs)

/-- A number with or without a sign, blanks around it. -/
def integer? (s : Bytes) : Option Int := Condition.integer? s

/-- What each shell says of a text that is no number. -/
def numberFault (name : Bytes) (special : Bool) (text : Bytes) (status : Nat) : Act m Nat := do
  if ← isExtended then fail name status (text ++ ": numeric argument required")
  else if special then failSpecial name 2 ("Illegal number: " ++ text)
  else fail name 2 ("Illegal number: " ++ text)

end Builtin

end FixBatch.Shell
