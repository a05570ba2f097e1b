import FixBatch.Shell.Assigning
import FixBatch.Shell.Builtin.Basic

/-!
# FixBatch.Shell.Builtin.Variables

Builtins that declare variables and take them away, and those that set options and parameters.
-/

namespace FixBatch.Shell.Builtin

variable {m : Type → Type} [Monad m]

/-! ## Declaring -/

/-- An argument of a builtin that declares variables. -/
inductive Declared where
  | text (s : Bytes)
  | setting (a : Setting)

/-- What an argument declares: a name with a value or without one, if it has the form of that. -/
def settingOf? : Declared → Except Bytes (Bytes × Option Setting)
  | .setting a => .ok (a.name, some a)
  | .text s =>
    let name := String.ofList (s.toList.takeWhile isNameChar)
    match s.toList.drop name.length with
    | [] => if isName name then .ok (name, none) else .error s
    | '=' :: value =>
      if isName name then .ok (name, some ⟨name, none, false, .text (String.ofList value)⟩)
      else .error s
    | _ => .error s

/-- What is said of an argument that declares nothing. -/
def nameFault (builtin : Bytes) (special : Bool) (text : Bytes) : Act m Nat := do
  if ← isExtended then fail builtin 1 ("\x60" ++ text ++ "': not a valid identifier")
  else
    let name := String.ofList (text.toList.takeWhile (· != '='))
    if special then failSpecial builtin 2 (name ++ ": bad variable name")
    else fail builtin 2 (name ++ ": bad variable name")

/-- Says whether a variable is exported. -/
def mark (name : Bytes) (exported : Bool) : Act m Unit :=
  modify fun s => s.put name { (s.find? name).getD { content := none } with exported }

/-- Does something with each name that is declared, and gives it its value if it has one. -/
def declareAll (builtin : Bytes) (special : Bool) (prepare : Bytes → Act m Unit)
    (args : List Declared) : Act m Nat :=
  args.foldlM (fun status arg => do
    match settingOf? arg with
    | .error text => nameFault builtin special text
    | .ok (name, setting) => do
      prepare name
      setting.forM Setting.apply
      return status) 0

/-- Exports variables. -/
def export_ (name : Bytes) (args : List Bytes) (declared : List Declared) : Act m Nat :=
  withOptions name true ['n'] args fun o => declareAll name true (mark · (!o.has 'n')) declared

/-- Makes a variable one of the function that runs; it may keep the value that it has. -/
def makeLocal (keeps : Bool) (name : Bytes) : Act m Unit := do
  let s ← get
  match s.frames with
  | [] => return
  | frame :: frames =>
    if (frame.lookup name).isNone then
      let old := s.find? name
      set { s with frames := ((name, old) :: frame) :: frames }
      if !keeps then
        modify fun s => s.put name { content := none, exported := (old.map Variable.exported).getD false }

/-- Makes variables such that belong to the function that runs. -/
def local_ (name : Bytes) (args : List Bytes) (declared : List Declared) : Act m Nat :=
  withOptions name false [] args fun _ => do
    let s ← get
    match s.frames, s.dialect with
    | [], .plain => failSpecial name 2 "not in a function"
    | [], .extended => fail name 1 "can only be used in a function"
    | _, dialect => declareAll name (dialect == .plain) (makeLocal (dialect == .plain)) declared

/-- Takes variables away, or functions. -/
def unset : Builtin m := fun _ name args =>
  withOptions name true ['f', 'v'] args fun o =>
    o.rest.foldlM (fun status word => do
      let s ← get
      let isVariable := (s.find? word).isSome
      if o.has 'f' || (s.dialect = .extended && !isVariable && !o.has 'v') then
        set { s with functions := s.functions.filter fun f => f.1 != word }
        return status
      else if isVariable then
        set (s.drop word)
        return status
      else if s.dialect = .plain && !isName word then nameFault name true word
      else return status) 0

/-! ## Options and parameters of the shell -/

/-- Sets options, and the parameters with numbers if there are any. -/
def setFrom (dialect : Dialect) : Nat → List Bytes → Act m (Except Bytes Unit)
  | 0, _ | _ + 1, [] => return .ok ()
  | fuel + 1, arg :: rest => do
    let letters (on : Bool) (cs : List Char) : Act m (Except Bytes Unit) := do
      match takeLetters dialect on cs ⟨[], false, false, []⟩ rest with
      | .error text => return .error text
      | .ok (r, rest) => do
        modify fun s => r.options.foldl (fun s (name, on) => s.setOption name on) s
        setFrom dialect fuel rest
    match arg.toList with
    | ['-', '-'] => do
      modify fun s => { s with positional := rest }
      return .ok ()
    | '-' :: cs => letters true cs
    | '+' :: cs => letters false cs
    | _ => do
      modify fun s => { s with positional := arg :: rest }
      return .ok ()

/-- Sets options and the parameters with numbers. -/
def set_ : Builtin m := fun _ name args => do
  match ← setFrom (← get).dialect (args.length + 1) args with
  | .ok () => return 0
  | .error text => do
    let status ← failSpecial name 2 text
    if text.endsWith ": invalid option" then tellUsage name
    return status

/-- Drops the first of the parameters with numbers. -/
def shift : Builtin m := fun _ name args => do
  let s ← get
  let text := args.headD "1"
  match integer? text with
  | none => numberFault name true text 1
  | some n =>
    if n < 0 then
      match s.dialect with
      | .plain => numberFault name true text 1
      | .extended => fail name 1 (text ++ ": shift count out of range")
    else if s.positional.length < n.toNat then
      match s.dialect with
      | .plain => failSpecial name 2 "can't shift that many"
      | .extended => return 1
    else do
      modify fun s => { s with positional := s.positional.drop n.toNat }
      return 0

end FixBatch.Shell.Builtin
