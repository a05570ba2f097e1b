import FixBatch.Files.Access
import FixBatch.Shell.Syntax

/-!
# FixBatch.Shell.Condition

Conditions, as the arguments of a test give them.  The shells read them each in its own way: they
differ where an operator could also be an operand, and in what they say about arguments that form no
condition.

* `Condition.read` — the condition that arguments form;
* `Condition.holds` — whether it holds on a disk.
-/

namespace FixBatch.Shell

/-- A condition. -/
inductive Condition where
  | filled (text : Bytes)
  | unary (op arg : Bytes)
  | binary (op a b : Bytes)
  | not (c : Condition)
  | both (a b : Condition)
  | either (a b : Condition)
deriving DecidableEq, Repr

namespace Condition

/-- The condition that never holds. -/
def never : Condition := filled ""

/-! ## Operators -/

/-- The operators on one argument. -/
def unaryOperators (dialect : Dialect) : List Bytes :=
  ["-b", "-c", "-d", "-e", "-f", "-g", "-h", "-k", "-n", "-p", "-r", "-s", "-t", "-u", "-w", "-x",
    "-z", "-G", "-L", "-O", "-S"] ++
    match dialect with
    | .plain => []
    | .extended => ["-a", "-v"]

/-- The operators between two arguments. -/
def binaryOperators (dialect : Dialect) : List Bytes :=
  ["=", "!=", "-eq", "-ne", "-lt", "-le", "-gt", "-ge", "-ef", "<", ">"] ++
    match dialect with
    | .plain => []
    | .extended => ["=="]

def isUnary (dialect : Dialect) (s : Bytes) : Bool := (unaryOperators dialect).contains s

def isBinary (dialect : Dialect) (s : Bytes) : Bool := (binaryOperators dialect).contains s

/-! ## The plain shell -/

/-- What is wrong with arguments. -/
abbrev Fault := Bytes

/-- What a reader takes of arguments: a condition and what is left. -/
abbrev Taken := Except Fault (Condition × List Bytes)

/-- What the first argument is to the plain shell. -/
inductive Role where
  | finish
  | operand
  | unary
  | binary
  | negation
  | conjunction
  | disjunction
  | opening
  | closing
deriving DecidableEq, Repr

/-- The role of the first argument to the plain shell. -/
def role : List Bytes → Role
  | [] => .finish
  | s :: rest =>
    if isUnary .plain s then
      match rest with
      | [] => .operand
      | [_] => .unary
      | next :: _ => if isBinary .plain next then .operand else .unary
    else if isBinary .plain s then .binary
    else match s with
      | "!" => .negation
      | "-a" => .conjunction
      | "-o" => .disjunction
      | "(" => if rest.isEmpty then .operand else .opening
      | ")" => .closing
      | _ => .operand

mutual

/-- Alternatives, as the plain shell reads them.  The last argument that was used is left first. -/
def plainEither : Nat → Role → List Bytes → Taken
  | 0, _, _ => .error "too many arguments"
  | fuel + 1, r, args => do
    let (first, args) ← plainBoth fuel r args
    match role (args.drop 1) with
    | .disjunction => do
      let (second, args) ← plainEither fuel (role (args.drop 2)) (args.drop 2)
      return (.either first second, args)
    | _ => return (first, args)

/-- Conjunctions, as the plain shell reads them. -/
def plainBoth : Nat → Role → List Bytes → Taken
  | 0, _, _ => .error "too many arguments"
  | fuel + 1, r, args => do
    let (first, args) ← plainNot fuel r args
    match role (args.drop 1) with
    | .conjunction => do
      let (second, args) ← plainBoth fuel (role (args.drop 2)) (args.drop 2)
      return (.both first second, args)
    | _ => return (first, args)

/-- Negations, as the plain shell reads them. -/
def plainNot : Nat → Role → List Bytes → Taken
  | 0, _, _ => .error "too many arguments"
  | fuel + 1, .negation, args => do
    let r := role (args.drop 1)
    let (c, args) ← plainNot fuel r (if r = .finish then args else args.drop 1)
    return (.not c, args)
  | fuel + 1, r, args => plainOne fuel r args

/-- Single conditions, as the plain shell reads them. -/
def plainOne : Nat → Role → List Bytes → Taken
  | 0, _, _ => .error "too many arguments"
  | fuel + 1, r, args =>
    match r, args with
    | .finish, _ | _, [] => return (never, args)
    | .opening, _ :: rest => do
      if role rest = .closing then return (never, rest)
      else
        let (c, args) ← plainEither fuel (role rest) rest
        match role (args.drop 1) with
        | .closing => return (c, args.drop 1)
        | _ => throw "closing paren expected"
    | .unary, op :: rest =>
      match rest with
      | arg :: _ => return (.unary op arg, rest)
      | [] => throw (op ++ ": argument expected")
    | _, a :: rest =>
      match role rest, rest with
      | .binary, op :: more =>
        match more with
        | b :: _ => return (.binary op a b, more)
        | [] => throw (op ++ ": argument expected")
      | _, _ => return (.filled a, args)

end

/-- The condition of arguments, as the plain shell reads them. -/
def readPlain (args : List Bytes) : Except Fault Condition := do
  let whole (r : Role) (args : List Bytes) : Except Fault Condition := do
    let (c, left) ← plainEither (8 * args.length + 16) r args
    match left with
    | last :: _ :: _ => throw (last ++ ": unexpected operator")
    | _ => return c
  match args with
  | [] => return never
  | [_, op, _] => if isBinary .plain op then whole .operand args else unwrapped whole args
  | [_, _, _, _] => unwrapped whole args
  | _ => whole (role args) args
where
  /-- Three or four arguments may stand between parentheses, or after a negation. -/
  unwrapped (whole : Role → List Bytes → Except Fault Condition) (args : List Bytes) :
      Except Fault Condition :=
    if args.head? = some "(" && args.getLast? = some ")" then
      let inside := (args.drop 1).dropLast
      whole (role inside) inside
    else if args.head? = some "!" then whole .negation args
    else whole (role args) args

/-! ## The extended shell -/

/-- One argument: whether it is filled. -/
def one (s : Bytes) : Condition := .filled s

/-- Two arguments. -/
def two (a b : Bytes) : Except Fault Condition :=
  if a = "!" then return .not (one b)
  else if isUnary .extended a then return .unary a b
  else throw (a ++ ": unary operator expected")

mutual

/-- Alternatives. -/
def either_ : Nat → List Bytes → Taken
  | 0, _ => .error "too many arguments"
  | fuel + 1, args => do
    let (first, args) ← both_ fuel args
    match args with
    | "-o" :: rest => do
      let (second, rest) ← either_ fuel rest
      return (.either first second, rest)
    | _ => return (first, args)

/-- Conjunctions. -/
def both_ : Nat → List Bytes → Taken
  | 0, _ => .error "too many arguments"
  | fuel + 1, args => do
    let (first, args) ← term fuel args
    match args with
    | "-a" :: rest => do
      let (second, rest) ← both_ fuel rest
      return (.both first second, rest)
    | _ => return (first, args)

/-- Single conditions. -/
def term : Nat → List Bytes → Taken
  | 0, _ => .error "too many arguments"
  | fuel + 1, args =>
    match args with
    | [] => .error "argument expected"
    | "!" :: rest => do
      let (c, rest) ← term fuel rest
      return (.not c, rest)
    | "(" :: rest => do
      let (c, rest) ← either_ fuel rest
      match rest with
      | ")" :: rest => return (c, rest)
      | found :: _ => throw ("`)' expected, found " ++ found)
      | [] => throw "`)' expected"
    | a :: op :: b :: rest =>
      if isBinary .extended op then return (.binary op a b, rest)
      else if isUnary .extended a then return (.unary a op, b :: rest)
      else return (.filled a, op :: b :: rest)
    | [a, b] => if isUnary .extended a then return (.unary a b, []) else return (.filled a, [b])
    | [a] => return (.filled a, [])

end

/-- Any number of arguments. -/
def many (args : List Bytes) : Except Fault Condition := do
  match ← either_ (4 * args.length + 8) args with
  | (c, []) => return c
  | _ => throw "too many arguments"

/-- Three arguments. -/
def three (a b c : Bytes) : Except Fault Condition :=
  if isBinary .extended b then return .binary b a c
  else if b = "-a" then return .both (one a) (one c)
  else if b = "-o" then return .either (one a) (one c)
  else if a = "!" then return .not (← two b c)
  else if a = "(" && c = ")" then return one b
  else throw (b ++ ": binary operator expected")

/-- The condition of arguments, as the extended shell reads them. -/
def readExtended : List Bytes → Except Fault Condition
  | [] => return never
  | [a] => return one a
  | [a, b] => two a b
  | [a, b, c] => three a b c
  | [a, b, c, d] =>
    if a = "!" then return .not (← three b c d)
    else if a = "(" && d = ")" then two b c
    else many [a, b, c, d]
  | args => many args

/-- The condition that arguments form. -/
def read : Dialect → List Bytes → Except Fault Condition
  | .plain, args => readPlain args
  | .extended, args => readExtended args

/-! ## Truth -/

/-- An integer in the words of a test, with blanks around it. -/
def integer? (s : Bytes) : Option Int :=
  let isBlank (c : Char) := c == ' ' || (0x09 ≤ c.toNat && c.toNat ≤ 0x0d)
  let digits := ((s.toList.dropWhile isBlank).reverse.dropWhile isBlank).reverse
  let number (digits : List Char) : Option Nat :=
    if digits.isEmpty || !digits.all Char.isDigit then none
    else (String.ofList digits).toNat?
  match digits with
  | '-' :: digits => (number digits).map fun n => -(n : Int)
  | '+' :: digits => (number digits).map fun n => (n : Int)
  | digits => (number digits).map fun n => (n : Int)

/-- What is said of a text that is no integer. -/
def noInteger (dialect : Dialect) (s : Bytes) : Fault :=
  match dialect with
  | .plain => "Illegal number: " ++ s
  | .extended => s ++ ": integer expression expected"

/-- How two integers compare under an operator. -/
def compares (op : Bytes) (a b : Int) : Bool :=
  match op with
  | "-eq" => a == b
  | "-ne" => a != b
  | "-lt" => a < b
  | "-le" => a ≤ b
  | "-gt" => b < a
  | _ => b ≤ a

/-- What a test asks of the world: files, and what the shell knows. -/
structure Facts (m : Type → Type) where
  disk : Files.Disk m
  path : Bytes → Path
  /-- Whether a variable is set. -/
  isSet : Bytes → m Bool

variable {m : Type → Type} [Monad m]

/-- Whether an operator holds for one argument. -/
def unaryHolds (facts : Facts m) (dialect : Dialect) (op arg : Bytes) : m (Except Fault Bool) := do
  let look (follow : Bool) : m (Option Files.Look) := do
    return (← facts.disk.look follow (facts.path arg)).toOption
  match op with
  | "-n" => return .ok (!arg.isEmpty)
  | "-z" => return .ok arg.isEmpty
  | "-t" =>
    match integer? arg with
    | some _ => return .ok false
    | none => return if dialect = .extended then .ok false else .error (noInteger dialect arg)
  | "-v" => return .ok (← facts.isSet arg)
  | "-h" | "-L" => return .ok ((← look false).any fun l => l.nature == .link)
  | "-e" | "-a" | "-r" | "-w" | "-O" | "-G" => return .ok (← look true).isSome
  | "-f" => return .ok ((← look true).any fun l => l.nature == .file)
  | "-d" => return .ok ((← look true).any fun l => l.nature == .directory)
  | "-c" => return .ok ((← look true).any fun l => l.nature == .device)
  | "-x" => return .ok ((← look true).any fun l => l.runs)
  | "-s" => return .ok ((← look true).any fun l => l.size != 0)
  | _ => return .ok false

/-- Whether an operator holds between two arguments. -/
def binaryHolds (facts : Facts m) (dialect : Dialect) (op a b : Bytes) : m (Except Fault Bool) := do
  match op with
  | "=" | "==" => return .ok (a == b)
  | "!=" => return .ok (a != b)
  | "<" => return .ok (a < b)
  | ">" => return .ok (b < a)
  | "-ef" =>
    let first ← facts.disk.resolve (facts.path a)
    let second ← facts.disk.resolve (facts.path b)
    return .ok (match first.toOption, second.toOption with
      | some p, some q => p == q
      | _, _ => false)
  | _ =>
    match integer? a, integer? b with
    | some n, some k => return .ok (compares op n k)
    | none, _ => return .error (noInteger dialect a)
    | _, none => return .error (noInteger dialect b)

/-- Whether a condition holds. -/
def holds (facts : Facts m) (dialect : Dialect) : Condition → m (Except Fault Bool)
  | filled text => return .ok (!text.isEmpty)
  | unary op arg => unaryHolds facts dialect op arg
  | binary op a b => binaryHolds facts dialect op a b
  | not c => do return (← holds facts dialect c).map (!·)
  | both a b => combined (· && ·) <$> holds facts dialect a <*> holds facts dialect b
  | either a b => combined (· || ·) <$> holds facts dialect a <*> holds facts dialect b
where
  /-- Both answers together; the first fault counts. -/
  combined (f : Bool → Bool → Bool) (a b : Except Fault Bool) : Except Fault Bool := do
    return f (← a) (← b)

/-- Whether the condition that arguments form holds. -/
def judge (facts : Facts m) (dialect : Dialect) (args : List Bytes) : m (Except Fault Bool) := do
  match read dialect args with
  | .error f => return .error f
  | .ok c => holds facts dialect c

end Condition

end FixBatch.Shell
