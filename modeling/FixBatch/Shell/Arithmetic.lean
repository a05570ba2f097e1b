import FixBatch.Shell.Syntax
import FixBatch.Text.Digit

/-!
# FixBatch.Shell.Arithmetic

Arithmetic expressions over integers of 64 bits, which wrap around.  The extended shell knows
powers, steps up and down, and commas besides.

* `Sum.ofBytes` — an expression from its text;
* `Sum.value` — its value, among variables that it may read and set.
-/

namespace FixBatch.Shell

/-- An arithmetic expression. -/
inductive Sum where
  | number (n : Int)
  | parameter (name : Bytes)
  | unary (op : Bytes) (a : Sum)
  | binary (op : Bytes) (a b : Sum)
  /-- A quotient or a remainder, with the text from its divisor on. -/
  | divided (op : Bytes) (a b : Sum) (divisor : Bytes)
  | both (a b : Sum)
  | either (a b : Sum)
  | choice (test yes no : Sum)
  /-- Sets a variable; an operator combines its value with the new one first. -/
  | assign (name : Bytes) (op : Option Bytes) (a : Sum) (divisor : Bytes)
  /-- Adds to a variable; the value is that from before or that from after. -/
  | step (name : Bytes) (by_ : Int) (before : Bool)
  | sequence (a b : Sum)

namespace Sum

/-- An integer within 64 bits. -/
def wrapped (n : Int) : Int := Int.bmod n (Nat.pow 2 64)

/-! ## Tokens -/

/-- A token of an expression. -/
inductive Token where
  | number (n : Int)
  | name (s : Bytes)
  | op (s : Bytes)
  /-- A number that is none, and what is wrong with it. -/
  | malformed (complaint : Bytes)
  | unknown
  | finish
deriving DecidableEq, Repr

/-- A token and the text of the expression that it begins. -/
structure Placed where
  token : Token
  text : Bytes

/-- The operators, the longer ones before those they start with. -/
def operators (dialect : Dialect) : List Bytes :=
  ["<<=", ">>="] ++ (if dialect = .extended then ["**", "++", "--"] else []) ++
    ["<<", ">>", "<=", ">=", "==", "!=", "&&", "||", "+=", "-=", "*=", "/=", "%=", "&=", "^=", "|=",
      "+", "-", "*", "/", "%", "<", ">", "!", "~", "&", "^", "|", "?", ":", "=", "(", ")"] ++
    if dialect = .extended then [","] else []

/-- A number in some base, or what is wrong with it. -/
def inBase (base : Nat) (digits : List Char) : Token :=
  if digits.all fun c => (Text.hexValue? c).any (· < base) then
    .number (wrapped (Text.ofDigits base digits))
  else .malformed "value too great for base"

/-- A number of the extended shell, and how many characters it has. -/
def extendedNumber (s : List Char) : Token × Nat :=
  let word := s.takeWhile Char.isAlphanum
  let token := match word with
    | '0' :: 'x' :: digits | '0' :: 'X' :: digits => inBase 16 digits
    | '0' :: digits => inBase 8 digits
    | _ => inBase 10 word
  (token, word.length)

/-- The greatest integer of 64 bits. -/
def greatest : Nat := Nat.pow 2 63 - 1

/-- A number of the plain shell, and how many characters it has; numbers out of reach stop at the
last one within it. -/
def plainNumber (s : List Char) : Token × Nat :=
  let (base, skipped, digits) : Nat × Nat × List Char := match s with
    | '0' :: x :: r =>
      if (x == 'x' || x == 'X') && (r.head?.bind Text.hexValue?).isSome then
        (16, 2, r.takeWhile fun c => (Text.hexValue? c).isSome)
      else (8, 0, s.takeWhile fun c => '0' ≤ c && c ≤ '7')
    | _ => (10, 0, s.takeWhile Char.isDigit)
  (.number (min (Text.ofDigits base digits) greatest), skipped + digits.length)

/-- The token that a text starts with, and how many characters it has. -/
def token (dialect : Dialect) (s : List Char) : Token × Nat :=
  match s with
  | [] => (.finish, 0)
  | c :: _ =>
    if c.isDigit then if dialect = .extended then extendedNumber s else plainNumber s
    else if isNameStart c then
      let name := s.takeWhile isNameChar
      (.name (String.ofList name), name.length)
    else match (operators dialect).find? fun o => o.toList.isPrefixOf s with
      | some o => (.op o, o.length)
      | none => (.unknown, 1)

/-- The tokens of a text, with the last one at its end. -/
def tokens (dialect : Dialect) : Nat → List Char → List Placed
  | 0, _ => [⟨.finish, ""⟩]
  | fuel + 1, s =>
    let s := s.dropWhile fun c => c == ' ' || c == '\t' || c == '\n'
    let (t, n) := token dialect s
    ⟨t, String.ofList s⟩ :: if t == .finish then [] else tokens dialect fuel (s.drop n)

/-! ## Reading -/

/-- What is wrong with an expression: a complaint, and the text from the token on that it is
about. -/
structure Fault where
  complaint : Bytes
  text : Bytes

/-- What a reader of expressions knows: the tokens that are left, and the one before them. -/
structure Place where
  left : List Placed
  last : Placed

/-- A step of the reader. -/
abbrev Reader := StateT Place (Except Fault)

/-- The next token. -/
def peek : Reader Placed := do return (← get).left.headD ⟨.finish, ""⟩

/-- Passes over a token. -/
def take : Reader Placed := do
  let t ← peek
  modify fun p => ⟨if t.token == .finish then p.left else p.left.drop 1, t⟩
  return t

/-- Passes over an operator, if it stands here. -/
def passes (o : Bytes) : Reader Bool := do
  if (← peek).token == .op o then
    let _ ← take
    return true
  else return false

/-- The operators between two expressions, those that bind least first. -/
def levels : List (List Bytes) :=
  [["|"], ["^"], ["&"], ["==", "!="], ["<=", ">=", "<", ">"], ["<<", ">>"], ["+", "-"],
    ["*", "/", "%"]]

/-- The operators that set a variable, and what they do first. -/
def assignments : List (Bytes × Option Bytes) :=
  [("=", none), ("+=", some "+"), ("-=", some "-"), ("*=", some "*"), ("/=", some "/"),
    ("%=", some "%"), ("<<=", some "<<"), (">>=", some ">>"), ("&=", some "&"), ("^=", some "^"),
    ("|=", some "|")]

/-- Gives up where an operand is missing. -/
def noOperand (dialect : Dialect) : Reader α := do
  let here ← peek
  let last := (← get).last
  let place := if here.token == .finish then last else here
  match dialect with
  | .plain => throw ⟨"expecting primary", place.text⟩
  | .extended => throw ⟨"syntax error: operand expected", place.text⟩

mutual

/-- Reads an expression with commas. -/
def readAll (dialect : Dialect) : Nat → Reader Sum
  | 0 => noOperand dialect
  | fuel + 1 => do
    let first ← readAssignment dialect fuel
    if ← passes "," then return .sequence first (← readAll dialect fuel) else return first

/-- Reads an expression that may set a variable. -/
def readAssignment (dialect : Dialect) : Nat → Reader Sum
  | 0 => noOperand dialect
  | fuel + 1 => do
    let p ← get
    match p.left with
    | ⟨.name name, _⟩ :: ⟨.op o, _⟩ :: _ =>
      match assignments.lookup o with
      | some op => do
        let _ ← take
        let _ ← take
        let divisor := (← peek).text
        return .assign name op (← readAssignment dialect fuel) divisor
      | none => readChoice dialect fuel
    | _ => readChoice dialect fuel

/-- Reads an expression that may choose between two. -/
def readChoice (dialect : Dialect) : Nat → Reader Sum
  | 0 => noOperand dialect
  | fuel + 1 => do
    let test ← readEither dialect fuel
    if ← passes "?" then
      let yes ← readAll dialect fuel
      if !(← passes ":") then
        throw ⟨if dialect = .plain then "expecting ':'" else "`:' expected for conditional expression",
          (← get).last.text⟩
      return .choice test yes (← readAssignment dialect fuel)
    else return test

/-- Reads alternatives. -/
def readEither (dialect : Dialect) : Nat → Reader Sum
  | 0 => noOperand dialect
  | fuel + 1 => do
    let first ← readBoth dialect fuel
    if ← passes "||" then return .either first (← readEither dialect fuel) else return first

/-- Reads a conjunction. -/
def readBoth (dialect : Dialect) : Nat → Reader Sum
  | 0 => noOperand dialect
  | fuel + 1 => do
    let first ← readLevel dialect fuel levels
    if ← passes "&&" then return .both first (← readBoth dialect fuel) else return first

/-- Reads expressions between operators of some levels. -/
def readLevel (dialect : Dialect) : Nat → List (List Bytes) → Reader Sum
  | 0, _ => noOperand dialect
  | fuel + 1, [] => readPower dialect fuel
  | fuel + 1, ops :: deeper => do
    readLevelAfter dialect fuel ops deeper (← readLevel dialect fuel deeper)

/-- Reads what follows an expression on its level. -/
def readLevelAfter (dialect : Dialect) : Nat → List Bytes → List (List Bytes) → Sum → Reader Sum
  | 0, _, _, _ => noOperand dialect
  | fuel + 1, ops, deeper, first => do
    match (← peek).token with
    | .op o =>
      if ops.contains o then do
        let _ ← take
        let divisor := (← peek).text
        let second ← readLevel dialect fuel deeper
        let both := if o = "/" || o = "%" then Sum.divided o first second divisor
          else .binary o first second
        readLevelAfter dialect fuel ops deeper both
      else return first
    | _ => return first

/-- Reads an expression that may have a power. -/
def readPower (dialect : Dialect) : Nat → Reader Sum
  | 0 => noOperand dialect
  | fuel + 1 => do
    let base ← readUnary dialect fuel
    if ← passes "**" then return .binary "**" base (← readPower dialect fuel) else return base

/-- Reads an expression with operators before it. -/
def readUnary (dialect : Dialect) : Nat → Reader Sum
  | 0 => noOperand dialect
  | fuel + 1 => do
    let p ← get
    match p.left with
    | ⟨.op "++", _⟩ :: ⟨.name name, _⟩ :: _ => do
      let _ ← take
      let _ ← take
      return .step name 1 false
    | ⟨.op "--", _⟩ :: ⟨.name name, _⟩ :: _ => do
      let _ ← take
      let _ ← take
      return .step name (-1) false
    | ⟨.op "++", _⟩ :: _ => do
      let _ ← take
      readUnary dialect fuel
    | ⟨.op "--", _⟩ :: _ => do
      let _ ← take
      readUnary dialect fuel
    | ⟨.op o, _⟩ :: _ =>
      if ["+", "-", "!", "~"].contains o then do
        let _ ← take
        return .unary o (← readUnary dialect fuel)
      else readPrimary dialect fuel
    | _ => readPrimary dialect fuel

/-- Reads a number, a variable, or an expression between parentheses. -/
def readPrimary (dialect : Dialect) : Nat → Reader Sum
  | 0 => noOperand dialect
  | fuel + 1 => do
    let t ← peek
    match t.token with
    | .number n => do
      let _ ← take
      return .number n
    | .name name => do
      let _ ← take
      if ← passes "++" then return .step name 1 true
      else if ← passes "--" then return .step name (-1) true
      else return .parameter name
    | .op "(" => do
      let _ ← take
      let inside ← readAll dialect fuel
      if ← passes ")" then return inside
      else do
        let here ← peek
        let last := (← get).last
        throw ⟨if dialect = .plain then "expecting ')'" else "missing `)'",
          (if here.token == .finish then last else here).text⟩
    | .malformed complaint => throw ⟨complaint, t.text⟩
    | _ => noOperand dialect

end

/-- An expression from its text.  To the extended shell, no expression is zero. -/
def ofBytes (dialect : Dialect) (s : Bytes) : Except Fault Sum := do
  let ts := tokens dialect (s.length + 1) s.toList
  if dialect = .extended && ts.length = 1 then return .number 0
  let (e, p) ← (readAll dialect (16 * ts.length + 32)).run ⟨ts, ⟨.finish, s⟩⟩
  match p.left.headD ⟨.finish, ""⟩ with
  | ⟨.finish, _⟩ => return e
  | t =>
    match dialect, t.token with
    | .plain, _ => throw ⟨"expecting EOF", t.text⟩
    | .extended, .unknown => throw ⟨"syntax error: invalid arithmetic operator", t.text⟩
    | .extended, .op "=" => throw ⟨"attempted assignment to non-variable", t.text⟩
    | .extended, _ => throw ⟨"syntax error in expression", t.text⟩

/-! ## Values -/

/-- What expressions ask of the shell. -/
structure Variables (m : Type → Type) where
  get : Bytes → m Int
  set : Bytes → Int → m Unit
  /-- Gives up, with a complaint and the text that it is about. -/
  fail : Bytes → Bytes → m Int

/-- One for what is true, and zero. -/
def ofBool (b : Bool) : Int := if b then 1 else 0

/-- The integer of 64 bits whose bits an operation on natural numbers gives. -/
def bitwise (f : Nat → Nat → Nat) (a b : Int) : Int :=
  wrapped (f (a.emod (Nat.pow 2 64)).toNat (b.emod (Nat.pow 2 64)).toNat)

/-- A power by a number that is not negative. -/
def power (a : Int) (b : Nat) : Int :=
  (List.range b).foldl (fun n _ => wrapped (n * a)) 1

/-- The value of an operator. -/
def apply (op : Bytes) (a b : Int) : Int :=
  match op with
  | "+" => wrapped (a + b)
  | "-" => wrapped (a - b)
  | "*" => wrapped (a * b)
  | "/" => wrapped (Int.tdiv a b)
  | "%" => wrapped (Int.tmod a b)
  | "**" => power a (b.toNat % 4096)
  | "<<" => wrapped (a * Nat.pow 2 (b.emod 64).toNat)
  | ">>" => Int.fdiv a (Nat.pow 2 (b.emod 64).toNat)
  | "&" => bitwise (· &&& ·) a b
  | "|" => bitwise (· ||| ·) a b
  | "^" => bitwise (· ^^^ ·) a b
  | "==" => ofBool (a == b)
  | "!=" => ofBool (a != b)
  | "<" => ofBool (a < b)
  | "<=" => ofBool (a ≤ b)
  | ">" => ofBool (b < a)
  | ">=" => ofBool (b ≤ a)
  | _ => 0

/-- What is said of a division by zero. -/
def noDivisor (dialect : Dialect) : Bytes :=
  if dialect = .plain then "division by zero" else "division by 0"

/-- The value of an expression. -/
def value {m : Type → Type} [Monad m] (dialect : Dialect) (vars : Variables m) : Sum → m Int
  | number n => return n
  | parameter name => vars.get name
  | unary op a => do
    let a ← value dialect vars a
    match op with
    | "-" => return wrapped (-a)
    | "!" => return ofBool (a == 0)
    | "~" => return wrapped (-a - 1)
    | _ => return a
  | binary op a b => do
    let a ← value dialect vars a
    let b ← value dialect vars b
    if op = "**" ∧ b < 0 then vars.fail "exponent less than 0" (toString b)
    else return apply op a b
  | divided op a b divisor => do
    let a ← value dialect vars a
    let b ← value dialect vars b
    if b = 0 then vars.fail (noDivisor dialect) divisor else return apply op a b
  | both a b => do
    if (← value dialect vars a) = 0 then return 0
    else return ofBool ((← value dialect vars b) != 0)
  | either a b => do
    if (← value dialect vars a) ≠ 0 then return 1
    else return ofBool ((← value dialect vars b) != 0)
  | choice test yes no => do
    if (← value dialect vars test) ≠ 0 then value dialect vars yes else value dialect vars no
  | assign name op a divisor => do
    let a ← value dialect vars a
    match op with
    | none => do
      vars.set name a
      return a
    | some op => do
      let old ← vars.get name
      if (op = "/" ∨ op = "%") ∧ a = 0 then vars.fail (noDivisor dialect) divisor
      else do
        vars.set name (apply op old a)
        return apply op old a
  | step name by_ before => do
    let old ← vars.get name
    vars.set name (wrapped (old + by_))
    return if before then old else wrapped (old + by_)
  | sequence a b => do
    let _ ← value dialect vars a
    value dialect vars b

end Sum

end FixBatch.Shell
