import FixBatch.Shell.Syntax

/-!
# FixBatch.Shell.Pattern

Patterns for texts: stars, question marks, and sets between brackets.  A character of a pattern that
a quote protects stands for itself.

* `Pattern.ofMarks` — a pattern from its characters;
* `Pattern.fits` — whether a pattern fits a text as a whole.
-/

namespace FixBatch.Shell

/-- A character of a pattern, and whether it may mean something. -/
structure Mark where
  char : Char
  active : Bool
deriving DecidableEq, Repr

/-- What one place of a set takes: characters from one to another, or those of a class. -/
inductive Member where
  | range (first last : Char)
  | named (name : String)
deriving DecidableEq, Repr

/-- One element of a pattern. -/
inductive Glob where
  | char (c : Char)
  | any
  | star
  | set (negated : Bool) (members : List Member)
deriving DecidableEq, Repr

/-- A pattern. -/
abbrev Pattern := List Glob

/-! ## Sets -/

/-- Whether a character belongs to a class. -/
def inClass (name : String) (c : Char) : Bool :=
  let isGraph := 0x20 < c.toNat && c.toNat < 0x7f
  match name with
  | "alpha" => c.isAlpha
  | "digit" => c.isDigit
  | "alnum" => c.isAlphanum
  | "upper" => c.isUpper
  | "lower" => c.isLower
  | "space" => c == ' ' || (0x09 ≤ c.toNat && c.toNat ≤ 0x0d)
  | "blank" => c == ' ' || c == '\t'
  | "punct" => isGraph && !c.isAlphanum
  | "print" => c == ' ' || isGraph
  | "graph" => isGraph
  | "cntrl" => c.toNat < 0x20 || c.toNat == 0x7f
  | "xdigit" => c.isDigit || ('a' ≤ c && c ≤ 'f') || ('A' ≤ c && c ≤ 'F')
  | "word" => c.isAlphanum || c == '_'
  | _ => false

/-- Whether a member of a set takes a character. -/
def Member.takes (c : Char) : Member → Bool
  | range first last => first ≤ c && c ≤ last
  | named name => inClass name c

/-- The name of a class that stands between colons and brackets, and what follows it. -/
def className? (ms : List Mark) : Option (String × List Mark) :=
  match ms with
  | ⟨'[', true⟩ :: ⟨':', _⟩ :: r =>
    let name := (r.takeWhile fun m => m.char.isAlpha).map Mark.char
    match r.drop name.length with
    | ⟨':', _⟩ :: ⟨']', _⟩ :: after => some (String.ofList name, after)
    | _ => none
  | _ => none

/-- The members of a set up to its end, and what follows; nothing when it has no end.  The first
member may be a closing bracket. -/
def members : Nat → Bool → List Mark → Option (List Member × List Mark)
  | 0, _, _ => none
  | _ + 1, _, [] => none
  | fuel + 1, isFirst, m :: r =>
    if m.char = ']' ∧ m.active ∧ !isFirst then some ([], r)
    else match className? (m :: r) with
      | some (name, after) =>
        (members fuel false after).map fun (ms, after) => (.named name :: ms, after)
      | none =>
        match r with
        | ⟨'-', true⟩ :: last :: after =>
          if last.char = ']' ∧ last.active then
            (members fuel false r).map fun (ms, after) => (.range m.char m.char :: ms, after)
          else
            (members fuel false after).map fun (ms, after) => (.range m.char last.char :: ms, after)
        | _ => (members fuel false r).map fun (ms, after) => (.range m.char m.char :: ms, after)

namespace Pattern

/-! ## Reading patterns -/

/-- A pattern from its characters; the count is no smaller than their number. -/
def ofMarksFrom (dialect : Dialect) : Nat → List Mark → Pattern
  | 0, _ => []
  | _ + 1, [] => []
  | fuel + 1, m :: r =>
    let plain := .char m.char :: ofMarksFrom dialect fuel r
    if !m.active then plain
    else match m.char with
      | '*' => .star :: ofMarksFrom dialect fuel r
      | '?' => .any :: ofMarksFrom dialect fuel r
      | '[' =>
        let isNegation := r.head?.any fun n =>
          n.active && (n.char == '!' || (dialect == .extended && n.char == '^'))
        let inside := if isNegation then r.drop 1 else r
        match members (inside.length + 1) true inside with
        | some (ms, after) => .set isNegation ms :: ofMarksFrom dialect fuel after
        | none => plain
      | '\\' =>
        match r with
        | next :: after => .char next.char :: ofMarksFrom dialect fuel after
        | [] => plain
      | _ => plain

/-- A pattern from its characters. -/
def ofMarks (dialect : Dialect) (ms : List Mark) : Pattern :=
  ofMarksFrom dialect (ms.length + 1) ms

/-! ## Matching -/

/-- Whether a pattern fits a text as a whole. -/
def fits : Pattern → List Char → Bool
  | [], s => s.isEmpty
  | .char c :: rest, d :: s => c == d && fits rest s
  | .any :: rest, _ :: s => fits rest s
  | .set negated ms :: rest, d :: s => (ms.any (Member.takes d)) != negated && fits rest s
  | .star :: rest, [] => fits rest []
  | .star :: rest, c :: s => fits rest (c :: s) || fits (.star :: rest) s
  | _ :: _, [] => false
termination_by p s => (p.length, s.length)

/-! ## Taking off and replacing -/

/-- The two parts of a text, for every place where it can be cut, the shortest first part first. -/
def cuts (s : List Char) : List (List Char × List Char) :=
  (List.range (s.length + 1)).map fun i => (s.take i, s.drop i)

/-- What is left of a text after a start that fits. -/
def dropStart (p : Pattern) (longest : Bool) (s : List Char) : List Char :=
  let places := cuts s
  match (if longest then places.reverse else places).find? fun (a, _) => fits p a with
  | some (_, b) => b
  | none => s

/-- What is left of a text before an end that fits. -/
def dropEnd (p : Pattern) (longest : Bool) (s : List Char) : List Char :=
  let places := cuts s
  match (if longest then places else places.reverse).find? fun (_, b) => fits p b with
  | some (a, _) => a
  | none => s

/-- The longest start of a text that fits, and what follows it. -/
def longestStart? (p : Pattern) (s : List Char) : Option (List Char × List Char) :=
  (cuts s).reverse.find? fun (a, _) => fits p a

/-- A text with the first of its stretches that fit replaced, or all of them; an empty stretch is
never replaced. -/
def replace (p : Pattern) (all : Bool) (substitute : List Char → List Char) :
    Nat → List Char → List Char
  | 0, s => s
  | _ + 1, [] => []
  | fuel + 1, c :: s =>
    match longestStart? p (c :: s) with
    | some (d :: a, b) => substitute (d :: a) ++ if all then replace p all substitute fuel b else b
    | _ => c :: replace p all substitute fuel s

end Pattern

end FixBatch.Shell
