import FixBatch.Shell.Arithmetic
import FixBatch.Shell.Field
import FixBatch.Shell.Session

/-!
# FixBatch.Shell.Expansion

Filling words in: parameters, the output of commands, arithmetic, and the names of files.  How a
command is run to take the place of its output is left to a function that is given.

* `sumOf` — the value of an arithmetic expression;
* `expandParts` — what a word comes to, in pieces;
* `expandText`, `expandFields`, `expandPattern` — as one text, as fields, as a pattern.
-/

namespace FixBatch.Shell

variable {m : Type → Type} [Monad m]

/-! ## Arithmetic -/

/-- What asks for the value of an expression, or says what is wrong with it. -/
abbrev SumM (m : Type → Type) := ExceptT Bytes (Act m)

/-- A number that a text writes, as the plain shell reads one, with blanks around it. -/
def plainInteger? (text : Bytes) : Option Int :=
  let isBlank (c : Char) := c == ' ' || c == '\t' || c == '\n'
  let s := ((text.toList.dropWhile isBlank).reverse.dropWhile isBlank).reverse
  let (negative, digits) := match s with
    | '-' :: r => (true, r)
    | '+' :: r => (false, r)
    | r => (false, r)
  match digits, Sum.plainNumber digits with
  | c :: _, (.number n, count) =>
    if c.isDigit && count = digits.length then some (if negative then -n else n) else none
  | _, _ => none

mutual

/-- The value of an expression; the count bounds how often variables hold expressions themselves. -/
def sumFrom : Nat → Bytes → SumM m Int
  | 0, text => throw (text ++ ": expression recursion level exceeded (error token is \"" ++ text ++ "\")")
  | fuel + 1, text => do
    let dialect := (← get).dialect
    let shown := String.ofList (text.toList.dropWhile fun c => c == ' ' || c == '\t' || c == '\n')
    let fault (complaint token : Bytes) : Bytes := match dialect with
      | .plain => "arithmetic expression: " ++ complaint ++ ": \"" ++ text ++ "\""
      | .extended => shown ++ ": " ++ complaint ++ " (error token is \"" ++ token ++ "\")"
    match Sum.ofBytes dialect text with
    | .error f => throw (fault f.complaint f.text)
    | .ok e =>
      e.value dialect
        ⟨variableSum fuel, fun name n => do (assign name (toString n) : Act m Unit),
          fun complaint token => throw (fault complaint token)⟩

/-- The number that a variable holds. -/
def variableSum : Nat → Bytes → SumM m Int
  | 0, name => throw (name ++ ": expression recursion level exceeded")
  | fuel + 1, name => do
    let s ← get
    let text := (s.parameter? name).getD ""
    if s.has "nounset" && (s.parameter? name).isNone then
      if s.dialect = .plain then throw (name ++ ": parameter not set")
      else throw (name ++ ": unbound variable")
    else if text.toList.all fun c => c == ' ' || c == '\t' || c == '\n' then return 0
    else match s.dialect with
      | .plain =>
        match plainInteger? text with
        | some n => return n
        | none => throw ("Illegal number: " ++ text)
      | .extended => sumFrom fuel text

end

/-- How often variables may hold expressions themselves. -/
def sumDepth : Nat := 64

/-- The value of an expression, or what is wrong with it. -/
def trySum (text : Bytes) : Act m (Except Bytes Int) := (sumFrom sumDepth text).run

/-- The value of an expression. -/
def sumOf (text : Bytes) : Act m Int := do
  match ← trySum text with
  | .ok n => return n
  | .error complaint => abandon complaint

/-! ## Elements -/

/-- A subscript as an element of a list. -/
def listIndex? (items : List (Nat × Bytes)) (i : Int) : Option Nat :=
  if 0 ≤ i then some i.toNat
  else
    let size := (items.getLast?.map fun e => e.1 + 1).getD 0
    if i.natAbs ≤ size then some (size - i.natAbs) else none

/-- The elements of a variable; a text is the only one. -/
def Session.elements (s : Session) (name : Bytes) : List (Nat × Bytes) :=
  match (s.find? name).bind Variable.content with
  | some (.list items) => items
  | some (.text text) => [(0, text)]
  | none => []

/-- Makes a variable a list. -/
def Session.putList (s : Session) (name : Bytes) (items : List (Nat × Bytes)) : Session :=
  s.put name { (s.find? name).getD { content := none } with content := some (.list items) }

/-- The element of a variable under a subscript. -/
def elementOf? (name key : Bytes) : Act m (Option Bytes) := do
  let items := (← get).elements name
  match listIndex? items (← sumOf key) with
  | some i => return items.lookup i
  | none => do
    complain (name ++ ": bad array subscript")
    return none

/-- Gives an element of a variable a text. -/
def putElement (name key text : Bytes) : Act m Unit := do
  let i ← sumOf key
  let items := (← get).elements name
  match listIndex? items i with
  | some i => modify fun s => s.putList name (Content.insertAt i text items)
  | none => abandon (name ++ "[" ++ key ++ "]: bad array subscript")

/-! ## The names of files -/

/-- Whether a character of a pattern may mean something by itself. -/
def Mark.isWild (mk : Mark) : Bool := mk.active && (mk.char == '*' || mk.char == '?' || mk.char == '[')

/-- The text of the characters of a pattern. -/
def Mark.text (ms : List Mark) : Bytes := String.ofList (ms.map Mark.char)

/-- Puts a name after a path. -/
def joinName (path name : Bytes) : Bytes :=
  if path.isEmpty || path.toList.getLast? = some '/' then path ++ name else path ++ "/" ++ name

/-- The paths that fit a pattern, stretch by stretch between slashes. -/
def matchStretches : List (List Mark) → List Bytes → Act m (List Bytes)
  | [], paths => return paths
  | stretch :: rest, paths => do
    let s ← get
    let isLast := rest.isEmpty
    let found ← paths.flatMapM fun path => do
      if stretch.isEmpty then
        return [if path.isEmpty then "/" else if path.toList.getLast? = some '/' then path
          else path ++ "/"]
      else if !(stretch.any Mark.isWild) then do
        let next := joinName path (Mark.text (unescaped stretch))
        let p ← pathOf next
        if (← onDisk fun disk => disk.look false p).toOption.isSome then return [next] else return []
      else do
        let p ← pathOf (if path.isEmpty then "." else path)
        let names := ((← onDisk fun disk => disk.names p).toOption.getD []).map Bytes.ofText
        let pattern := Pattern.ofMarks s.dialect stretch
        let showsDots := stretch.head?.any fun mk => mk.char == '.'
        let fits := names.filter fun name =>
          (showsDots || name.toList.head? != some '.') && Pattern.fits pattern name.toList
        let sorted := fits.mergeSort fun a b => decide (a ≤ b)
        let nexts := sorted.map (joinName path)
        if isLast then return nexts
        else nexts.filterM fun next => do
          let p ← pathOf next
          return (← onDisk fun disk => disk.standing p).kind == some .directory
    matchStretches rest found
where
  /-- The characters of a stretch without the backslashes before others. -/
  unescaped : List Mark → List Mark
    | ⟨'\\', true⟩ :: next :: rest => next :: unescaped rest
    | mk :: rest => mk :: unescaped rest
    | [] => []

/-- The fields that the characters of one come to: the paths that fit it, or the field itself. -/
def matchPaths (marks : List Mark) : Act m (List Bytes) := do
  let s ← get
  if s.has "noglob" || !marks.any Mark.isWild then return [Mark.text marks]
  else do
    let stretches := Text.segments (fun (mk : Mark) => mk.char == '/') marks
    match ← matchStretches stretches [""] with
    | [] => return [Mark.text marks]
    | paths => return paths

/-! ## Values -/

/-- The values that a parameter stands for, and whether it stands for a list of them. -/
structure Values where
  items : Option (List Bytes)
  isList : Bool
  joined : Bool

/-- The values of a parameter with a subscript that has been filled in. -/
def valuesOf (name : Bytes) (index : Index) (key : Bytes) : Act m Values := do
  let s ← get
  match index with
  | .whole =>
    if name = "@" || name = "*" then
      return ⟨if s.positional.isEmpty then none else some s.positional, true, name == "*"⟩
    else return ⟨(s.parameter? name).map fun v => [v], false, false⟩
  | .all => return ⟨((s.find? name).bind Variable.content).map Content.values, true, false⟩
  | .joined =>
    return ⟨((s.find? name).bind Variable.content).map Content.values, true, true⟩
  | .at _ => return ⟨(← elementOf? name key).map fun v => [v], false, false⟩

/-- The pieces of values: those of a list are fields of their own, unless they are joined. -/
def Values.pieces (s : Session) (quoted : Bool) (v : Values) : List Piece :=
  let origin := if quoted then Origin.held else .filled
  let items := v.items.getD []
  if !v.isList then Piece.ofBytes origin (items.headD "")
  else if v.joined && quoted then Piece.ofBytes .held (String.intercalate s.joiner items)
  else
    (items.map fun item =>
      (if quoted then [Piece.hold] else []) ++ Piece.ofBytes origin item).intersperse [.cut] |>.flatten

/-- The stretch of a list from one place on, so long at most; a place before the end counts from
there. -/
def sliceList (l : List α) (start : Int) (length : Option Int) : Option (List α) :=
  let size : Int := l.length
  let from_ := if start < 0 then size + start else start
  if from_ < 0 ∨ size < from_ then some []
  else
    let rest := l.drop from_.toNat
    match length with
    | none => some rest
    | some n =>
      if 0 ≤ n then some (rest.take n.toNat)
      else if (rest.length : Int) + n < 0 then none
      else some (rest.take (rest.length + n).toNat)

/-- A text with the case of its letters changed where a pattern fits: of the first one, or of all. -/
def recase (pattern : Option Pattern) (upper all : Bool) (text : Bytes) : Bytes :=
  let change (c : Char) : Char :=
    if pattern.all fun p => Pattern.fits p [c] then if upper then c.toUpper else c.toLower else c
  match text.toList with
  | [] => ""
  | c :: cs => String.ofList (change c :: if all then cs.map change else cs)

/-- The text of a substitute: an ampersand stands for what is replaced, unless it is quoted. -/
def substituted (substitute : List Mark) (found : List Char) : List Char :=
  match substitute with
  | [] => []
  | ⟨'\\', true⟩ :: next :: rest => next.char :: substituted rest found
  | ⟨'&', true⟩ :: rest => found ++ substituted rest found
  | mk :: rest => mk.char :: substituted rest found

/-- A text with what fits a pattern replaced. -/
def replaceIn (reach : Reach) (pattern : Pattern) (substitute : List Mark) (text : Bytes) : Bytes :=
  let s := text.toList
  let put := substituted substitute
  String.ofList <| match reach with
    | .first => Pattern.replace pattern false put (s.length + 1) s
    | .all => Pattern.replace pattern true put (s.length + 1) s
    | .start =>
      match Pattern.longestStart? pattern s with
      | some (a, b) => put a ++ b
      | none => s
    | .finish =>
      match (Pattern.cuts s).find? fun (_, b) => Pattern.fits pattern b with
      | some (a, b) => a ++ put b
      | none => s

/-- The part of a word that a tilde begins, and what follows it. -/
def splitTilde (text : Bytes) (more : Bool) (stops : List Char) : Option (Bytes × Bytes) :=
  match text.toList with
  | '~' :: r =>
    let user := r.takeWhile (!stops.contains ·)
    let after := r.drop user.length
    if after.isEmpty && more then none else some (String.ofList user, String.ofList after)
  | _ => none

/-- The directory that a tilde and a name stand for. -/
def tildeDirectory? (s : Session) (user : Bytes) : Option Bytes :=
  match user with
  | "" => s.parameter? "HOME"
  | "+" => if s.dialect = .extended then some s.directory else none
  | "-" => if s.dialect = .extended then s.parameter? "OLDPWD" else none
  | "root" => some "/root"
  | _ => none

/-- The pieces of text without quotes, of which tildes are filled in. -/
def writtenPieces (s : Session) (isFirst more isAssigned : Bool) (text : Bytes) : List Piece :=
  let stops := if isAssigned then ['/', ':'] else ['/']
  let stretches := if isAssigned then Text.segments (· == ':') text.toList else [text.toList]
  let filled := (stretches.zipIdx).map fun (stretch, i) =>
    let stretch := String.ofList stretch
    if i = 0 && !isFirst then Piece.ofBytes .written stretch
    else match splitTilde stretch (more && i + 1 = stretches.length) stops with
      | some (user, after) =>
        match tildeDirectory? s user with
        | some dir => Piece.ofBytes .held dir ++ Piece.ofBytes .written after
        | none => Piece.ofBytes .written stretch
      | none => Piece.ofBytes .written stretch
  (filled.intersperse [.char ':' .written]).flatten

/-- Text without the line feeds at its end. -/
def dropLineFeeds (text : Bytes) : Bytes :=
  String.ofList (text.toList.reverse.dropWhile (· == '\n')).reverse

/-- What is said of a parameter that has to be there. -/
def missingText (s : Session) (name : Bytes) (ifEmpty : Bool) : Bytes :=
  if s.dialect = .plain then
    name ++ ": parameter not set" ++ if ifEmpty then " or null" else ""
  else name ++ ": parameter " ++ (if ifEmpty then "null or " else "") ++ "not set"

/-- Complains about a parameter that is not set, where that is a fault. -/
def demandSet (name : Bytes) : Act m Unit := do
  let s ← get
  complain (if s.dialect = .plain then name ++ ": parameter not set" else name ++ ": unbound variable")
  throw (.exit s.lackStatus)

/-- The subscript as complaints show it. -/
def shownName (name : Bytes) (index : Index) (key : Bytes) : Bytes :=
  match index with
  | .at _ => name ++ "[" ++ key ++ "]"
  | _ => name

/-- Whether there is no value, or none that counts. -/
def Values.areMissing (v : Values) (ifEmpty : Bool) : Bool :=
  match v.items with
  | none => true
  | some items => ifEmpty && (if v.isList then items == [] || items == [""] else items.headD "" == "")

/-- Applies something to each value. -/
def Values.map (f : Bytes → Bytes) (v : Values) : Values :=
  { v with items := v.items.map fun l => l.map f }

/-- The values of a parameter, which has to be set if that is asked for. -/
def presentValues (name : Bytes) (index : Index) (key : Bytes) : Act m Values := do
  let v ← valuesOf name index key
  if v.items.isNone && (← get).has "nounset" && !v.isList then demandSet (shownName name index key)
  return v

/-- The pattern that pieces form. -/
def patternOf (pieces : List Piece) : Act m Pattern := do
  return Pattern.ofMarks (← get).dialect (Piece.chars pieces)

/-! ## Words -/

/-- How a command is run for its output. -/
abbrev Substitute (m : Type → Type) := Command → Act m Bytes

mutual

/-- What the parts of a word come to. -/
def expandParts (run : Substitute m) (quoted assigned : Bool) :
    Bool → List Part → Act m (List Piece)
  | _, [] => return []
  | isFirst, part :: rest => do
    let here ← expandPart run quoted assigned isFirst (!rest.isEmpty) part
    return here ++ (← expandParts run quoted assigned false rest)

/-- What a part of a word comes to. -/
def expandPart (run : Substitute m) (quoted assigned : Bool) (isFirst more : Bool) :
    Part → Act m (List Piece)
  | .plain text => do
    if quoted then return Piece.ofBytes .held text
    else return writtenPieces (← get) isFirst more assigned text
  | .quoted text => return .hold :: Piece.ofBytes .held text
  | .double parts => do
    let pieces ← expandParts run true assigned false parts
    let isAll := match parts with
      | [.parameter "@" .whole .value] => true
      | [.parameter _ .all .value] => true
      | _ => false
    return if isAll || pieces.contains .cut then pieces else .hold :: pieces
  | .parameter name index form => do
    let key ← expandIndex run index
    expandForm run quoted name index key form
  | .script body => do
    let text := dropLineFeeds (← run body)
    let text := String.ofList (text.toList.filter (· != '\x00'))
    return Piece.ofBytes (if quoted then .held else .filled) text
  | .sum expression => do
    let text := Piece.text (← expandParts run true false false expression)
    let n ← sumOf text
    return Piece.ofBytes (if quoted then .held else .filled) (toString n)
  | .elements _ => return []

/-- The text of a subscript. -/
def expandIndex (run : Substitute m) : Index → Act m Bytes
  | .at subscript => do return Piece.text (← expandParts run true false false subscript)
  | _ => return ""

/-- What a parameter comes to. -/
def expandForm (run : Substitute m) (quoted : Bool) (name : Bytes) (index : Index) (key : Bytes) :
    Form → Act m (List Piece)
  | .value => do
    let v ← valuesOf name index key
    let s ← get
    if v.items.isNone && s.has "nounset" && name != "@" && name != "*" && !v.isList then
      demandSet (shownName name index key)
    return v.pieces s quoted
  | .length => do
    let v ← valuesOf name index key
    let s ← get
    if v.items.isNone && s.has "nounset" && !v.isList then demandSet (shownName name index key)
    let n := if v.isList then (v.items.getD []).length else ((v.items.getD []).headD "").length
    return Piece.ofBytes (if quoted then .held else .filled) (toString n)
  | .orElse ifEmpty word => do
    let v ← valuesOf name index key
    if v.areMissing ifEmpty then
      return (← expandParts run quoted false true word).map (Piece.within quoted)
    else return v.pieces (← get) quoted
  | .instead ifEmpty word => do
    let v ← valuesOf name index key
    if v.areMissing ifEmpty then return []
    else return (← expandParts run quoted false true word).map (Piece.within quoted)
  | .assign ifEmpty word => do
    let v ← valuesOf name index key
    if v.areMissing ifEmpty then
      let text := Piece.text (← expandParts run quoted false true word)
      if !isName name then
        let s ← get
        abandon (if s.dialect = .plain then name ++ ": bad variable name"
          else "$" ++ name ++ ": cannot assign in this way")
      match index with
      | .at _ => putElement name key text
      | _ => assign name text
      return Piece.ofBytes (if quoted then .held else .filled) text
    else return v.pieces (← get) quoted
  | .demand ifEmpty word => do
    let v ← valuesOf name index key
    if v.areMissing ifEmpty then
      let text := Piece.text (← expandParts run quoted false true word)
      let s ← get
      let shown := shownName name index key
      complain (if word.isEmpty then missingText s shown ifEmpty else shown ++ ": " ++ text)
      throw (.exit s.lackStatus)
    else return v.pieces (← get) quoted
  | .dropStart longest word => do
    let p ← patternOf (← expandParts run false false true word)
    let v ← presentValues name index key
    return (v.map fun t => String.ofList (Pattern.dropStart p longest t.toList)).pieces (← get) quoted
  | .dropEnd longest word => do
    let p ← patternOf (← expandParts run false false true word)
    let v ← presentValues name index key
    return (v.map fun t => String.ofList (Pattern.dropEnd p longest t.toList)).pieces (← get) quoted
  | .slice start length => do
    let first ← sumOf (Piece.text (← expandParts run true false false start))
    let count ← match length with
      | some w => do pure (some (← sumOf (Piece.text (← expandParts run true false false w))))
      | none => pure none
    let v ← presentValues name index key
    let s ← get
    if v.isList then
      let items := v.items.getD []
      let items := if name = "@" || name = "*" then s.name :: items else items
      let first := if (name = "@" || name = "*") && first < 0 && items.length < first.natAbs then
        (items.length : Int) else first
      return { v with items := sliceList items first count }.pieces s quoted
    else
      match sliceList ((v.items.getD []).headD "").toList first count with
      | some t => return Piece.ofBytes (if quoted then .held else .filled) (String.ofList t)
      | none => abandon (toString (count.getD 0) ++ ": substring expression < 0")
  | .replace reach pattern substitute => do
    let p ← patternOf (← expandParts run false false true pattern)
    let by_ := Piece.chars (← expandParts run false false true substitute)
    let v ← presentValues name index key
    return (v.map (replaceIn reach p by_)).pieces (← get) quoted
  | .recase upper all pattern => do
    let p ← patternOf (← expandParts run false false true pattern)
    let v ← presentValues name index key
    let p := if pattern.isEmpty then none else some p
    return (v.map (recase p upper all)).pieces (← get) quoted
  | .unknown source => do
    if ← isExtended then abandon (source ++ ": bad substitution")
    else do
      complain "Bad substitution"
      throw (.exit 2)
end

/-- What a word comes to as one text. -/
def expandText (run : Substitute m) (w : Word) : Act m Bytes := do
  return Piece.text (← expandParts run false false true w)

/-- What the value of an assignment comes to: tildes stand behind colons too. -/
def expandValue (run : Substitute m) (w : Word) : Act m Bytes := do
  return Piece.text (← expandParts run false true true w)

/-- What a word comes to as a pattern. -/
def expandPattern (run : Substitute m) (w : Word) : Act m Pattern := do
  patternOf (← expandParts run false false true w)

/-- The characters between fields. -/
def Session.separators (s : Session) : List Char :=
  match s.find? "IFS" with
  | some v => ((v.content.bind Content.text?).getD "").toList
  | none => [' ', '\t', '\n']

/-- The fields that a word comes to. -/
def expandFields (run : Substitute m) (w : Word) : Act m (List Bytes) := do
  let pieces ← expandParts run false false true w
  (fields (← get).separators pieces).flatMapM matchPaths

end FixBatch.Shell
