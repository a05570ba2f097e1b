import FixBatch.Files.Access

/-!
# FixBatch.Files.Tree

Files held in memory.  A path is walked step by step: every step but the last has to lead into a
directory, and a link sends the walk on to where it points.  So `..` leads to where a walk really
is, not to what stands before it in the path, and a slash at the end asks for a directory.

* `Tree.walk` — where some steps lead;
* `Tree.read`, `Tree.write`, `Tree.remove`, `Tree.makeDirectory` — what can be done there;
* `Tree.disk` — all of it, for programs that work on files.
-/

namespace FixBatch.Files

/-! ## Places -/

/-- A place: the names on the way to it, the last one first.  The root has none. -/
abbrev Place := List String

/-- What stands at a place. -/
inductive Entry where
  /-- A file, and whether it is a program. -/
  | file (bytes : ByteArray) (runs : Bool)
  | directory
  | link (target : Path)
  /-- A file that holds nothing and keeps nothing. -/
  | sink

/-- Places with something there, and the place where relative paths start. -/
structure Tree where
  entries : List (Place × Entry)
  home : Place

namespace Tree

/-- What stands at a place; the root is a directory. -/
def holding? (t : Tree) : Place → Option Entry
  | [] => some .directory
  | place => t.entries.lookup place

/-- Takes away what stands at a place. -/
def erase (t : Tree) (place : Place) : Tree :=
  { t with entries := t.entries.filter fun e => e.1 != place }

/-- Puts something at a place. -/
def put (t : Tree) (place : Place) (entry : Entry) : Tree :=
  { t.erase place with entries := (place, entry) :: (t.erase place).entries }

theorem holding?_put (t : Tree) (place : Place) (entry : Entry) (h : place ≠ []) :
    (t.put place entry).holding? place = some entry := by
  cases place with
  | nil => contradiction
  | cons n dir => simp [holding?, put]

/-- What is taken away at one place is still there at every other. -/
theorem holding?_erase_of_ne (t : Tree) (place other : Place) (h : other ≠ place) :
    (t.erase place).holding? other = t.holding? other := by
  cases other with
  | nil => rfl
  | cons n dir =>
    simp only [holding?, erase]
    induction t.entries with
    | nil => rfl
    | cons e l ih =>
      obtain ⟨q, entry⟩ := e
      by_cases hq : q = place
      · simp [hq, List.lookup_cons, beq_false_of_ne h, ih]
      · by_cases hn : n :: dir = q
        · simp [← hn, h]
        · simp [hq, List.lookup_cons, beq_false_of_ne hn, ih]

/-- What is put at one place changes no other. -/
theorem holding?_put_of_ne (t : Tree) (place other : Place) (entry : Entry) (h : other ≠ place) :
    (t.put place entry).holding? other = t.holding? other := by
  rw [← holding?_erase_of_ne t place other h]
  cases other with
  | nil => rfl
  | cons n dir => simp [holding?, put, List.lookup_cons, beq_false_of_ne h]

end Tree

/-! ## Walks -/

/-- A step of a path.  An empty stretch between slashes is a step too: it leads nowhere else, and at
the end of a path it asks for a directory. -/
inductive Step where
  | slash
  | here
  | up
  | name (n : String)
deriving DecidableEq, Repr

/-- The step of one stretch between slashes. -/
def Step.ofSegment : List Char → Step
  | [] => slash
  | ['.'] => here
  | ['.', '.'] => up
  | cs => name (String.ofList cs)

/-- The steps of a path, in order. -/
def stepsOf (p : Path) : List Step := (Text.segments (· == '/') p.text.toList).map Step.ofSegment

/-- Where a walk ends, what stands there, and whether it has to be a directory. -/
structure Arrival where
  place : Place
  entry : Option Entry
  slash : Bool

/-- The most bytes a path may have. -/
def pathLimit : Nat := 4095

/-- The most links that one walk may follow. -/
def linkLimit : Nat := 40

namespace Tree

/-- Walks from a directory.  A link at the end is followed only if `follow` says so. -/
def walk (t : Tree) (follow : Bool) (links : Nat) (dir : Place) (steps : List Step) :
    Except Cause Arrival :=
  match steps with
  | [] => .ok ⟨dir, some .directory, false⟩
  | .slash :: rest => t.walk follow links dir rest
  | .here :: rest => t.walk follow links dir rest
  | .up :: rest => t.walk follow links dir.tail rest
  | .name n :: rest =>
    if nameLimit < n.utf8ByteSize then .error .nameTooLong
    else match t.holding? (n :: dir) with
      | some .directory => t.walk follow links (n :: dir) rest
      | some (.link target) =>
        if rest.isEmpty && !follow then .ok ⟨n :: dir, some (.link target), false⟩
        else match links with
          | 0 => .error .tooManyLinks
          | links + 1 =>
            t.walk follow links (if target.isRooted then [] else dir) (stepsOf target ++ rest)
      | entry =>
        if rest.all (· == .slash) then .ok ⟨n :: dir, entry, !rest.isEmpty⟩
        else .error (if entry.isNone then .notFound else .notADirectory)
termination_by (links, steps.length)

/-- Where a path leads. -/
def find (t : Tree) (path : Path) (follow : Bool) : Except Cause Arrival :=
  if path.text.toList.contains '\x00' then .error .nulInName
  else if path.text.isEmpty then .error .notFound
  else if pathLimit < path.text.utf8ByteSize then .error .nameTooLong
  else t.walk follow linkLimit (if path.isRooted then [] else t.home) (stepsOf path)

/-! ## Looking and reading -/

/-- What stands at a path; nobody is kept from a file. -/
def standing (t : Tree) (path : Path) : Standing :=
  match t.find path true with
  | .ok ⟨_, some .directory, _⟩ => ⟨some .directory, true, false⟩
  | .ok ⟨_, some _, false⟩ => ⟨some .file, true, true⟩
  | _ => .absent

/-- What a file holds.  A directory can be opened, but not read. -/
def read (t : Tree) (path : Path) : Except Error ByteArray :=
  let failed (operation : Operation) (cause : Cause) := .error ⟨operation, path, cause⟩
  match t.find path true with
  | .error cause => failed .opening cause
  | .ok ⟨_, none, _⟩ => failed .opening .notFound
  | .ok ⟨_, some .directory, _⟩ => failed .reading .isADirectory
  | .ok ⟨_, some _, true⟩ => failed .opening .notADirectory
  | .ok ⟨_, some (.file bytes _), false⟩ => .ok bytes
  | .ok ⟨_, some _, false⟩ => .ok .empty

/-! ## Changing -/

/-- Changes what a file holds, the empty file if there is none; the directory has to be there. -/
def modify (t : Tree) (path : Path) (change : ByteArray → ByteArray) : Except Error Tree :=
  let failed (cause : Cause) := .error ⟨.creating, path, cause⟩
  match t.find path true with
  | .error cause => failed cause
  | .ok ⟨_, some .directory, _⟩ | .ok ⟨_, _, true⟩ => failed .isADirectory
  | .ok ⟨place, some (.file bytes runs), false⟩ => .ok (t.put place (.file (change bytes) runs))
  | .ok ⟨place, none, false⟩ => .ok (t.put place (.file (change .empty) false))
  | .ok ⟨_, some _, false⟩ => .ok t

/-- Gives a file a content. -/
def write (t : Tree) (path : Path) (bytes : ByteArray) : Except Error Tree :=
  t.modify path fun _ => bytes

/-- Adds to the end of a file. -/
def append (t : Tree) (path : Path) (bytes : ByteArray) : Except Error Tree :=
  t.modify path (· ++ bytes)

/-- Removes a file or a link. -/
def remove (t : Tree) (path : Path) : Except Error Tree :=
  let failed (cause : Cause) := .error ⟨.removing, path, cause⟩
  match t.find path false with
  | .error cause => failed cause
  | .ok ⟨_, none, _⟩ => failed .notFound
  | .ok ⟨_, some .directory, _⟩ => failed .isADirectory
  | .ok ⟨_, some _, true⟩ => failed .notADirectory
  | .ok ⟨place, some _, false⟩ => .ok (t.erase place)

/-- Removes a directory and everything below it. -/
def removeDirectory (t : Tree) (path : Path) : Except Error Tree :=
  match t.find path false with
  | .error cause => .error ⟨.removing, path, cause⟩
  | .ok ⟨place, some .directory, _⟩ =>
    .ok { t with entries := t.entries.filter fun (other, _) => !place.isSuffixOf other }
  | .ok ⟨_, some _, _⟩ => .error ⟨.removing, path, .notADirectory⟩
  | .ok ⟨_, none, _⟩ => .error ⟨.removing, path, .notFound⟩

/-- Makes a directory where nothing stands. -/
def makeDirectory (t : Tree) (path : Path) : Except Error Tree :=
  let failed (cause : Cause) := .error ⟨.creating, path, cause⟩
  match t.find path false with
  | .error cause => failed cause
  | .ok ⟨place, none, _⟩ => .ok (t.put place .directory)
  | .ok ⟨_, some _, _⟩ => failed .occupied

/-- Gives what stands at the first path the second one.  A directory takes what is in it along, and
takes the place of an empty directory only; nothing goes into itself. -/
def rename (t : Tree) (source target : Path) : Except Error Tree :=
  let failed (cause : Cause) := .error ⟨.creating, target, cause⟩
  match t.find source false, t.find target false with
  | .error cause, _ => .error ⟨.opening, source, cause⟩
  | .ok ⟨_, none, _⟩, _ => .error ⟨.opening, source, .notFound⟩
  | _, .error cause => failed cause
  | .ok ⟨from_, some .directory, _⟩, .ok ⟨to_, there, _⟩ =>
    if from_ = to_ then .ok t
    else if from_.isSuffixOf to_ then failed .invalid
    else match there with
      | some .directory | none =>
        if t.entries.any fun e => to_.isSuffixOf e.1 && e.1 != to_ then failed .notEmpty
        else
          let moved := t.entries.filterMap fun (place, entry) =>
            if from_.isSuffixOf place then
              some (place.take (place.length - from_.length) ++ to_, entry)
            else none
          let kept := t.entries.filter fun e => !from_.isSuffixOf e.1 && e.1 != to_
          .ok { t with entries := moved ++ kept }
      | some _ => failed .notADirectory
  | .ok ⟨from_, some entry, _⟩, .ok ⟨to_, there, _⟩ =>
    match there with
    | some .directory => failed .isADirectory
    | _ => .ok (if from_ = to_ then t else (t.erase from_).put to_ entry)

/-- Makes a file a program, or no program. -/
def setRuns (t : Tree) (path : Path) (runs : Bool) : Except Error Tree :=
  match t.find path true with
  | .error cause => .error ⟨.opening, path, cause⟩
  | .ok ⟨_, none, _⟩ => .error ⟨.opening, path, .notFound⟩
  | .ok ⟨place, some (.file bytes _), false⟩ => .ok (t.put place (.file bytes runs))
  | .ok ⟨_, some (.file ..), true⟩ => .error ⟨.opening, path, .notADirectory⟩
  | .ok _ => .ok t

/-- What stands at a path by itself. -/
def look (t : Tree) (follow : Bool) (path : Path) : Except Error Look :=
  match t.find path follow with
  | .error cause => .error ⟨.opening, path, cause⟩
  | .ok ⟨_, none, _⟩ => .error ⟨.opening, path, .notFound⟩
  | .ok ⟨_, some .directory, _⟩ => .ok ⟨.directory, 4096, true⟩
  | .ok ⟨_, some _, true⟩ => .error ⟨.opening, path, .notADirectory⟩
  | .ok ⟨_, some (.file bytes runs), _⟩ => .ok ⟨.file, bytes.size, runs⟩
  | .ok ⟨_, some (.link target), _⟩ => .ok ⟨.link, target.text.utf8ByteSize, true⟩
  | .ok ⟨_, some .sink, _⟩ => .ok ⟨.device, 0, false⟩

/-- The names in a directory. -/
def names (t : Tree) (path : Path) : Except Error (List String) :=
  match t.find path true with
  | .error cause => .error ⟨.opening, path, cause⟩
  | .ok ⟨_, none, _⟩ => .error ⟨.opening, path, .notFound⟩
  | .ok ⟨dir, some .directory, _⟩ =>
    .ok (t.entries.filterMap fun (place, _) =>
      match place with
      | n :: above => if above = dir then some n else none
      | [] => none)
  | .ok _ => .error ⟨.opening, path, .notADirectory⟩

/-- The path from the root to a place. -/
def textOf (place : Place) : String :=
  if place.isEmpty then "/" else String.join (place.reverse.map ("/" ++ ·))

/-- The path from the root to where a path leads. -/
def resolve (t : Tree) (path : Path) : Except Error String :=
  match t.find path true with
  | .error cause => .error ⟨.opening, path, cause⟩
  | .ok ⟨_, none, _⟩ => .error ⟨.opening, path, .notFound⟩
  | .ok ⟨place, some _, _⟩ => .ok (textOf place)

/-- Makes directories, those that are not there already. -/
def makeDirectories (t : Tree) (paths : List Path) : Tree :=
  paths.foldl (fun t p => (t.makeDirectory p).toOption.getD t) t

/-- Plants something at a path, and the directories that the path leads through. -/
def plant (t : Tree) (path : Path) (entry : Entry) : Tree :=
  let t := t.makeDirectories path.parents
  match entry with
  | .file bytes _ => (t.write path bytes).toOption.getD t
  | .directory => t.makeDirectories [path]
  | .link _ | .sink =>
    match t.find path false with
    | .ok ⟨place, none, _⟩ => t.put place entry
    | _ => t

/-! ## A tree to start with -/

/-- Directories that stand under every root. -/
def rootDirectories : List Place :=
  [["dev"], ["etc"], ["home"], ["opt"], ["proc"], ["root"], ["sys"], ["tmp"], ["usr"],
    ["bin", "usr"], ["lib", "usr"], ["local", "usr"], ["bin", "local", "usr"], ["sbin", "usr"],
    ["var"], ["work", "home"]]

/-- Links that stand under every root. -/
def rootLinks : List (Place × String) :=
  [(["bin"], "usr/bin"), (["lib"], "usr/lib"), (["sbin"], "usr/sbin"), (["sh", "bin", "usr"], "dash")]

/-- A tree with an empty home and some programs. -/
def bare (programs : List String) : Tree where
  entries :=
    (["null", "dev"], .sink) ::
      (["passwd", "etc"], .file "root:x:0:0:root:/root:/bin/bash\n".toUTF8 false) ::
      rootDirectories.map (fun place => (place, .directory)) ++
      rootLinks.map (fun (place, target) => (place, .link ⟨target⟩)) ++
      programs.map fun name => ([name, "bin", "usr"], .file .empty true)
  home := ["work", "home"]

/-! ## Trees as disks -/

/-- Carries out a change; a change that fails leaves the tree alone. -/
def change (f : Tree → Except Error Tree) : StateM Tree (Except Error Unit) :=
  fun t => match f t with
    | .ok t' => (.ok (), t')
    | .error e => (.error e, t)

/-- A tree as a disk. -/
def disk : Disk (StateM Tree) where
  read path := do return (← get).read path
  write path bytes := change (·.write path bytes)
  standing path := do return (← get).standing path
  append path bytes := change (·.append path bytes)
  remove path := change (·.remove path)
  removeDirectory path := change (·.removeDirectory path)
  makeDirectory path := change (·.makeDirectory path)
  look follow path := do return (← get).look follow path
  names path := do return (← get).names path
  rename source target := change (·.rename source target)
  setRuns path runs := change (·.setRuns path runs)
  resolve path := do return (← get).resolve path
  home := do return textOf (← get).home

end Tree

end FixBatch.Files
