import FixBatch.Text.Segments

/-!
# FixBatch.Path

Paths as they are given.  A path keeps its spelling; two paths name the same place when they have
the same steps, so repeated slashes, a trailing slash and a dot that is not the first step make no
difference, while `..` is a step like any other and is never resolved.  `==` compares places,
`=` compares spellings.
-/

namespace FixBatch

/-- A path, in the spelling it was given. -/
structure Path where
  text : String
deriving DecidableEq, Repr

namespace Path

instance : ToString Path := ⟨text⟩

/-- Whether a path starts at the root. -/
def isRooted (p : Path) : Bool := p.text.toList.head? == some '/'

/-- The steps of a path, blank ones and dots left out; a dot that opens the path counts. -/
def steps (p : Path) : List (List Char) :=
  match Text.segments (· == '/') p.text.toList with
  | [] => []
  | first :: rest => [first].filter (· != []) ++ rest.filter fun s => s != [] && s != ['.']

/-- What tells two paths apart: where they start and their steps. -/
def place (p : Path) : Bool × List (List Char) := (p.isRooted, p.steps)

instance : BEq Path := ⟨fun p q => p.place == q.place⟩

instance : Hashable Path := ⟨fun p => hash (p.isRooted, p.steps.map String.ofList)⟩

theorem beq_iff (p q : Path) : (p == q) = true ↔ p.place = q.place :=
  beq_iff_eq (a := p.place) (b := q.place)

instance : EquivBEq Path where
  rfl := by simp [beq_iff]
  symm h := (beq_iff _ _).2 ((beq_iff _ _).1 h).symm
  trans h k := (beq_iff _ _).2 (((beq_iff _ _).1 h).trans ((beq_iff _ _).1 k))

instance : LawfulHashable Path where
  hash_eq p q h := by
    have ⟨rooted, steps⟩ := Prod.mk.inj ((beq_iff p q).1 h)
    simp only [hash, rooted, steps]

/-- A path followed by a relative one. -/
def join (dir : Path) (name : String) : Path :=
  if dir.text.isEmpty || dir.text.toList.getLast? == some '/' then ⟨dir.text ++ name⟩
  else ⟨dir.text ++ "/" ++ name⟩

/-- The paths that a path leads through, the shortest first. -/
def parents (p : Path) : List Path :=
  let segments := Text.segments (· == '/') p.text.toList
  (List.range (segments.length - 1)).map fun i =>
    ⟨String.ofList (List.intercalate ['/'] (segments.take (i + 1)))⟩

end Path

end FixBatch
