import FixBatch.Plan.Json
import FixBatch.Proofs.Distinct
import Mathlib.Data.List.Forall2
import Mathlib.Logic.Function.Basic

/-!
# FixBatch.Proofs.Distinct.Operation

Collections under any operations, one after the other.  Collections stand side by side on a *shelf*,
each under a number, so that copies go their own ways.  Beside the shelf stands its *history*: for
each number the list of all values that were offered to the collection, repeats included.  No
operation can tell a collection from the first occurrences in its history:

* `Reflects` — what a collection is, given its history;
* `step_agrees` — one operation keeps shelf and history in step, and answers by the history;
* `run_operations` — so does every run of operations, from empty collections.
-/

namespace FixBatch

open Json

namespace Distinct

/-! ## collections as arrays -/

section Json

variable {α : Type} [BEq α] [Hashable α]

/-- Reads a collection from the array of its items; of several equal ones the first stays. -/
def decoder (decode : Decoder α) : Decoder (Distinct α) := fun doc =>
  (array decode doc).map ofList

/-- The array of the items of a collection. -/
def toJson (write : α → Value) (d : Distinct α) : Value := .array (d.toList.map write)

end Json

/-! ## operations -/

/-- What can be done with the collections of a shelf. -/
inductive Operation (α : Type) where
  | create (i : Nat)
  | insert (i : Nat) (a : α)
  | extend (i : Nat) (l : List α)
  | collect (i : Nat) (l : List α)
  | copy (source target : Nat)
  | read (i : Nat) (doc : Doc)
  | contains (i : Nat) (a : α)
  | equal (i j : Nat)
  | items (i : Nat)
  | write (i : Nat)

/-- What an operation answers. -/
inductive Answer (α : Type) where
  | done
  | truth (b : Bool)
  | items (l : List α)
  | written (v : Value)
  | refused (e : Json.Error)

variable {α : Type} [BEq α] [Hashable α] (decode : Decoder α) (write : α → Value)

/-- Carries out an operation on a shelf. -/
def step (shelf : Nat → Distinct α) : Operation α → Answer α × (Nat → Distinct α)
  | .create i => (.done, Function.update shelf i empty)
  | .insert i a =>
    let (added, d) := (shelf i).add a
    (.truth added, Function.update shelf i d)
  | .extend i l => (.done, Function.update shelf i ((shelf i).extend l))
  | .collect i l => (.done, Function.update shelf i (ofList l))
  | .copy source target => (.done, Function.update shelf target (shelf source))
  | .read i doc =>
    match decoder decode doc with
    | .ok d => (.done, Function.update shelf i d)
    | .error e => (.refused e, shelf)
  | .contains i a => (.truth ((shelf i).contains a), shelf)
  | .equal i j => (.truth (shelf i == shelf j), shelf)
  | .items i => (.items (shelf i).toList, shelf)
  | .write i => (.written ((shelf i).toJson write), shelf)

/-- Carries out operations one after the other; the answers come in their order. -/
def run (shelf : Nat → Distinct α) : List (Operation α) → List (Answer α) × (Nat → Distinct α)
  | [] => ([], shelf)
  | op :: ops =>
    let (answer, shelf) := step decode write shelf op
    let (answers, shelf) := run shelf ops
    (answer :: answers, shelf)

/-! ## histories -/

/-- The history after an operation: nothing is left out of it. -/
def offered (history : Nat → List α) : Operation α → (Nat → List α)
  | .create i => Function.update history i []
  | .insert i a => Function.update history i (history i ++ [a])
  | .extend i l => Function.update history i (history i ++ l)
  | .collect i l => Function.update history i l
  | .copy source target => Function.update history target (history source)
  | .read i doc =>
    match array decode doc with
    | .ok l => Function.update history i l
    | .error _ => history
  | .contains .. | .equal .. | .items _ | .write _ => history

/-- The answer to an operation, by the history alone. -/
def told (history : Nat → List α) : Operation α → Answer α
  | .create _ | .extend .. | .collect .. | .copy .. => .done
  | .insert i a => .truth (!(history i).any (· == a))
  | .read _ doc =>
    match array decode doc with
    | .ok _ => .done
    | .error e => .refused e
  | .contains i a => .truth ((history i).any (· == a))
  | .equal i j => .truth (firstOccurrences (history i) == firstOccurrences (history j))
  | .items i => .items (firstOccurrences (history i))
  | .write i => .written (.array ((firstOccurrences (history i)).map write))

/-- The answers to some operations and the history after them. -/
def track (history : Nat → List α) : List (Operation α) → List (Answer α) × (Nat → List α)
  | [] => ([], history)
  | op :: ops =>
    let (answers, last) := track (offered decode history op) ops
    (told decode write history op :: answers, last)

/-! ## collections and their histories -/

omit [Hashable α] in
/-- Lists are equal when their items are, one by one. -/
theorem list_beq_iff (l m : List α) :
    (l == m) = true ↔ List.Forall₂ (fun a b => (a == b) = true) l m := by
  induction l generalizing m with
  | nil => cases m <;> simp
  | cons a l ih => cases m <;> simp [ih]

variable {shelf : Nat → Distinct α} {history : Nat → List α} {d e : Distinct α} {l m : List α}

/-- A collection that holds the first occurrences in a list. -/
def Reflects (d : Distinct α) (history : List α) : Prop := d.toList = firstOccurrences history

theorem reflects_empty : Reflects (empty : Distinct α) [] := rfl

theorem Reflects.beq_eq (h : Reflects d l) (h' : Reflects e m) :
    (d == e) = (firstOccurrences l == firstOccurrences m) := congrArg₂ (· == ·) h h'

/-- A collection may be put on a shelf together with its history. -/
theorem reflects_update (h : ∀ i, Reflects (shelf i) (history i)) (hd : Reflects d l) (j i : Nat) :
    Reflects (Function.update shelf j d i) (Function.update history j l i) := by
  by_cases hi : i = j
  · subst hi
    simpa using hd
  · simpa [Function.update_of_ne hi] using h i

/-! ## what a collection is -/

/-- A collection as the first occurrences in its history: no two items are equal, the index agrees
with the items, only a value that equals none of them is added, at the end, and two collections are
equal when their items are, one by one. -/
structure Behaves (d : Distinct α) (history : List α) : Prop where
  toList_eq : d.toList = firstOccurrences history
  pairwise : d.toList.Pairwise fun a b => (a == b) = false
  contains_iff : ∀ a, d.contains a = true ↔ ∃ b ∈ d.toList, (b == a) = true
  added_iff : ∀ a, (d.add a).1 = true ↔ ∀ b ∈ d.toList, (b == a) = false
  toList_add : ∀ a, (d.add a).1 = true → (d.add a).2.toList = d.toList ++ [a]
  add_eq_self : ∀ a, (d.add a).1 = false → (d.add a).2 = d
  beq_iff : ∀ e, (d == e) = true ↔ List.Forall₂ (fun a b => (a == b) = true) d.toList e.toList

variable [EquivBEq α] [LawfulHashable α]

theorem Reflects.behaves (h : Reflects d l) : Behaves d l where
  toList_eq := h
  pairwise := d.pairwise
  contains_iff := d.contains_iff
  added_iff a := by
    rw [add_eq, d.contains_eq]
    simp
  toList_add a hadded := by
    have hnew : d.contains a = false := by simpa [add_eq] using hadded
    rw [add_eq, toList_insert, hnew]
    rfl
  add_eq_self a hadded := by
    have hknown : d.contains a = true := by simpa [add_eq] using hadded
    rw [add_eq, insert_of_contains hknown]
  beq_iff e := list_beq_iff d.toList e.toList

/-! ## runs -/

/-- The index answers by the history. -/
theorem Reflects.contains_eq (h : Reflects d l) (a : α) : d.contains a = l.any (· == a) := by
  rw [d.contains_eq, h, any_firstOccurrences]

theorem reflects_ofList (l : List α) : Reflects (ofList l) l := toList_ofList l

/-- Values offered to a collection are offered after those of its history. -/
theorem Reflects.extend (h : Reflects d l) (m : List α) : Reflects (d.extend m) (l ++ m) := by
  have hseen (a : α) : (firstOccurrences l).any (· == a) = (l ++ []).any (· == a) := by
    rw [any_firstOccurrences, List.append_nil]
  rw [Reflects, toList_extend, h, firstOccurrencesAfter_congr hseen]
  exact (firstOccurrencesAfter_append [] l m).symm

theorem Reflects.insert (h : Reflects d l) (a : α) : Reflects (d.insert a) (l ++ [a]) :=
  h.extend [a]

/-- **Steps**: an operation keeps shelf and history in step, and answers by the history. -/
theorem step_agrees (decode : Decoder α) (write : α → Value)
    (h : ∀ i, Reflects (shelf i) (history i)) (op : Operation α) :
    (step decode write shelf op).1 = told decode write history op ∧
      ∀ i, Reflects ((step decode write shelf op).2 i) (offered decode history op i) := by
  cases op with
  | create i => exact ⟨rfl, reflects_update h reflects_empty i⟩
  | insert i a =>
    have hadd : (shelf i).add a = (!(history i).any (· == a), (shelf i).insert a) := by
      rw [add_eq, (h i).contains_eq]
    simp only [step, told, offered, hadd]
    exact ⟨trivial, reflects_update h ((h i).insert a) i⟩
  | extend i l => exact ⟨rfl, reflects_update h ((h i).extend l) i⟩
  | collect i l => exact ⟨rfl, reflects_update h (reflects_ofList l) i⟩
  | copy source target => exact ⟨rfl, reflects_update h (h source) target⟩
  | read i doc =>
    simp only [step, told, offered, decoder]
    cases array decode doc with
    | error e => exact ⟨rfl, h⟩
    | ok l => exact ⟨rfl, reflects_update h (reflects_ofList l) i⟩
  | contains i a => exact ⟨congrArg Answer.truth ((h i).contains_eq a), h⟩
  | equal i j => exact ⟨congrArg Answer.truth ((h i).beq_eq (h j)), h⟩
  | items i => exact ⟨congrArg Answer.items (h i), h⟩
  | write i =>
    refine ⟨?_, h⟩
    have hitems : (shelf i).toList = firstOccurrences (history i) := h i
    simp only [step, told, toJson, hitems]

/-- **Runs**: any operations keep shelf and history in step, and answer by the history. -/
theorem run_agrees (decode : Decoder α) (write : α → Value)
    (h : ∀ i, Reflects (shelf i) (history i)) (ops : List (Operation α)) :
    (run decode write shelf ops).1 = (track decode write history ops).1 ∧
      ∀ i, Reflects ((run decode write shelf ops).2 i) ((track decode write history ops).2 i) := by
  induction ops generalizing shelf history with
  | nil => exact ⟨rfl, h⟩
  | cons op ops ih =>
    obtain ⟨hanswer, hstep⟩ := step_agrees decode write h op
    obtain ⟨hanswers, hrun⟩ := ih hstep
    exact ⟨congrArg₂ List.cons hanswer hanswers, hrun⟩

/-- **Collections**: after any operations from empty collections, all answers were those that the
histories give, and every collection is the first occurrences in its history.  Extending a
collection is collecting the longer list. -/
theorem run_operations (decode : Decoder α) (write : α → Value) (ops : List (Operation α)) :
    (∃ answers shelf history, run decode write (fun _ => empty) ops = (answers, shelf) ∧
      track decode write (fun _ => []) ops = (answers, history) ∧
      ∀ i, Behaves (shelf i) (history i)) ∧
    ∀ l m : List α, (ofList l).extend m = ofList (l ++ m) := by
  have hempty : ∀ i : Nat, Reflects ((fun _ => empty : Nat → Distinct α) i) [] :=
    fun _ => reflects_empty
  obtain ⟨hanswers, hshelf⟩ := run_agrees decode write hempty ops
  refine ⟨⟨_, _, _, rfl, ?_, fun i => (hshelf i).behaves⟩, extend_ofList⟩
  exact Prod.ext hanswers.symm rfl

/-- A path that is respelled is not added again, also after a copy has gone its own way. -/
theorem run_operations_respelled :
    let ops : List (Operation Path) := [.insert 0 ⟨"a/b"⟩, .copy 0 1, .insert 1 ⟨"a//b/"⟩,
      .insert 1 ⟨"./c"⟩, .contains 0 ⟨"./c"⟩, .equal 0 1, .items 1]
    (run Path.decoder Path.toJson (fun _ => empty) ops).1 =
      [.truth true, .done, .truth false, .truth true, .truth false, .truth false,
        .items [⟨"a/b"⟩, ⟨"./c"⟩]] := by
  intro ops
  obtain ⟨⟨answers, shelf, history, hrun, htrack, -⟩, -⟩ :=
    run_operations Path.decoder Path.toJson ops
  rw [hrun]
  exact (congrArg Prod.fst htrack).symm.trans rfl

end Distinct

end FixBatch
