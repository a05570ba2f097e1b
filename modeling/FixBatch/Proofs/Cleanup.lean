import FixBatch.Cleanup
import FixBatch.Proofs.Files.Tree
import FixBatch.Proofs.Imports.Prune
import FixBatch.Proofs.Run.Oracle

/-!
# FixBatch.Proofs.Cleanup

Cleaning a file of a tree.  What is answered and what the file holds afterwards are settled by what
it holds before; `Cleaned` says how, in three cases:

* the bytes are no text, or the text has a faulty import line: the file keeps them;
* otherwise the file holds the pruned text, and the answer says whether that is another one.

`cleanFile_cleaned` puts this together with what cannot be read, with the rest of the tree and with
a second cleaning.
-/

namespace FixBatch

open Files

/-! ## bytes and texts -/

/-- A text is what its bytes stand for. -/
theorem fromUTF8?_eq_some_iff {bytes : ByteArray} {text : String} :
    String.fromUTF8? bytes = some text ↔ text.toUTF8 = bytes := by
  unfold String.fromUTF8?
  constructor
  · intro h
    split at h
    · cases h; rfl
    · cases h
  · rintro rfl
    rw [String.toUTF8_eq_toByteArray, dif_pos text.isValidUTF8]
    rfl

theorem toUTF8_inj {text text' : String} : text.toUTF8 = text'.toUTF8 ↔ text = text' :=
  String.toByteArray_inj

/-! ## one cleaning -/

/-- What is answered when a file of some bytes is cleaned, and what it holds then. -/
inductive Cleaned (path : Path) (bytes : ByteArray) : Except CleanupError Bool → ByteArray → Prop
  | notText : (∀ text : String, text.toUTF8 ≠ bytes) →
      Cleaned path bytes (.error (.io path (Files.Error.message ⟨.reading, path, .notText⟩))) bytes
  | malformed : text.toUTF8 = bytes → Imports.pruneText text = .error m →
      Cleaned path bytes (.error (.format path m)) bytes
  | pruned : text.toUTF8 = bytes → Imports.pruneText text = .ok out →
      Cleaned path bytes (.ok (decide (out ≠ text))) out.toUTF8

variable {t : Tree} {path : Path}

theorem run_read (t : Tree) (path : Path) :
    (Tree.disk.toAccess.read path).run t = (t.read path, t) := rfl

theorem run_writeText (t : Tree) (path : Path) (text : String) :
    (Tree.disk.toAccess.writeText path text).run t =
      (Tree.change (·.write path text.toUTF8)).run t := rfl

/-- A path that cannot be read is told. -/
theorem run_cleanFile_of_error {e : Files.Error} (h : t.read path = .error e) :
    (cleanFile Tree.disk.toAccess path).run t = (.error (.io path e.message), t) := by
  have hread := run_read t path
  rw [h] at hread
  have htext : (Tree.disk.toAccess.readText path).run t = (.error e, t) := by
    rw [Access.readText, Oracle.run_bind_of_run hread]
    rfl
  rw [cleanFile, Oracle.run_bind_of_run htext]
  rfl

section

variable {bytes : ByteArray} (h : t.read path = .ok bytes)

include h

theorem run_cleanFile_of_notText (hbytes : ∀ text : String, text.toUTF8 ≠ bytes) :
    (cleanFile Tree.disk.toAccess path).run t =
      (.error (.io path (Files.Error.message ⟨.reading, path, .notText⟩)), t) := by
  have hread := run_read t path
  rw [h] at hread
  have hnone : String.fromUTF8? bytes = none :=
    Option.eq_none_iff_forall_ne_some.mpr fun text htext =>
      hbytes text (fromUTF8?_eq_some_iff.mp htext)
  have htext : (Tree.disk.toAccess.readText path).run t =
      (.error ⟨.reading, path, .notText⟩, t) := by
    rw [Access.readText, Oracle.run_bind_of_run hread]
    simp only [hnone]
    rfl
  rw [cleanFile, Oracle.run_bind_of_run htext]
  rfl

theorem run_readText {text : String} (hbytes : text.toUTF8 = bytes) :
    (Tree.disk.toAccess.readText path).run t = (.ok text, t) := by
  have hread := run_read t path
  rw [h] at hread
  rw [Access.readText, Oracle.run_bind_of_run hread]
  simp only [fromUTF8?_eq_some_iff.mpr hbytes]
  rfl

theorem run_cleanFile_of_malformed {text : String} {m : Imports.Malformed}
    (hbytes : text.toUTF8 = bytes) (hprune : Imports.pruneText text = .error m) :
    (cleanFile Tree.disk.toAccess path).run t = (.error (.format path m), t) := by
  rw [cleanFile, Oracle.run_bind_of_run (run_readText h hbytes)]
  simp only [hprune]
  rfl

/-- A text that loses nothing is not written. -/
theorem run_cleanFile_of_same {text : String} (hbytes : text.toUTF8 = bytes)
    (hprune : Imports.pruneText text = .ok text) :
    (cleanFile Tree.disk.toAccess path).run t = (.ok false, t) := by
  rw [cleanFile, Oracle.run_bind_of_run (run_readText h hbytes)]
  simp only [hprune, if_true]
  rfl

theorem run_cleanFile_of_changed {text out : String} {t' : Tree} (hbytes : text.toUTF8 = bytes)
    (hprune : Imports.pruneText text = .ok out) (hne : out ≠ text)
    (hwrite : t.write path out.toUTF8 = .ok t') :
    (cleanFile Tree.disk.toAccess path).run t = (.ok true, t') := by
  have hchange : (Tree.disk.toAccess.writeText path out).run t = (.ok (), t') := by
    rw [run_writeText, StateT.run, Tree.change, hwrite]
  rw [cleanFile, Oracle.run_bind_of_run (run_readText h hbytes)]
  simp only [hprune, if_neg hne]
  rw [Oracle.run_bind_of_run hchange]
  rfl

end

/-! ## all cleanings -/

/-- **One cleaning**: a file that can be read is cleaned, and nothing else is touched. -/
theorem exists_cleaned {bytes : ByteArray} (h : t.read path = .ok bytes) :
    ∃ answer t' bytes', (cleanFile Tree.disk.toAccess path).run t = (answer, t') ∧
      Cleaned path bytes answer bytes' ∧ t'.read path = .ok bytes' ∧
      (answer ≠ .ok true → t' = t) ∧ ChangesOnly (some path) t t' := by
  have hsame : ChangesOnly (some path) t t := Tree.changesOnly_self (some path) t
  by_cases htext : ∃ text : String, text.toUTF8 = bytes
  · obtain ⟨text, hbytes⟩ := htext
    cases hprune : Imports.pruneText text with
    | error m =>
      exact ⟨_, t, bytes, run_cleanFile_of_malformed h hbytes hprune, .malformed hbytes hprune, h,
        fun _ => rfl, hsame⟩
    | ok out =>
      by_cases hout : out = text
      · subst hout
        refine ⟨_, t, out.toUTF8, run_cleanFile_of_same h hbytes hprune, ?_, hbytes ▸ h,
          fun _ => rfl, hsame⟩
        have hpruned : Cleaned path bytes _ out.toUTF8 := .pruned hbytes hprune
        simpa using hpruned
      · have hne : bytes ≠ .empty := by
          rintro rfl
          obtain rfl : text = "" := toUTF8_inj.mp hbytes
          exact hout (Except.ok.inj hprune).symm
        obtain ⟨t', hwrite, hread⟩ := Tree.exists_write h hne out.toUTF8
        refine ⟨_, t', out.toUTF8, run_cleanFile_of_changed h hbytes hprune hout hwrite, ?_, hread,
          fun hunchanged => absurd rfl hunchanged, Tree.changesOnly_of_modify hwrite⟩
        have hpruned : Cleaned path bytes _ out.toUTF8 := .pruned hbytes hprune
        simpa [hout] using hpruned
  · have hbytes : ∀ text : String, text.toUTF8 ≠ bytes := fun text heq => htext ⟨text, heq⟩
    exact ⟨_, t, bytes, run_cleanFile_of_notText h hbytes, .notText hbytes, h, fun _ => rfl, hsame⟩

/-- The answer says whether the file has changed. -/
theorem Cleaned.changed_iff {bytes bytes' : ByteArray} {changed : Bool}
    (h : Cleaned path bytes (.ok changed) bytes') : changed = true ↔ bytes' ≠ bytes := by
  generalize hanswer : (Except.ok changed : Except CleanupError Bool) = answer at h
  cases h with
  | notText | malformed => cases hanswer
  | @pruned text out hbytes _ =>
    cases hanswer
    rw [decide_eq_true_iff, ← hbytes, ne_eq, ne_eq, toUTF8_inj]

/-- A file that was cleaned holds a text that loses nothing. -/
theorem Cleaned.exists_pruned {bytes bytes' : ByteArray} {changed : Bool}
    (h : Cleaned path bytes (.ok changed) bytes') :
    ∃ out : String, out.toUTF8 = bytes' ∧ Imports.pruneText out = .ok out := by
  generalize hanswer : (Except.ok changed : Except CleanupError Bool) = answer at h
  cases h with
  | notText | malformed => cases hanswer
  | @pruned text out _ hprune =>
    obtain ⟨file, file', -, hparse, hred⟩ :=
      Imports.exists_reduced_of_prune (Imports.pruneText_eq_ok.mp hprune)
    exact ⟨out, rfl, Imports.pruneText_eq_ok.mpr (Imports.prune_of_reduced hred hparse)⟩

/-- **Cleaning**: a file is cleaned as its bytes say, and the answer says whether they changed; any
other path answers that it could not be read.  Only a file that changes is written, nothing else is
touched, and once a cleaning has gone well another one changes nothing. -/
theorem cleanFile_cleaned (t : Tree) (path : Path) :
    ∃ answer t', (cleanFile Tree.disk.toAccess path).run t = (answer, t') ∧
      ((t.standing path).kind = some .file → ∃ bytes bytes', t.read path = .ok bytes ∧
        t'.read path = .ok bytes' ∧ Cleaned path bytes answer bytes' ∧
        ∀ changed, answer = .ok changed → (changed = true ↔ bytes' ≠ bytes)) ∧
      ((t.standing path).kind ≠ some .file → ∃ e, t.read path = .error e ∧
        answer = .error (.io path e.message)) ∧
      (answer ≠ .ok true → t' = t) ∧ ChangesOnly (some path) t t' ∧
      ∀ changed, answer = .ok changed →
        (cleanFile Tree.disk.toAccess path).run t' = (.ok false, t') := by
  cases hread : t.read path with
  | error e =>
    have hfile : (t.standing path).kind ≠ some .file := fun hfile => by
      obtain ⟨bytes, hbytes⟩ := Tree.standing_eq_file_iff.mp hfile
      rw [hread] at hbytes
      cases hbytes
    exact ⟨_, t, run_cleanFile_of_error hread, fun h => absurd h hfile, fun _ => ⟨e, rfl, rfl⟩,
      fun _ => rfl, Tree.changesOnly_self (some path) t, nofun⟩
  | ok bytes =>
    have hfile : (t.standing path).kind = some .file :=
      Tree.standing_eq_file_iff.mpr ⟨bytes, hread⟩
    obtain ⟨answer, t', bytes', hrun, hcleaned, hread', hsame, honly⟩ := exists_cleaned hread
    refine ⟨answer, t', hrun, fun _ => ⟨bytes, bytes', rfl, hread', hcleaned, ?_⟩,
      fun h => absurd hfile h, hsame, honly, ?_⟩
    · rintro changed rfl
      exact hcleaned.changed_iff
    · rintro changed rfl
      obtain ⟨out, hout, hprune⟩ := hcleaned.exists_pruned
      exact run_cleanFile_of_same hread' hout hprune

end FixBatch
