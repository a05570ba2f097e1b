import FixBatch.Proofs.Files.Tree
import FixBatch.Proofs.Program.DryRun
import FixBatch.Proofs.Run.Steps

/-!
# FixBatch.Proofs.Program.Status

What becomes of a command line that comes to a run, in a world with a state of any kind: how the
program exits, what stands in the report that it was to write, and which error it tells last.

* `Reaches` — the command line comes to a run;
* `exists_run_runWith` — what is done after the run, and what is wrong then;
* `run_status` — the exit status, the report and the last error of any such command line.
-/

namespace FixBatch.Program

open CommandLine

variable {σ : Type} {w : World (StateM σ)} {args : List String} {r : Request}
  {settings : Settings} {plan : Plan} {fix : Call → StateM σ (Except EngineError Unit)}
  {s s' s₀ s₁ s₂ : σ} {outcome : Outcome} {written : Except ProgramError Unit}

/-! ## coming to a run -/

/-- A command line that comes to a run: it is a request, its settings can be read, its paths pass
all checks, its plan is not just printed, and there is an engine for it.  Reading settings and
checking paths leaves the state `s₀`. -/
structure Reaches (w : World (StateM σ)) (args : List String) (s : σ) (r : Request)
    (settings : Settings) (plan : Plan) (fix : Call → StateM σ (Except EngineError Unit))
    (s₀ : σ) : Prop where
  parse_eq : Request.parse args = .ok r
  planned : ∃ file s₁, (fileSettings w r).run s = (.ok file, s₁) ∧ override w r file = settings ∧
    (planFor w r settings).run s₁ = (.ok plan, s₀)
  printPlan_eq : r.printPlan = false
  engineFor_eq : engineFor w r settings = .ok fix

/-- Tells what is wrong, if anything, and gives the exit status. -/
def conclude (w : World (StateM σ)) : Except ProgramError Unit → StateM σ UInt8
  | .ok () => return 0
  | .error e => do
    tellError w "" e
    return e.exitCode

/-- A command line that is a request concludes from what becomes of that. -/
theorem run_of_parse (hparse : Request.parse args = .ok r) :
    run w args = carryOut w r >>= conclude w := by
  rw [run, hparse]
  rfl

/-- A request whose settings can be read and whose paths pass all checks comes to its plan. -/
theorem run_carryOut_of_planned {file : Settings}
    (hfile : (fileSettings w r).run s = (.ok file, s₁))
    (hplan : (planFor w r (override w r file)).run s₁ = (.ok plan, s₂)) :
    (carryOut w r).run s = (carryOutPlan w r (override w r file) plan).run s₂ := by
  rw [carryOut, Oracle.run_bind_of_run hfile]
  exact Oracle.run_bind_of_run hplan

/-- Such a command line does what its run does, and concludes from that. -/
theorem run_of_reaches (h : Reaches w args s r settings plan fix s₀) :
    (run w args).run s = (runWith w r settings plan fix >>= conclude w).run s₀ := by
  obtain ⟨file, s₁, hfile, rfl, hplan⟩ := h.planned
  have hcarry : (carryOut w r).run s = (runWith w r (override w r file) plan fix).run s₀ := by
    rw [run_carryOut_of_planned hfile hplan, carryOutPlan, h.printPlan_eq, if_neg Bool.false_ne_true,
      h.engineFor_eq]
  rw [run_of_parse h.parse_eq, StateT.run_bind, StateT.run_bind, hcarry]

/-! ## after the run -/

/-- Tells of a report that could not be written. -/
def tellUnwritten (w : World (StateM σ)) : Except ProgramError Unit → StateM σ Unit
  | .ok () => return ()
  | .error e => tellError w "failed to write report: " e

/-- After a run its report is written, and where the run was stopped, an error of that is told
apart. -/
theorem exists_run_runWith
    (hrun : (runPlan ⟨fix, cleanFile w.disk.toAccess, w.now⟩ (runSettingsFor r settings) plan).run
      s₀ = (outcome, s₁))
    (hwrite : (writeReport w r outcome.report).run s₁ = (written, s₂)) :
    ∃ s₃, (runWith w r settings plan fix).run s₀ = (verdict outcome written, s₃) ∧
      (outcome.abort = none → s₃ = s₂) ∧
      ∀ a, outcome.abort = some a → (tellUnwritten w written).run s₂ = ((), s₃) := by
  rw [runWith, Oracle.run_bind_of_run hrun, Oracle.run_bind_of_run hwrite]
  cases outcome.abort with
  | none => exact ⟨s₂, rfl, fun _ => rfl, fun a h => absurd h.symm (Option.some_ne_none a)⟩
  | some a =>
    refine ⟨((tellUnwritten w written).run s₂).2, ?_, fun h => absurd h (Option.some_ne_none a),
      fun _ _ => rfl⟩
    cases written <;> rfl

/-- A report that cannot be written makes the program fail with the status 1. -/
theorem exitCode_of_writeReport {report : Report} {e : ProgramError}
    (h : (writeReport w r report).run s = (.error e, s')) : e.exitCode = 1 := by
  rw [writeReport] at h
  split at h
  · cases h
  · next path _ =>
    obtain ⟨answer, s₁, -, h⟩ := Oracle.exists_run_of_run_bind h
    cases answer <;> cases h
    rfl

/-- Whatever is wrong after a run, the exit status is 1. -/
theorem exitCode_of_verdict {e : ProgramError}
    (hwrite : (writeReport w r outcome.report).run s₁ = (written, s₂))
    (h : verdict outcome written = .error e) : e.exitCode = 1 := by
  unfold verdict at h
  split at h
  · cases h; rfl
  · cases h; exact exitCode_of_writeReport hwrite
  · split at h
    · cases h; rfl
    · cases h

/-- Where something is wrong, the last thing that is done is to tell it. -/
theorem run_tellError_of_run_conclude {e : ProgramError} {status : UInt8}
    (h : (conclude w (.error e)).run s = (status, s')) : (tellError w "" e).run s = ((), s') := by
  obtain ⟨answer, s₁, htell, h⟩ := Oracle.exists_run_of_run_bind h
  cases h
  exact htell

/-! ## the report -/

/-- A world whose disk is a tree: what is written without an error is written there, and telling
errors does not touch it.  Which writes fail is left open. -/
structure HasTree (w : World (StateM σ)) (tree : σ → Files.Tree) : Prop where
  write_ok : ∀ path bytes s s', (w.disk.write path bytes).run s = (.ok (), s') →
    (tree s).write path bytes = .ok (tree s')
  keeps_tell : ∀ text, Keeps tree (w.tell text)

variable {tree : σ → Files.Tree}

/-- A report that is written stands where it is wanted. -/
theorem HasTree.hasTaken_of_writeReport (h : HasTree w tree) {report : Report} {path : Path}
    (hpath : r.report = some path) (hwrite : (writeReport w r report).run s = (.ok (), s')) :
    (tree s').HasTaken path report.toJson.pretty.toUTF8 := by
  rw [writeReport, hpath] at hwrite
  obtain ⟨answer, s₁, hanswer, hwrite⟩ := Oracle.exists_run_of_run_bind hwrite
  cases answer with
  | error e => cases hwrite
  | ok =>
    cases hwrite
    exact Files.Tree.hasTaken_of_write (h.write_ok _ _ _ _ hanswer)

theorem HasTree.keeps_tellUnwritten (h : HasTree w tree) (written : Except ProgramError Unit) :
    Keeps tree (tellUnwritten w written) := by
  cases written with
  | ok => exact .pure ()
  | error e => exact h.keeps_tell _

theorem HasTree.keeps_conclude (h : HasTree w tree) (result : Except ProgramError Unit) :
    Keeps tree (conclude w result) := by
  cases result with
  | ok => exact .pure 0
  | error e => exact (h.keeps_tell _).bind fun _ => .pure _

/-! ## the exit status -/

/-- The exit status is 0 where nothing is wrong after a run, and 1 otherwise. -/
theorem status_of_run_conclude {status : UInt8}
    (hwrite : (writeReport w r outcome.report).run s₁ = (written, s₂))
    (h : (conclude w (verdict outcome written)).run s = (status, s')) :
    (status = 0 ↔ verdict outcome written = .ok ()) ∧ (status ≠ 0 → status = 1) := by
  cases hverdict : verdict outcome written with
  | ok =>
    rw [hverdict] at h
    cases h
    exact ⟨iff_of_true rfl rfl, fun hne => absurd rfl hne⟩
  | error e =>
    have hone : e.exitCode = 1 := exitCode_of_verdict hwrite hverdict
    rw [hverdict] at h
    obtain ⟨answer, s₁, -, h⟩ := Oracle.exists_run_of_run_bind h
    cases h
    simp [hone]

/-- **Exit status**: a command line that comes to a run exits with 0 just in case its report could
be written, if it wants one, and either no call failed or the policy is to go on and some call
succeeded; otherwise it exits with 1.  What the cleanups answer plays no part.  Where the report
could be written, it stands there in the end, be the run completed or stopped; and the last thing
that is done after a run that was stopped is to tell why it was, with or without a report. -/
theorem run_status (h : Reaches w args s r settings plan fix s₀) :
    ∃ course outcome s₁ written s₂ status s',
      CarriesOut ⟨fix, cleanFile w.disk.toAccess, w.now⟩ (runSettingsFor r settings) plan s₀
        course outcome s₁ ∧
      (writeReport w r outcome.report).run s₁ = (written, s₂) ∧
      (run w args).run s = (status, s') ∧
      (status = 0 ↔ written = .ok () ∧
        ((∀ answered ∈ answers course.events, answered.2.isOk = true) ∨
          settings.policy = .proceed ∧
            ∃ answered ∈ answers course.events, answered.2.isOk = true)) ∧
      (status ≠ 0 → status = 1) ∧
      (∀ tree, HasTree w tree → ∀ path, r.report = some path → written = .ok () →
        (tree s').HasTaken path outcome.report.toJson.pretty.toUTF8) ∧
      ∀ a, course.abort = some a → ∃ s₃, (tellUnwritten w written).run s₂ = ((), s₃) ∧
        (tellError w "" (.of (.aborted a))).run s₃ = ((), s') := by
  let agents : Agents (StateM σ) := ⟨fix, cleanFile w.disk.toAccess, w.now⟩
  obtain ⟨outcome, s₁, houtcome⟩ : ∃ outcome s₁,
      (runPlan agents (runSettingsFor r settings) plan).run s₀ = (outcome, s₁) := ⟨_, _, rfl⟩
  obtain ⟨written, s₂, hwrite⟩ : ∃ written s₂,
      (writeReport w r outcome.report).run s₁ = (written, s₂) := ⟨_, _, rfl⟩
  obtain ⟨s₃, hwith, hgoes, hstopped⟩ := exists_run_runWith houtcome hwrite
  obtain ⟨status, s', hconclude⟩ : ∃ status s',
      (conclude w (verdict outcome written)).run s₃ = (status, s') := ⟨_, _, rfl⟩
  have hrun : (run w args).run s = (status, s') := by
    rw [run_of_reaches h, Oracle.run_bind_of_run hwith, hconclude]
  obtain ⟨hzero, hone⟩ := status_of_run_conclude hwrite hconclude
  obtain ⟨course, hcarries⟩ := exists_carriesOut agents (runSettingsFor r settings) plan s₀
  rw [houtcome] at hcarries
  obtain ⟨started, _, _, ended, -, htakes, -, hcourse⟩ := id hcarries
  have habort : outcome.abort = course.abort := congrArg Outcome.abort hcourse
  refine ⟨course, outcome, s₁, written, s₂, status, s', hcarries, hwrite, hrun, ?_, hone, ?_, ?_⟩
  · have hsucceeds := htakes.succeeds_iff plan.mode started ended
    rw [← hcourse] at hsucceeds
    rw [hzero, verdict_eq_ok_iff, and_left_comm, habort]
    exact and_congr_right' hsucceeds
  · rintro tree htree path hpath rfl
    have htold : tree s₃ = tree s₂ := by
      cases hcase : outcome.abort with
      | none => rw [hgoes hcase]
      | some a =>
        have hkeep := htree.keeps_tellUnwritten (.ok ()) s₂
        rwa [hstopped a hcase] at hkeep
    have hend := htree.keeps_conclude (verdict outcome (.ok ())) s₃
    rw [hconclude, htold] at hend
    rw [hend]
    exact htree.hasTaken_of_writeReport hpath hwrite
  · intro a ha
    have hverdict : verdict outcome written = .error (.of (.aborted a)) := by
      unfold verdict
      rw [habort, ha]
    rw [hverdict] at hconclude
    exact ⟨s₃, hstopped a (habort.trans ha), run_tellError_of_run_conclude hconclude⟩

/-! ## watched scenes -/

namespace Watched

variable {programs : Programs} {clock : Watched → Timestamp} {engine : Option String}
  {s : Watched} {fix : Call → StateM Watched (Except EngineError Unit)}

/-- The disk of a watched scene is its tree. -/
theorem hasTree_world : HasTree (world programs clock engine) fun s => s.scene.tree where
  write_ok path bytes s s' h := by
    rw [run_write] at h
    cases hwrite : s.scene.tree.write path bytes with
    | ok tree => rw [hwrite] at h; cases h; rfl
    | error e => rw [hwrite] at h; cases h
  keeps_tell _ _ := rfl

/-- A request that validates comes to its plan, and leaves no trace on the way. -/
theorem Validates.planned (h : Validates (world programs clock engine) s r settings plan) :
    ∃ file s₁, (fileSettings (world programs clock engine) r).run s = (.ok file, s₁) ∧
      override (world programs clock engine) r file = settings ∧
      (planFor (world programs clock engine) r settings).run s₁ = (.ok plan, s) := by
  obtain ⟨file, hfile, hsettings⟩ := map_eq_ok.mp h.fileSettings_eq
  refine ⟨file, s, Prod.ext hfile ?_, hsettings, Prod.ext h.planFor_eq ?_⟩
  · exact readingKeeps.fileSettings r s
  · exact readingKeeps.planFor r settings s

/-- A request with a plan comes to a run if it does not just print the plan and has an engine. -/
theorem Validates.reaches (h : Validates (world programs clock engine) s r settings plan)
    (hparse : Request.parse args = .ok r) (hprint : r.printPlan = false)
    (hengine : engineFor (world programs clock engine) r settings = .ok fix) :
    Reaches (world programs clock engine) args s r settings plan fix s :=
  ⟨hparse, h.planned, hprint, hengine⟩

/-- A report that can be written is written. -/
theorem written_eq_ok {report : Report} {s' : Watched}
    (hwrite : (writeReport (world programs clock engine) r report).run s = (written, s'))
    (h : ¬Unwritable r.report s.scene.tree) : written = .ok () := by
  obtain ⟨written', tree, hwrite', -, hwritten⟩ :=
    @run_writeReport programs clock engine r report s
  cases hwrite.symm.trans hwrite'
  exact hwritten.resolve_right h

/-- A path, and two flags that take a value each. -/
theorem parse_stop_and_report :
    Request.parse ["lib", "--on-error", "abort", "--report", "out.json"] =
      .ok ⟨none, none, some .stop, false, false, false, some ⟨"out.json"⟩, ["lib"]⟩ := by
  have honError : called? programFlags "--on-error" = some (Meaning.flag .onError, none) := rfl
  have hreport : called? programFlags "--report" = some (Meaning.flag .report, none) := rfl
  have hitems : items programFlags ["lib", "--on-error", "abort", "--report", "out.json"] =
      [.plain "lib", .flag ⟨Meaning.flag .onError, "--on-error", none, some "abort"⟩,
        .flag ⟨Meaning.flag .report, "--report", none, some "out.json"⟩] := by
    rw [items_plain programFlags "lib" _ (by decide) rfl,
      items_cons_of_called (by decide) honError rfl, items_cons_of_called (by decide) hreport rfl,
      items_nil]
  rw [Request.parse, givenFlags, plainTokens, hitems]
  rfl

/-- Beside the only directory there is a report can be written. -/
theorem writable_oneDirectory :
    ¬Unwritable (some ⟨"out.json"⟩) ⟨[(["lib"], .directory)], []⟩ := by
  rintro ⟨path, bytes, e, hpath, hwrite⟩
  cases hpath
  have hfind : Files.Tree.find ⟨[(["lib"], .directory)], []⟩ ⟨"out.json"⟩ true =
      .ok ⟨["out.json"], none, false⟩ :=
    Files.Tree.find_absent (by decide) (by decide) (by decide) (by decide) (by decide) rfl
  rw [Files.Tree.write, Files.Tree.modify, hfind] at hwrite
  cases hwrite

/-- An engine that fails on the only directory there is, where the policy is to stop. -/
theorem run_status_stopped :
    let s : Watched := ⟨.ofTree ⟨[(["lib"], .directory)], []⟩, []⟩
    let programs : Programs := fun _ _ scene => (.ok ⟨.exited 3, "", ""⟩, scene)
    let w := world programs (fun _ => .ofUnix 0 0) (some "fixer")
    let args := ["lib", "--on-error", "abort", "--report", "out.json"]
    ∃ (outcome : Outcome) (s' s₃ : Watched) (a : Abort), (Program.run w args).run s = (1, s') ∧
      outcome.abort = some a ∧
      s'.scene.tree.HasTaken ⟨"out.json"⟩ outcome.report.toJson.pretty.toUTF8 ∧
      (tellError w "" (.of (.aborted a))).run s₃ = ((), s') := by
  intro s programs w args
  let tree : Files.Tree := ⟨[(["lib"], .directory)], []⟩
  let r : Request := ⟨none, none, some .stop, false, false, false, some ⟨"out.json"⟩, ["lib"]⟩
  have hparse : Request.parse args = .ok r := parse_stop_and_report
  obtain ⟨hfile, hlib⟩ := standing_oneDirectory
  have hvalid := @validates_directory programs (fun _ => .ofUnix 0 0) (some "fixer") s r "lib" rfl
    rfl rfl (by decide) hfile (congrArg Standing.kind hlib)
  obtain ⟨course, outcome, s₁, written, s₂, status, s', hcarries, hwrite, hrun, hzero, hone, htaken,
    hlast⟩ := run_status (hvalid.reaches hparse rfl rfl)
  obtain ⟨started, t₁, t₂, ended, hstart, htakes, hend, houtcome⟩ := hcarries
  have hcalls : (Plan.make [⟨⟨"lib"⟩, .directory⟩] (some .all) true).calls =
      [.directory ⟨"lib"⟩ .all true] := by
    rw [calls_of_some rfl, Plan.targets_make]
    rfl
  have hlaunch : ∃ e t, (w.launch "fixer" [] (.directory ⟨"lib"⟩ .all true)).run s =
      (.error e, t) ∧ t.scene.tree = tree := ⟨_, _, rfl, rfl⟩
  obtain ⟨e, t, hanswer, htree⟩ := hlaunch
  cases hstart
  rw [hcalls] at htakes
  cases htakes with
  | round hfix hgoes =>
    cases hanswer.symm.trans hfix
    exact absurd ⟨rfl, e, rfl⟩ hgoes
  | stopped hfix hpolicy =>
    cases hanswer.symm.trans hfix
    cases hend
    have hwritten : written = .ok () := written_eq_ok hwrite (htree ▸ writable_oneDirectory)
    have hstatus : status ≠ 0 := by
      intro h
      obtain ⟨-, hall | ⟨hproceed, -⟩⟩ := hzero.mp h
      · cases hall _ List.mem_cons_self
      · cases hproceed
    obtain ⟨s₃, -, htold⟩ := hlast _ rfl
    exact ⟨outcome, s', s₃, _, hone hstatus ▸ hrun, congrArg Outcome.abort houtcome,
      htaken _ hasTree_world _ rfl hwritten, htold⟩

end Watched

end FixBatch.Program
