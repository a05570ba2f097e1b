import FixBatch.Proofs.Arguments
import FixBatch.Proofs.CommandLine.Request
import FixBatch.Proofs.Files.Tree
import FixBatch.Proofs.Program.Watched
import FixBatch.Proofs.Run.Policy

/-!
# FixBatch.Proofs.Program.DryRun

Dry runs beside the runs they stand for.  A dry run prints the arguments of the calls that the same
command line would make without `--dry-run`, and does nothing else but to write its report.

* `run_carryOut` — with the settings read and the paths checked, a request comes to its plan;
* `PrintsOnly` — what a dry run may do;
* `run_dryRun` — the two runs side by side.
-/

namespace FixBatch.Program

open CommandLine
open Files (ChangesOnly)

namespace Watched

variable {programs : Programs} {clock : Watched → Timestamp} {engine : Option String}
  {s : Watched} {r : Request} {settings : Settings} {plan : Plan}

/-! ## from a request to its plan -/

/-- A request whose settings can be read and whose paths pass all checks. -/
structure Validates (w : World (StateM Watched)) (s : Watched) (r : Request) (settings : Settings)
    (plan : Plan) : Prop where
  fileSettings_eq : ((fileSettings w r).run s).1.map (override w r) = .ok settings
  planFor_eq : ((planFor w r settings).run s).1 = .ok plan

theorem run_carryOut (h : Validates (world programs clock engine) s r settings plan) :
    (carryOut (world programs clock engine) r).run s =
      (carryOutPlan (world programs clock engine) r settings plan).run s := by
  obtain ⟨file, hfile, rfl⟩ := map_eq_ok.mp h.fileSettings_eq
  rw [carryOut, (readingKeeps.fileSettings r).run_bind, hfile]
  simp only
  rw [(readingKeeps.planFor r _).run_bind, h.planFor_eq]

/-- Neither what started programs do, nor the clock, nor whether a run is dry makes a difference to
the plan. -/
theorem Validates.dry (h : Validates (world programs clock engine) s r settings plan)
    (programs' : Programs) (clock' : Watched → Timestamp) (engine' : Option String) :
    ∃ settings', Validates (world programs' clock' engine') s { r with dryRun := true } settings'
      plan := by
  obtain ⟨file, hfile, rfl⟩ := map_eq_ok.mp h.fileSettings_eq
  have hfile' :
      ((fileSettings (world programs' clock' engine') { r with dryRun := true }).run s).1 =
        .ok file := hfile
  exact ⟨_, map_eq_ok.mpr ⟨file, hfile', rfl⟩, h.planFor_eq⟩

/-- Where no settings file says otherwise, a directory alone is treated under all rules. -/
theorem validates_directory {dir : String} (hconfig : r.config = none) (hlegacy : r.legacy = false)
    (hargs : r.args = [dir]) (hplain : Token.isDashed dir = false)
    (hfile : s.scene.tree.standing ⟨"./rulefix.toml"⟩ = .absent)
    (hdir : (s.scene.tree.standing ⟨dir⟩).kind = some .directory) :
    Validates (world programs clock engine) s r (override (world programs clock engine) r .default)
      (.make [⟨⟨dir⟩, .directory⟩] (some .all) true) where
  fileSettings_eq := by
    rw [run_fileSettings_of_absent hconfig hfile]
    rfl
  planFor_eq := by
    have hpaths : (Arguments.parse [dir]).paths.toList = [⟨dir⟩] := by
      rw [paths_parse, pathTokens_cons_of_not_isDashed hplain]
      rfl
    have hkind : (Probe.ofList [(⟨dir⟩, s.scene.tree.standing ⟨dir⟩)] ⟨dir⟩).kind =
        some .directory := by
      simpa [Probe.ofList] using hdir
    rw [run_planFor, hargs, hpaths, List.map_singleton, hlegacy]
    exact mapError_eq_ok.mpr (buildPlan_directory_alone rfl hplain hkind)

/-! ## dry runs -/

/-- What a dry run may do: it prints, and writes where the report is wanted. -/
structure PrintsOnly (report : Option Path) (text : String) (s s' : Watched) : Prop where
  out_eq : s'.scene.out = s.scene.out ++ text.toUTF8
  started_eq : s'.started = s.started
  changesOnly : ChangesOnly report s.scene.tree s'.scene.tree

/-- A report cannot be written where it is wanted. -/
def Unwritable (report : Option Path) (tree : Files.Tree) : Prop :=
  ∃ path bytes e, report = some path ∧ tree.write path bytes = .error e

theorem run_write (path : Path) (bytes : ByteArray) (s : Watched) :
    ((world programs clock engine).disk.toAccess.write path bytes).run s =
      match s.scene.tree.write path bytes with
      | .ok tree => (.ok (), { s with scene := { s.scene with tree } })
      | .error e => (.error e, s) := by
  have hrun : ((world programs clock engine).disk.toAccess.write path bytes).run s =
      let change := Files.Tree.change (·.write path bytes) s.scene.tree
      (change.1, { s with scene := { s.scene with tree := change.2 } }) := rfl
  rw [hrun, Files.Tree.change]
  cases s.scene.tree.write path bytes <;> rfl

/-- A report changes nothing but the place where it is wanted. -/
theorem run_writeReport (r : Request) (report : Report) (s : Watched) : ∃ written tree,
    (writeReport (world programs clock engine) r report).run s =
      (written, { s with scene := { s.scene with tree } }) ∧
    ChangesOnly r.report s.scene.tree tree ∧
    (written = .ok () ∨ Unwritable r.report s.scene.tree) := by
  rw [writeReport]
  cases r.report with
  | none => exact ⟨_, _, rfl, Files.Tree.changesOnly_self none _, .inl rfl⟩
  | some path =>
    have hrun := @run_write programs clock engine path report.toJson.pretty.toUTF8 s
    cases hwrite : s.scene.tree.write path report.toJson.pretty.toUTF8 with
    | ok tree =>
      rw [hwrite] at hrun
      refine ⟨.ok (), tree, Oracle.run_bind_of_run hrun, ?_, .inl rfl⟩
      exact Files.Tree.changesOnly_of_modify hwrite
    | error e =>
      rw [hwrite] at hrun
      exact ⟨_, _, Oracle.run_bind_of_run hrun, Files.Tree.changesOnly_self _ _,
        .inr ⟨path, _, e, rfl, hwrite⟩⟩

/-- **Dry runs** print a line for each call of their plan, and write their report. -/
theorem run_carryOutPlan_dry (hdry : r.dryRun = true) (hprint : r.printPlan = false)
    (settings : Settings) (plan : Plan) (s : Watched) : ∃ written s',
    (carryOutPlan (world programs clock engine) r settings plan).run s = (written, s') ∧
      PrintsOnly r.report (printedLines plan.calls) s s' ∧
      (written = .ok () ∨ Unwritable r.report s.scene.tree) := by
  have hprints : Prints (world programs clock engine).print printed :=
    ⟨run_print, printed_empty, printed_printed⟩
  have hnow : Keeps id (world programs clock engine).now := fun _ => rfl
  have hsettings : runSettingsFor r settings = ⟨settings.policy, false⟩ := by
    simp [runSettingsFor, Settings.runSettings, hdry]
  simp only [carryOutPlan, hprint, Bool.false_eq_true, if_false, engineFor, hdry, if_true]
  let printed := s.printed (printedLines plan.calls)
  let outcome := (succeeding plan.calls).outcome plan.mode settings.policy (clock s) (clock printed)
  have hallFailed : outcome.report.allFailed = false := allFailed_succeeding plan.calls _ _ _ _
  obtain ⟨written, tree, hrun, hchanges, hwritten⟩ :=
    @run_writeReport programs clock engine r outcome.report printed
  let after : Watched := { printed with scene := { printed.scene with tree } }
  rw [runWith, hsettings, Oracle.run_bind_of_run (hprints.run_runPlan hnow _ plan s)]
  refine ⟨written, after, (Oracle.run_bind_of_run hrun).trans ?_, ⟨rfl, rfl, hchanges⟩, hwritten⟩
  cases written with
  | ok =>
    have hverdict := (verdict_eq_ok_iff outcome (.ok ())).mpr ⟨rfl, rfl, hallFailed⟩
    exact congrArg (·, after) hverdict
  | error e => rfl

/-! ## runs that start programs -/

/-- **Other runs** start their program for the first calls of their plan in order, and for all of
them if they go on after failures. -/
theorem exists_started_carryOutPlan (hdry : r.dryRun = false) (hprint : r.printPlan = false)
    {program : String} {leading : List String} (hcommand : settings.command = program :: leading)
    (plan : Plan) (s : Watched) : ∃ made, made <+: plan.calls ∧
      (settings.policy = .proceed → made = plan.calls) ∧
      ((carryOutPlan (world programs clock engine) r settings plan).run s).2.started =
        s.started ++ made.map fun call => program :: (leading ++ call.arguments) := by
  let w := world programs clock engine
  let agents : Agents (StateM Watched) :=
    ⟨w.launch program leading, cleanFile w.disk.toAccess, w.now⟩
  have hfix := @started_launch programs clock engine program leading
  have hnow : Keeps started agents.now := fun _ => rfl
  obtain ⟨made, hprefix, hproceed, hlog⟩ := @exists_log_runPlan _ _ agents
    (runSettingsFor r settings) started _ hfix keeps_started_cleanFile hnow plan s
  refine ⟨made, hprefix, hproceed, ?_⟩
  simp only [carryOutPlan, hprint, Bool.false_eq_true, if_false, engineFor, hdry, hcommand]
  rw [runWith, ← hlog]
  refine part_run_bind (fun outcome => ?_) _ s
  refine (keeps_started_writeReport r outcome.report).bind fun written => ?_
  split
  · exact (keeps_started _).bind fun _ => .pure _
  · exact (Keeps.pure _).bind fun _ => .pure _

/-! ## command lines -/

variable {args before after : List String}

/-- A command line for a dry run does no more than its dry run, and fails only where the report
cannot be written. -/
theorem exists_run_of_dryRun (hparse : Request.parse args = .ok r) (hdry : r.dryRun = true)
    (hprint : r.printPlan = false)
    (hvalid : Validates (world programs clock engine) s r settings plan) : ∃ status s',
    (Program.run (world programs clock engine) args).run s = (status, s') ∧
      PrintsOnly r.report (printedLines plan.calls) s s' ∧
      (status = 0 ∨ Unwritable r.report s.scene.tree) := by
  obtain ⟨written, s', hrun, hprints, hwritten⟩ :=
    @run_carryOutPlan_dry programs clock engine r hdry hprint settings plan s
  rw [Program.run, hparse, Oracle.run_bind_of_run ((run_carryOut hvalid).trans hrun)]
  cases written with
  | ok => exact ⟨0, s', rfl, hprints, .inl rfl⟩
  | error e =>
    -- telling the error touches neither the output nor the files
    have hunwritable := hwritten.resolve_left (by rintro ⟨⟩)
    exact ⟨e.exitCode, _, rfl, ⟨hprints.out_eq, hprints.started_eq, hprints.changesOnly⟩,
      .inr hunwritable⟩

/-- Any other command line starts what its plan starts. -/
theorem started_run (hparse : Request.parse args = .ok r)
    (hvalid : Validates (world programs clock engine) s r settings plan) :
    ((Program.run (world programs clock engine) args).run s).2.started =
      ((carryOutPlan (world programs clock engine) r settings plan).run s).2.started := by
  rw [Program.run, hparse, ← run_carryOut hvalid]
  refine part_run_bind (fun written => ?_) _ s
  split
  · exact .pure _
  · exact (keeps_started _).bind fun _ => .pure _

theorem printedLines_eq (calls : List Call) : printedLines calls =
    String.join ((calls.map Call.arguments).map fun v => String.intercalate " " v ++ "\n") := by
  rw [List.map_map]
  rfl

/-- **Dry runs**: where a command line has a plan, the same command line with `--dry-run`, wherever
that can stand as a flag, prints the arguments of the calls of the plan, a line for each call, and
starts nothing; it needs no engine, and fails only where its report cannot be written.  Without
`--dry-run`, the program that is configured is started with these arguments after the leading ones:
for all of the calls if the run goes on after failures, and otherwise for the first of them.  There
are no other command lines for dry runs: each asks for the same in earnest without its
`--dry-run`. -/
theorem run_dryRun (hwhole : IsWhole programFlags before)
    (hparse : Request.parse (before ++ after) = .ok r) (hdry : r.dryRun = false)
    (hprint : r.printPlan = false)
    (hvalid : Validates (world programs clock engine) s r settings plan) :
    let vectors := plan.calls.map Call.arguments
    (∀ programs' clock' engine', ∃ status s',
      (Program.run (world programs' clock' engine') (before ++ "--dry-run" :: after)).run s =
        (status, s') ∧
      PrintsOnly r.report (String.join (vectors.map fun v => String.intercalate " " v ++ "\n")) s
        s' ∧
      (status = 0 ∨ Unwritable r.report s.scene.tree)) ∧
    (∀ program leading, settings.command = program :: leading →
      ∃ made, made <+: vectors ∧ (settings.policy = .proceed → made = vectors) ∧
        ((Program.run (world programs clock engine) (before ++ after)).run s).2.started =
          s.started ++ made.map fun v => program :: (leading ++ v)) ∧
    ∀ args dry, Request.parse args = .ok dry → dry.dryRun = true →
      ∃ before after real, IsWhole programFlags before ∧ args = before ++ "--dry-run" :: after ∧
        Request.parse (before ++ after) = .ok real ∧ real.dryRun = false ∧
        dry = { real with dryRun := true } := by
  refine ⟨?_, ?_, fun args dry => exists_real_of_dryRun⟩
  · intro programs' clock' engine'
    have hparse' := (parse_insert_dryRun hwhole after).mpr ⟨r, hparse, hdry, rfl⟩
    obtain ⟨settings', hvalid'⟩ := hvalid.dry programs' clock' engine'
    have hdryRun := exists_run_of_dryRun hparse' rfl hprint hvalid'
    rw [printedLines_eq] at hdryRun
    exact hdryRun
  · intro program leading hcommand
    obtain ⟨made, hprefix, hproceed, hstarted⟩ :=
      @exists_started_carryOutPlan programs clock engine r settings hdry hprint _ _ hcommand plan s
    refine ⟨made.map Call.arguments, hprefix.map _, fun h => by rw [hproceed h], ?_⟩
    rw [started_run hparse hvalid, hstarted, List.map_map]
    rfl

/-- What stands at two paths of a home with nothing but one directory. -/
theorem standing_oneDirectory :
    let tree : Files.Tree := ⟨[(["lib"], .directory)], []⟩
    tree.standing ⟨"./rulefix.toml"⟩ = .absent ∧
      tree.standing ⟨"lib"⟩ = ⟨some .directory, true, false⟩ := by
  intro tree
  constructor
  · have hsteps : Files.stepsOf ⟨"./rulefix.toml"⟩ = [.here, .name "rulefix.toml"] := by decide
    have hfind : tree.find ⟨"./rulefix.toml"⟩ true = .ok ⟨["rulefix.toml"], none, false⟩ := by
      rw [Files.Tree.find, if_neg (by decide), if_neg (by decide), if_neg (by decide), hsteps,
        Files.Tree.walk, Files.Tree.walk]
      rfl
    rw [Files.Tree.standing, hfind]
  · have hsteps : Files.stepsOf ⟨"lib"⟩ = [.name "lib"] := by decide
    have hfind : tree.find ⟨"lib"⟩ true = .ok ⟨["lib"], some .directory, false⟩ := by
      rw [Files.Tree.find, if_neg (by decide), if_neg (by decide), if_neg (by decide), hsteps,
        Files.Tree.walk, if_neg (by decide)]
      exact Files.Tree.walk.eq_1 ..
    rw [Files.Tree.standing, hfind]

/-- One directory in an otherwise empty world, where the engine comes from the environment. -/
theorem run_dryRun_directory :
    let s : Watched := ⟨.ofTree ⟨[(["lib"], .directory)], []⟩, []⟩
    let programs : Programs := fun _ _ scene => (.ok ⟨.exited 0, "", ""⟩, scene)
    let w (engine : Option String) := world programs (fun _ => .ofUnix 0 0) engine
    (∃ s', (Program.run (w none) ["lib", "--dry-run"]).run s = (0, s') ∧
      PrintsOnly none "directory all lib --ignoreTestFiles=true\n" s s') ∧
    ((Program.run (w (some "fixer")) ["lib"]).run s).2.started =
      [["fixer", "directory", "all", "lib", "--ignoreTestFiles=true"]] := by
  intro s programs w
  let tree : Files.Tree := ⟨[(["lib"], .directory)], []⟩
  let r : Request := ⟨none, none, none, false, false, false, none, ["lib"]⟩
  let plan : Plan := .make [⟨⟨"lib"⟩, .directory⟩] (some .all) true
  have hplain : IsPlain programFlags "lib" := isPlain_iff.mpr ⟨by decide, rfl⟩
  have hwhole : IsWhole programFlags ["lib"] := .plain hplain .nil
  have hitems : items programFlags ["lib"] = [.plain "lib"] := by
    rw [items_plain programFlags "lib" [] hplain.ne_dashes rfl, items_nil]
  have hparse : Request.parse ["lib"] = .ok r := by
    refine parse_eq_ok_iff.mpr ⟨[], ?_, .nil, ?_⟩
    · rw [givenFlags, hitems]
      exact .nil
    · rw [plainTokens, hitems]
      rfl
  obtain ⟨hfile, hlib⟩ := standing_oneDirectory
  have hvalid := @validates_directory programs (fun _ => .ofUnix 0 0) (some "fixer") s r "lib" rfl
    rfl rfl (by decide) hfile (congrArg Standing.kind hlib)
  have hvectors : plan.calls.map Call.arguments =
      [["directory", "all", "lib", "--ignoreTestFiles=true"]] := by
    rw [calls_of_some rfl, Plan.targets_make]
    rfl
  have hparse' : Request.parse (["lib"] ++ []) = .ok r := hparse
  obtain ⟨hdry, hreal, -⟩ := run_dryRun hwhole hparse' rfl rfl hvalid
  obtain ⟨status, s', hrun, hprints, hstatus⟩ := hdry programs (fun _ => .ofUnix 0 0) none
  obtain ⟨made, -, hproceed, hstarted⟩ := hreal "fixer" [] rfl
  rw [hvectors] at hprints hproceed
  rw [hproceed rfl] at hstarted
  have hzero : status = 0 := by
    rcases hstatus with hzero | ⟨path, bytes, e, hnone, -⟩
    · exact hzero
    · cases hnone
  exact ⟨⟨s', hzero ▸ hrun, hprints⟩, hstarted⟩

end Watched

end FixBatch.Program
