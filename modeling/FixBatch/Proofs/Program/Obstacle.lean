import FixBatch.Proofs.Program.Status

/-!
# FixBatch.Proofs.Program.Obstacle

Command lines that never come to a run.  A command line may be refused, its settings may be no
settings, its paths may fail a check, or there may be no engine for it.  All that is done then is to
read files and to tell an error, and the exit status is 2; only settings that cannot be read, or are
not understood, give the status 1 of a run that failed.

* `Blocked` — what keeps a command line from its run;
* `run_of_blocked` — what becomes of it;
* `run_blocked` — the statuses 1 and 2, and what they tell apart.
-/

namespace FixBatch.Program

open CommandLine

variable {σ : Type} {w : World (StateM σ)} {args : List String} {r : Request}
  {settings : Settings} {plan : Plan} {e : ProgramError} {s s' s₀ s₁ s₂ : σ}

/-! ## obstacles -/

/-- What keeps a command line from its run. -/
inductive Obstacle where
  | commandLine
  | settings
  | checks
  | engine
deriving DecidableEq, Repr

/-- The exit status of a command line that is kept from its run. -/
def Obstacle.exitCode : Obstacle → UInt8
  | .settings => 1
  | .commandLine | .checks | .engine => 2

/-- A command line that is kept from its run: it is refused, its settings cannot be read or are not
understood, its paths fail a check, or a run that is not dry has no engine. -/
inductive Blocked (w : World (StateM σ)) (args : List String) (s : σ) : Obstacle → Prop where
  | commandLine {refusal : Refusal} (hparse : Request.parse args = .error (.refused refusal)) :
      Blocked w args s .commandLine
  | settings {r : Request} {e : ProgramError} {s₁ : σ} (hparse : Request.parse args = .ok r)
      (hfile : (fileSettings w r).run s = (.error e, s₁)) : Blocked w args s .settings
  | checks {r : Request} {file : Settings} {e : ProgramError} {s₁ s₂ : σ}
      (hparse : Request.parse args = .ok r) (hfile : (fileSettings w r).run s = (.ok file, s₁))
      (hplan : (planFor w r (override w r file)).run s₁ = (.error e, s₂)) :
      Blocked w args s .checks
  | engine {r : Request} {file : Settings} {plan : Plan} {s₁ s₂ : σ}
      (hparse : Request.parse args = .ok r) (hfile : (fileSettings w r).run s = (.ok file, s₁))
      (hplan : (planFor w r (override w r file)).run s₁ = (.ok plan, s₂))
      (hprint : r.printPlan = false) (hdry : r.dryRun = false)
      (hcommand : (override w r file).command = []) : Blocked w args s .engine

/-! ## the statuses of errors -/

/-- Settings that are no settings give the status 1. -/
theorem exitCode_of_fileSettings (h : (fileSettings w r).run s = (.error e, s₁)) :
    e.exitCode = 1 := by
  rw [fileSettings] at h
  split at h <;>
  · obtain ⟨answer, s₂, -, h⟩ := Oracle.exists_run_of_run_bind h
    cases answer <;> cases h
    rfl

/-- Paths that fail a check give the status 2. -/
theorem exitCode_of_planFor (h : (planFor w r settings).run s = (.error e, s₁)) :
    e.exitCode = 2 := by
  rw [planFor] at h
  obtain ⟨probe, s₂, -, h⟩ := Oracle.exists_run_of_run_bind h
  have herror := congrArg Prod.fst h
  obtain ⟨usage, -, rfl⟩ := mapError_eq_error.mp herror
  rfl

/-- There is no engine where a run is not dry and no command is known. -/
theorem engineFor_eq_error_iff : engineFor w r settings = .error e ↔
    r.dryRun = false ∧ settings.command = [] ∧ e = .of .noEngine := by
  rw [engineFor]
  cases r.dryRun with
  | true => simp
  | false =>
    cases settings.command with
    | nil => simp [eq_comm]
    | cons program leading => simp

/-! ## what is done at an obstacle -/

/-- Nothing happened but that files were read and paths were looked at. -/
def OnlyReads (w : World (StateM σ)) (s s' : σ) : Prop :=
  ∀ (γ : Type) (part : σ → γ), ReadingKeeps w part → part s' = part s

/-- Nothing happened but reading, and that errors were told: every part of the world is as it was
that neither of them touches. -/
def OnlyTells (w : World (StateM σ)) (s s' : σ) : Prop :=
  ∀ (γ : Type) (part : σ → γ), ReadingKeeps w part → (∀ text, Keeps part (w.tell text)) →
    part s' = part s

theorem onlyReads_fileSettings {answer : Except ProgramError Settings}
    (h : (fileSettings w r).run s = (answer, s₁)) : OnlyReads w s s₁ := fun γ part hreading => by
  have hkeeps := hreading.fileSettings r s
  rwa [h] at hkeeps

theorem onlyReads_planFor {answer : Except ProgramError Plan}
    (h : (planFor w r settings).run s = (answer, s₁)) : OnlyReads w s s₁ :=
  fun γ part hreading => by
    have hkeeps := hreading.planFor r settings s
    rwa [h] at hkeeps

theorem OnlyReads.trans (h : OnlyReads w s s₁) (h' : OnlyReads w s₁ s₂) : OnlyReads w s s₂ :=
  fun γ part hreading => (h' γ part hreading).trans (h γ part hreading)

/-- A request that fails before its run tells why, and exits with the status of that. -/
theorem exists_run_of_carryOut (hparse : Request.parse args = .ok r)
    (hcarry : (carryOut w r).run s = (.error e, s₁)) (hreads : OnlyReads w s s₁) :
    ∃ s', (run w args).run s = (e.exitCode, s') ∧ OnlyTells w s s' := by
  obtain ⟨s', htell⟩ : ∃ s', (tellError w "" e).run s₁ = ((), s') := ⟨_, rfl⟩
  refine ⟨s', ?_, fun γ part hreading htelling => ?_⟩
  · rw [run_of_parse hparse, Oracle.run_bind_of_run hcarry]
    exact Oracle.run_bind_of_run htell
  · have htold : part ((tellError w "" e).run s₁).2 = part s₁ := htelling _ s₁
    rw [htell] at htold
    exact htold.trans (hreads γ part hreading)

/-- **Obstacles**: a command line that is kept from its run exits with the status of what keeps it
from that, and nothing happens but that an error is told. -/
theorem run_of_blocked {o : Obstacle} (h : Blocked w args s o) :
    ∃ s', (run w args).run s = (o.exitCode, s') ∧ OnlyTells w s s' := by
  cases h with
  | @commandLine refusal hparse =>
    let a : Answer := .refused refusal
    obtain ⟨s', htell⟩ : ∃ s', (w.tell (a.printed w.engine ++ "\n")).run s = ((), s') := ⟨_, rfl⟩
    refine ⟨s', ?_, fun γ part _ htelling => ?_⟩
    · rw [run, hparse]
      exact Oracle.run_bind_of_run htell
    · have htold := htelling (a.printed w.engine ++ "\n") s
      rwa [htell] at htold
  | @settings r e s₁ hparse hfile =>
    have hcarry : (carryOut w r).run s = (.error e, s₁) := by
      rw [carryOut, Oracle.run_bind_of_run hfile]
      rfl
    have hrun := exists_run_of_carryOut hparse hcarry (onlyReads_fileSettings hfile)
    rwa [exitCode_of_fileSettings hfile] at hrun
  | @checks r file e s₁ s₂ hparse hfile hplan =>
    have hcarry : (carryOut w r).run s = (.error e, s₂) := by
      rw [carryOut, Oracle.run_bind_of_run hfile]
      exact Oracle.run_bind_of_run hplan
    have hreads := (onlyReads_fileSettings hfile).trans (onlyReads_planFor hplan)
    have hrun := exists_run_of_carryOut hparse hcarry hreads
    rwa [exitCode_of_planFor hplan] at hrun
  | @engine r file plan s₁ s₂ hparse hfile hplan hprint hdry hcommand =>
    have hengine : engineFor w r (override w r file) = .error (.of .noEngine) :=
      engineFor_eq_error_iff.mpr ⟨hdry, hcommand, rfl⟩
    have hcarry : (carryOut w r).run s = (.error (.of .noEngine), s₂) := by
      rw [run_carryOut_of_planned hfile hplan, carryOutPlan, hprint, if_neg Bool.false_ne_true,
        hengine]
      rfl
    have hreads := (onlyReads_fileSettings hfile).trans (onlyReads_planFor hplan)
    exact exists_run_of_carryOut hparse hcarry hreads

/-! ## command lines that come to a run -/

/-- A command line came to its run, and there a call failed or the report could not be written. -/
inductive FailsInRun (w : World (StateM σ)) (args : List String) (s : σ) : Prop where
  | intro {r : Request} {settings : Settings} {plan : Plan}
      {fix : Call → StateM σ (Except EngineError Unit)} {course : Course} {outcome : Outcome}
      {written : Except ProgramError Unit} {s₀ s₁ s₂ : σ}
      (hreaches : Reaches w args s r settings plan fix s₀)
      (hcarries : CarriesOut ⟨fix, cleanFile w.disk.toAccess, w.now⟩ (runSettingsFor r settings)
        plan s₀ course outcome s₁)
      (hwrite : (writeReport w r outcome.report).run s₁ = (written, s₂))
      (hfails : written ≠ .ok () ∨ ∃ answered ∈ answers course.events, answered.2.isOk = false) :
      FailsInRun w args s

/-- A command line that comes to its run gives the status 0, or else 1, and then a call failed or the
report could not be written. -/
theorem status_of_reaches {fix : Call → StateM σ (Except EngineError Unit)}
    (h : Reaches w args s r settings plan fix s₀) :
    ((run w args).run s).1 = 0 ∨ ((run w args).run s).1 = 1 ∧ FailsInRun w args s := by
  let agents : Agents (StateM σ) := ⟨fix, cleanFile w.disk.toAccess, w.now⟩
  obtain ⟨outcome, s₁, houtcome⟩ : ∃ outcome s₁,
      (runPlan agents (runSettingsFor r settings) plan).run s₀ = (outcome, s₁) := ⟨_, _, rfl⟩
  obtain ⟨written, s₂, hwrite⟩ : ∃ written s₂,
      (writeReport w r outcome.report).run s₁ = (written, s₂) := ⟨_, _, rfl⟩
  obtain ⟨s₃, hwith, -, -⟩ := exists_run_runWith houtcome hwrite
  obtain ⟨status, s', hconclude⟩ : ∃ status s',
      (conclude w (verdict outcome written)).run s₃ = (status, s') := ⟨_, _, rfl⟩
  have hrun : (run w args).run s = (status, s') := by
    rw [run_of_reaches h, Oracle.run_bind_of_run hwith, hconclude]
  obtain ⟨hzero, hone⟩ := status_of_run_conclude hwrite hconclude
  obtain ⟨course, hcarries⟩ := exists_carriesOut agents (runSettingsFor r settings) plan s₀
  rw [houtcome] at hcarries
  rw [hrun]
  by_cases hstatus : status = 0
  · exact .inl hstatus
  · refine .inr ⟨hone hstatus, .intro h hcarries hwrite ?_⟩
    by_cases hwritten : written = .ok ()
    · refine .inr (hcarries.exists_failed fun hsucceeds => hstatus (hzero.mpr ?_))
      exact (verdict_eq_ok_iff _ _).mpr ⟨hsucceeds.1, hwritten, hsucceeds.2⟩
    · exact .inl hwritten

/-- **Cases**: a command line is kept from its run, comes to it, or gives the status 0 without it. -/
theorem blocked_or_reaches (w : World (StateM σ)) (args : List String) (s : σ) :
    (∃ o, Blocked w args s o) ∨ ((run w args).run s).1 = 0 ∨
      ∃ r settings plan fix s₀, Reaches w args s r settings plan fix s₀ := by
  cases hparse : Request.parse args with
  | error a =>
    cases a with
    | refused refusal => exact .inl ⟨_, .commandLine hparse⟩
    | help | version =>
      refine .inr (.inl ?_)
      rw [run, hparse]
      rfl
  | ok r =>
    obtain ⟨file?, s₁, hfile⟩ : ∃ file? s₁, (fileSettings w r).run s = (file?, s₁) := ⟨_, _, rfl⟩
    cases file? with
    | error e => exact .inl ⟨_, .settings hparse hfile⟩
    | ok file =>
      obtain ⟨plan?, s₂, hplan⟩ : ∃ plan? s₂,
          (planFor w r (override w r file)).run s₁ = (plan?, s₂) := ⟨_, _, rfl⟩
      cases plan? with
      | error e => exact .inl ⟨_, .checks hparse hfile hplan⟩
      | ok plan =>
        cases hprint : r.printPlan with
        | true =>
          have hcarry : (carryOut w r).run s =
              (.ok (), ((w.print (plan.toJson.pretty ++ "\n")).run s₂).2) := by
            rw [run_carryOut_of_planned hfile hplan, carryOutPlan, hprint, if_pos rfl]
            rfl
          refine .inr (.inl ?_)
          rw [run_of_parse hparse, Oracle.run_bind_of_run hcarry]
          rfl
        | false =>
          cases hengine : engineFor w r (override w r file) with
          | error e =>
            obtain ⟨hdry, hcommand, -⟩ := engineFor_eq_error_iff.mp hengine
            exact .inl ⟨_, .engine hparse hfile hplan hprint hdry hcommand⟩
          | ok fix =>
            exact .inr (.inr ⟨r, _, plan, fix, s₂, hparse, ⟨file, s₁, hfile, rfl, hplan⟩, hprint,
              hengine⟩)

/-! ## the statuses 1 and 2 -/

/-- **Before the run**: a command line that is kept from its run exits with 1 if its settings cannot
be read or are not understood, and with 2 if anything else keeps it from that; either way nothing
happens but that an error is told.  No other command line exits with 2, and one that exits with 1
has settings of that kind, or came to a run in which a call failed or whose report could not be
written. -/
theorem run_blocked (w : World (StateM σ)) (args : List String) (s : σ) :
    (∀ o, Blocked w args s o →
      ∃ s', (run w args).run s = (o.exitCode, s') ∧ OnlyTells w s s') ∧
    (((run w args).run s).1 = 2 ↔ ∃ o, o ≠ .settings ∧ Blocked w args s o) ∧
    (((run w args).run s).1 = 1 → Blocked w args s .settings ∨ FailsInRun w args s) := by
  have hstatus {o : Obstacle} (h : Blocked w args s o) :
      ((run w args).run s).1 = o.exitCode := by
    obtain ⟨s', hrun, -⟩ := run_of_blocked h
    rw [hrun]
  refine ⟨fun o => run_of_blocked, ?_, fun hone => ?_⟩
  · constructor
    · intro htwo
      rcases blocked_or_reaches w args s with ⟨o, ho⟩ | hzero | ⟨r, settings, plan, fix, s₀, h⟩
      · refine ⟨o, ?_, ho⟩
        rintro rfl
        cases (hstatus ho).symm.trans htwo
      · cases hzero.symm.trans htwo
      · rcases status_of_reaches h with hzero | ⟨hone, -⟩
        · cases hzero.symm.trans htwo
        · cases hone.symm.trans htwo
    · rintro ⟨o, hne, ho⟩
      rw [hstatus ho]
      cases o with
      | settings => exact absurd rfl hne
      | commandLine | checks | engine => rfl
  · rcases blocked_or_reaches w args s with ⟨o, ho⟩ | hzero | ⟨r, settings, plan, fix, s₀, h⟩
    · cases o with
      | settings => exact .inl ho
      | commandLine | checks | engine => cases (hstatus ho).symm.trans hone
    · cases hzero.symm.trans hone
    · rcases status_of_reaches h with hzero | ⟨-, hfails⟩
      · cases hzero.symm.trans hone
      · exact .inr hfails

/-! ## watched scenes -/

namespace Watched

variable {programs : Programs} {clock : Watched → Timestamp} {engine : Option String}
  {s : Watched}

/-- A request with a plan is kept from its run if it is not dry and has no engine. -/
theorem Validates.blocked (h : Validates (world programs clock engine) s r settings plan)
    (hparse : Request.parse args = .ok r) (hprint : r.printPlan = false) (hdry : r.dryRun = false)
    (hcommand : settings.command = []) : Blocked (world programs clock engine) args s .engine := by
  obtain ⟨file, s₁, hfile, rfl, hplan⟩ := h.planned
  exact .engine hparse hfile hplan hprint hdry hcommand

/-- A path alone. -/
theorem parse_directory :
    Request.parse ["lib"] = .ok ⟨none, none, none, false, false, false, none, ["lib"]⟩ := by
  have hitems : items programFlags ["lib"] = [.plain "lib"] := by
    rw [items_plain programFlags "lib" _ (by decide) rfl, items_nil]
  rw [Request.parse, givenFlags, plainTokens, hitems]
  rfl

/-- The only directory there is, and no engine for it: the status is 2, and all is as it was but
that an error was told. -/
theorem run_blocked_directory :
    let s : Watched := ⟨.ofTree ⟨[(["lib"], .directory)], []⟩, []⟩
    let programs : Programs := fun _ _ scene => (.ok ⟨.exited 0, "", ""⟩, scene)
    let w := world programs (fun _ => .ofUnix 0 0) none
    Blocked w ["lib"] s .engine ∧ ∃ s', (Program.run w ["lib"]).run s = (2, s') ∧
      s'.started = [] ∧ s'.scene.tree = s.scene.tree ∧ s'.scene.out = s.scene.out := by
  intro s programs w
  obtain ⟨hfile, hlib⟩ := standing_oneDirectory
  have hvalid := @validates_directory programs (fun _ => .ofUnix 0 0) none s
    ⟨none, none, none, false, false, false, none, ["lib"]⟩ "lib" rfl rfl rfl (by decide) hfile
    (congrArg Standing.kind hlib)
  have hblocked : Blocked w ["lib"] s .engine := hvalid.blocked parse_directory rfl rfl rfl
  obtain ⟨s', hrun, htells⟩ := (run_blocked w ["lib"] s).1 .engine hblocked
  have hkept := htells _ (fun s => (s.started, s.scene.tree, s.scene.out))
    ⟨fun _ _ => rfl, fun _ _ => rfl⟩ fun _ _ => rfl
  refine ⟨hblocked, s', hrun, congrArg Prod.fst hkept, ?_⟩
  exact ⟨congrArg (·.2.1) hkept, congrArg (·.2.2) hkept⟩

/-- A settings file that is not there gives the status 1, although nothing was run. -/
theorem run_missing_settings :
    let s : Watched := ⟨.ofTree ⟨[(["lib"], .directory)], []⟩, []⟩
    let programs : Programs := fun _ _ scene => (.ok ⟨.exited 0, "", ""⟩, scene)
    let w := world programs (fun _ => .ofUnix 0 0) (some "fixer")
    ∃ s', (Program.run w ["--config", "missing.toml", "lib"]).run s = (1, s') ∧
      s'.started = [] := by
  intro s programs w
  have hparse : Request.parse ["--config", "missing.toml", "lib"] =
      .ok ⟨some ⟨"missing.toml"⟩, none, none, false, false, false, none, ["lib"]⟩ := by
    have hconfig : called? programFlags "--config" = some (Meaning.flag .config, none) := rfl
    have hitems : items programFlags ["--config", "missing.toml", "lib"] =
        [.flag ⟨Meaning.flag .config, "--config", none, some "missing.toml"⟩, .plain "lib"] := by
      rw [items_cons_of_called (by decide) hconfig rfl,
        items_plain programFlags "lib" _ (by decide) rfl, items_nil]
    rw [Request.parse, givenFlags, plainTokens, hitems]
    rfl
  have hfind : s.scene.tree.find ⟨"missing.toml"⟩ true = .ok ⟨["missing.toml"], none, false⟩ :=
    Files.Tree.find_absent (by decide) (by decide) (by decide) (by decide) (by decide) rfl
  have hread : (w.disk.toAccess.read ⟨"missing.toml"⟩).run s =
      (.error ⟨.opening, ⟨"missing.toml"⟩, .notFound⟩, s) := by
    have hrun : (w.disk.toAccess.read ⟨"missing.toml"⟩).run s =
        (s.scene.tree.read ⟨"missing.toml"⟩, s) := rfl
    rw [hrun, Files.Tree.read, hfind]
  have hload : (Settings.load w.disk.toAccess ⟨"missing.toml"⟩).run s =
      (.error (.unreadable ⟨"missing.toml"⟩ ⟨.opening, ⟨"missing.toml"⟩, .notFound⟩), s) := by
    rw [Settings.load, Files.Access.readText, bind_assoc, Oracle.run_bind_of_run hread]
    rfl
  have hblocked : Blocked w ["--config", "missing.toml", "lib"] s .settings :=
    .settings hparse (Oracle.run_bind_of_run hload)
  obtain ⟨s', hrun, htells⟩ := run_of_blocked hblocked
  exact ⟨s', hrun, htells _ Watched.started ⟨fun _ _ => rfl, fun _ _ => rfl⟩ fun _ _ => rfl⟩

end Watched

end FixBatch.Program
