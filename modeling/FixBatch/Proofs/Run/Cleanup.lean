import FixBatch.Proofs.Run.Policy

/-!
# FixBatch.Proofs.Run.Cleanup

The cleanup beside the engine.  A plan without a selection has each path treated and then cleaned,
any other run cleans nothing, and nothing that a cleanup does reaches the engine's side of a run:

* `cleansAfter_course` — the events of paths that are cleaned up after;
* `course_agree` — one engine beside two cleanups;
* `runPlan_cleanup` — the cleanups of a plan, and what does not depend on them.
-/

namespace FixBatch

/-! ## the paths that were cleaned -/

/-- The path, where the cleanup was called. -/
def Event.cleaned? : Event → Option Path
  | fixed .. => none
  | cleaned path _ => some path

/-- The paths for which the cleanup was called. -/
def cleanedPaths (events : List Event) : List Path := events.filterMap Event.cleaned?

@[simp] theorem cleanedPaths_append (events events' : List Event) :
    cleanedPaths (events ++ events') = cleanedPaths events ++ cleanedPaths events' :=
  List.filterMap_append

/-- Where nothing was cleaned, no cleanup failed. -/
theorem cleanupFailed_of_cleanedPaths_nil {events : List Event} (h : cleanedPaths events = []) :
    cleanupFailed events = [] := by
  rw [cleanedPaths, List.filterMap_eq_nil_iff] at h
  rw [cleanupFailed, List.filterMap_eq_nil_iff]
  intro event hmem
  cases event with
  | fixed call answer => rfl
  | cleaned path answer => exact absurd (h _ hmem) (Option.some_ne_none path)

/-- What failed is told by the answers. -/
theorem failed_eq_of_answers_eq {events events' : List Event}
    (h : answers events = answers events') : failed events = failed events' := by
  have hfailed (events : List Event) : failed events = (answers events).filterMap fun answered =>
      (Event.fixed answered.1 answered.2).failed? := by
    rw [failed, answers, List.filterMap_filterMap]
    refine List.filterMap_congr fun event _ => ?_
    cases event <;> rfl
  rw [hfailed, hfailed, h]

/-! ## cleaning after each path -/

/-- The events of some paths that are cleaned up after, and what stopped them: each path is treated
and then cleaned before the next is treated, unless its treatment stops the run. -/
inductive CleansAfter (policy : Policy) : List Path → List Event → Option Abort → Prop where
  | done : CleansAfter policy [] [] none
  | stopped {path : Path} {paths : List Path} {e : EngineError} (h : policy = .stop) :
      CleansAfter policy (path :: paths) [.fixed (.whole path) (.error e)] (some ⟨path, .path, e⟩)
  | round {path : Path} {paths : List Path} {answer : Except EngineError Unit}
      {cleaned : Except CleanupError Bool} {events : List Event} {abort : Option Abort}
      (hgoes : ¬Oracle.Stops policy answer) (hrest : CleansAfter policy paths events abort) :
      CleansAfter policy (path :: paths)
        (.fixed (.whole path) answer :: .cleaned path cleaned :: events) abort

/-- A run that is not stopped cleans every path. -/
theorem CleansAfter.cleanedPaths_eq {policy : Policy} {paths : List Path} {events : List Event}
    {abort : Option Abort} (h : CleansAfter policy paths events abort) (hgoes : abort = none) :
    cleanedPaths events = paths := by
  induction h with
  | done => rfl
  | stopped => cases hgoes
  | round _ _ ih => rw [← ih hgoes]; rfl

namespace Oracle

variable (oracle : Oracle) (past : List Event)

/-- Calls that know no rules are cleaned up after, one by one. -/
theorem cleansAfter_course (policy : Policy) (paths : List Path) :
    CleansAfter policy paths (oracle.course ⟨policy, true⟩ past (paths.map .whole)).events
      (oracle.course ⟨policy, true⟩ past (paths.map .whole)).abort := by
  induction paths generalizing past with
  | nil => exact .done
  | cons path paths ih =>
    rw [List.map_cons]
    by_cases h : Stops policy (oracle.fix past (.whole path))
    · obtain ⟨hpolicy, e, hfix⟩ := h
      rw [course_cons_of_stops _ hpolicy hfix]
      exact .stopped hpolicy
    · have hcourse : oracle.course ⟨policy, true⟩ past (.whole path :: paths.map .whole) = _ :=
        course_cons_of_not_stops _ h
      rw [hcourse]
      exact .round h (ih _)

/-- Where no call is cleaned up after, nothing is cleaned. -/
theorem cleanedPaths_course {settings : RunSettings} {calls : List Call}
    (h : ∀ call ∈ calls, ∀ past, oracle.cleaned settings.cleanup past call = []) :
    cleanedPaths (oracle.course settings past calls).events = [] := by
  induction calls generalizing past with
  | nil => rfl
  | cons call calls ih =>
    obtain ⟨hcall, hcalls⟩ := List.forall_mem_cons.mp h
    by_cases hstops : Stops settings.policy (oracle.fix past call)
    · obtain ⟨hpolicy, e, hfix⟩ := hstops
      rw [course_cons_of_stops _ hpolicy hfix]
      rfl
    · rw [course_cons_of_not_stops _ hstops]
      simp only [round, hcall, cleanedPaths_append, ih _ hcalls]
      rfl

/-- A plan with a selection, and a run without cleanup, clean up after no call. -/
theorem cleaned_of_mem_calls {plan : Plan} {cleanup : Bool}
    (h : ¬(plan.selection = none ∧ cleanup = true)) {call : Call} (hmem : call ∈ plan.calls)
    (past : List Event) : oracle.cleaned cleanup past call = [] := by
  cases call with
  | file | directory => rfl
  | whole path =>
    cases hcleanup : cleanup with
    | false => rfl
    | true =>
      -- only a plan without a selection has such a call
      have hmode := mode_of_mem_calls hmem
      cases hselection : plan.selection with
      | none => exact absurd ⟨hselection, hcleanup⟩ h
      | some selection =>
        rw [Call.mode, Plan.mode, hselection] at hmode
        cases selection <;> cases hmode

/-! ## one engine, two cleanups -/

/-- An engine that sees its own calls and answers only, beside any cleanup and any clock. -/
def ofEngine
    (engine : List (Call × Except EngineError Unit) → Call → Except EngineError Unit)
    (clean : List Event → Path → Except CleanupError Bool) (now : List Event → Timestamp) :
    Oracle where
  fix past := engine (answers past)
  clean := clean
  now := now

variable {engine : List (Call × Except EngineError Unit) → Call → Except EngineError Unit}
  {clean clean' : List Event → Path → Except CleanupError Bool}
  {now now' : List Event → Timestamp} {past : List Event}

/-- A round of one engine leaves behind the same answers, whatever the cleanup. -/
theorem answers_append_round_agree {past' : List Event} (h : answers past = answers past')
    (cleanup : Bool) (call : Call) :
    answers (past ++ (ofEngine engine clean now).round cleanup past call) =
      answers (past' ++ (ofEngine engine clean' now').round cleanup past' call) := by
  rw [answers_append, answers_append, answers_round, answers_round, h]
  simp only [ofEngine, h]

/-- **Agreement**: one engine gives the same answers beside two cleanups, and the same failure, if
any, stops the run. -/
theorem course_agree {past' : List Event} (h : answers past = answers past')
    (settings : RunSettings) (calls : List Call) :
    answers ((ofEngine engine clean now).course settings past calls).events =
        answers ((ofEngine engine clean' now').course settings past' calls).events ∧
      ((ofEngine engine clean now).course settings past calls).abort =
        ((ofEngine engine clean' now').course settings past' calls).abort := by
  induction calls generalizing past past' with
  | nil => exact ⟨rfl, rfl⟩
  | cons call calls ih =>
    have hfix : (ofEngine engine clean now).fix past call =
        (ofEngine engine clean' now').fix past' call := by simp only [ofEngine, h]
    by_cases hstops : Stops settings.policy ((ofEngine engine clean now).fix past call)
    · obtain ⟨hpolicy, e, he⟩ := hstops
      rw [course_cons_of_stops _ hpolicy he, course_cons_of_stops _ hpolicy (hfix.symm.trans he)]
      exact ⟨rfl, rfl⟩
    · rw [course_cons_of_not_stops _ hstops, course_cons_of_not_stops _ (hfix ▸ hstops)]
      obtain ⟨hanswers, habort⟩ := ih (answers_append_round_agree h settings.cleanup call)
      refine ⟨?_, habort⟩
      rw [answers_append, answers_append, answers_round, answers_round, hanswers, hfix]

end Oracle

/-! ## the cleanups of a plan -/

/-- A report without its times and its cleanup failures. -/
def Report.apartFromCleanup (report : Report) : Report :=
  { report with started := none, ended := none, cleanupFailures := [] }

/-- **Cleanup**: a plan without a selection has each path treated and then cleaned, as far as no
failure stops the run; otherwise, or when cleanup is off, nothing is cleaned.  The report lists the
cleanups that failed.  For an engine that does not see the cleanup, two cleanups make no difference
to its calls, to what stops the run, and to all the rest of the report. -/
theorem runPlan_cleanup (settings : RunSettings) (plan : Plan) (past : List Event) :
    (∀ oracle : Oracle, ∃ outcome events,
      (runPlan oracle.agents settings plan).run past = (outcome, past ++ events) ∧
      outcome.report.cleanupFailures = (cleanupFailed events).map Failure.ofCleanup ∧
      if plan.selection = none ∧ settings.cleanup = true then
        CleansAfter settings.policy (plan.targets.map Target.path) events outcome.abort ∧
          (settings.policy = .proceed → cleanedPaths events = plan.targets.map Target.path)
      else cleanedPaths events = [] ∧ outcome.report.cleanupFailures = []) ∧
    ∀ (engine : List (Call × Except EngineError Unit) → Call → Except EngineError Unit)
      (clean clean' : List Event → Path → Except CleanupError Bool)
      (now now' : List Event → Timestamp), ∃ outcome outcome' events events',
        (runPlan (Oracle.ofEngine engine clean now).agents settings plan).run past =
          (outcome, past ++ events) ∧
        (runPlan (Oracle.ofEngine engine clean' now').agents settings plan).run past =
          (outcome', past ++ events') ∧
        answers events = answers events' ∧
        outcome.abort = outcome'.abort ∧
        outcome.report.apartFromCleanup = outcome'.report.apartFromCleanup := by
  refine ⟨fun oracle => ?_, fun engine clean clean' now now' => ?_⟩
  · refine ⟨_, _, oracle.run_runPlan settings plan past, by rw [report_outcome], ?_⟩
    obtain ⟨policy, cleanup⟩ := settings
    split
    · next h =>
      obtain ⟨hselection, rfl⟩ := h
      have hcalls : plan.calls = (plan.targets.map Target.path).map .whole := by
        rw [calls_of_none hselection, List.map_map]
        rfl
      have hcleans := oracle.cleansAfter_course past policy (plan.targets.map Target.path)
      rw [← hcalls] at hcleans
      refine ⟨hcleans, ?_⟩
      rintro rfl
      exact hcleans.cleanedPaths_eq (oracle.course_proceed true past plan.calls).1
    · next h =>
      have hcleaned : cleanedPaths
          (oracle.course ⟨policy, cleanup⟩ past plan.calls).events = [] :=
        oracle.cleanedPaths_course past fun call hmem => oracle.cleaned_of_mem_calls h hmem
      refine ⟨hcleaned, ?_⟩
      rw [report_outcome, cleanupFailed_of_cleanedPaths_nil hcleaned]
      rfl
  · let oracle := Oracle.ofEngine engine clean now
    let oracle' := Oracle.ofEngine engine clean' now'
    obtain ⟨hanswers, habort⟩ :
        answers (oracle.course settings past plan.calls).events =
            answers (oracle'.course settings past plan.calls).events ∧
          (oracle.course settings past plan.calls).abort =
            (oracle'.course settings past plan.calls).abort :=
      Oracle.course_agree rfl settings plan.calls
    refine ⟨_, _, _, _, oracle.run_runPlan settings plan past,
      oracle'.run_runPlan settings plan past, hanswers, habort, ?_⟩
    rw [report_outcome, report_outcome, Report.apartFromCleanup, Report.apartFromCleanup]
    simp only [hanswers, habort, failed_eq_of_answers_eq hanswers]

end FixBatch
