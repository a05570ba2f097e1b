import FixBatch.Proofs.Run.Oracle
import FixBatch.Proofs.Run.Report
import Mathlib.Data.List.Forall2

/-!
# FixBatch.Proofs.Run.Policy

The two policies.  A run that goes on makes every call of its plan, whatever the engine answers; a
run that stops does the same up to the first failure and nothing after it:

* `runPlan_proceed` — the calls and the report of a run that goes on;
* `runPlan_stop` — a run that stops beside the run that goes on from the same events.
-/

namespace FixBatch

namespace Oracle

variable (oracle : Oracle) (cleanup : Bool) (past : List Event) (call : Call)

/-! ## rounds -/

/-- A cleanup is no call of the engine. -/
theorem answers_cleaned : answers (oracle.cleaned cleanup past call) = [] := by
  cases call with
  | file | directory => rfl
  | whole path => cases cleanup <;> rfl

theorem failed_cleaned : failed (oracle.cleaned cleanup past call) = [] := by
  cases call with
  | file | directory => rfl
  | whole path => cases cleanup <;> rfl

/-- A round holds one call of the engine. -/
theorem answers_round :
    answers (oracle.round cleanup past call) = [(call, oracle.fix past call)] := by
  rw [round, ← List.singleton_append, answers_append, answers_cleaned]
  rfl

theorem failed_round_of_ok (h : oracle.fix past call = .ok ()) :
    failed (oracle.round cleanup past call) = [] := by
  rw [round, ← List.singleton_append, failed_append, failed_cleaned, h]
  rfl

/-! ## going on -/

variable (calls : List Call)

/-- A run that goes on does so after any answer. -/
theorem course_proceed_cons :
    oracle.course ⟨.proceed, cleanup⟩ past (call :: calls) =
      let rest := oracle.course ⟨.proceed, cleanup⟩ (past ++ oracle.round cleanup past call) calls
      ⟨oracle.round cleanup past call ++ rest.events, rest.abort⟩ :=
  course_cons_of_not_stops calls (by simp [Stops])

/-- A run that goes on makes all its calls, in order. -/
theorem course_proceed :
    (oracle.course ⟨.proceed, cleanup⟩ past calls).abort = none ∧
      received (oracle.course ⟨.proceed, cleanup⟩ past calls).events = calls := by
  induction calls generalizing past with
  | nil => exact ⟨rfl, rfl⟩
  | cons call calls ih =>
    rw [course_proceed_cons]
    obtain ⟨habort, hreceived⟩ := ih (past ++ oracle.round cleanup past call)
    refine ⟨habort, ?_⟩
    rw [received_append, hreceived, received, answers_round]
    rfl

/-! ## stopping -/

/-- A run that stops goes on after a success. -/
theorem course_stop_cons_of_ok (h : oracle.fix past call = .ok ()) :
    oracle.course ⟨.stop, cleanup⟩ past (call :: calls) =
      let rest := oracle.course ⟨.stop, cleanup⟩ (past ++ oracle.round cleanup past call) calls
      ⟨oracle.round cleanup past call ++ rest.events, rest.abort⟩ :=
  course_cons_of_not_stops calls (by simp [Stops, h])

/-- **Stopping**: a run that stops takes the course of the run that goes on, up to the first failure
of the engine. -/
theorem course_stop :
    (failed (oracle.course ⟨.proceed, cleanup⟩ past calls).events = [] ∧
      oracle.course ⟨.stop, cleanup⟩ past calls = oracle.course ⟨.proceed, cleanup⟩ past calls) ∨
    ∃ before call e after, failed before = [] ∧
      (oracle.course ⟨.proceed, cleanup⟩ past calls).events =
        before ++ .fixed call (.error e) :: after ∧
      oracle.course ⟨.stop, cleanup⟩ past calls =
        ⟨before ++ [.fixed call (.error e)], some ⟨call.path, call.scope, e⟩⟩ := by
  induction calls generalizing past with
  | nil => exact .inl ⟨rfl, rfl⟩
  | cons call calls ih =>
    rw [course_proceed_cons]
    cases hfix : oracle.fix past call with
    | error e =>
      rw [course_cons_of_stops calls rfl hfix, round, hfix]
      exact .inr ⟨[], call, e, _, rfl, rfl, rfl⟩
    | ok answer =>
      have hround := failed_round_of_ok oracle cleanup past call hfix
      rw [course_stop_cons_of_ok oracle cleanup past call calls hfix]
      rcases ih (past ++ oracle.round cleanup past call) with
        ⟨hfree, hsame⟩ | ⟨before, bad, e, after, hbefore, hevents, hstop⟩
      · refine .inl ⟨?_, by rw [hsame]⟩
        rw [failed_append, hround, hfree, List.nil_append]
      · -- the round of a success goes before the part without failures
        refine .inr ⟨oracle.round cleanup past call ++ before, bad, e, after, ?_, ?_, ?_⟩
        · rw [failed_append, hround, hbefore, List.nil_append]
        · simp only [hevents, List.append_assoc]
        · simp only [hstop, List.append_assoc]

/-- Whatever the policy, a run makes its calls in order, from the first one on. -/
theorem received_course_prefix (settings : RunSettings) :
    received (oracle.course settings past calls).events <+: calls := by
  obtain ⟨policy, cleanup⟩ := settings
  obtain ⟨-, hreceived⟩ := oracle.course_proceed cleanup past calls
  cases policy with
  | proceed => exact ⟨[], by rw [hreceived, List.append_nil]⟩
  | stop =>
    rcases oracle.course_stop cleanup past calls with
      ⟨-, hsame⟩ | ⟨before, call, e, after, -, hevents, hstop⟩
    · exact ⟨[], by rw [hsame, hreceived, List.append_nil]⟩
    · have hcalls : received (before ++ [.fixed call (.error e)]) ++ received after = calls := by
        rw [← hreceived, hevents, ← received_append, List.append_assoc, List.singleton_append]
      rw [hstop]
      exact ⟨received after, hcalls⟩

end Oracle

/-! ## plans -/

/-- A plan with a selection treats its directories, then its files. -/
theorem calls_of_some {plan : Plan} {selection : Selection} (h : plan.selection = some selection) :
    plan.calls =
      (plan.targets.filter (·.kind = .directory)).map
          (fun t => .directory t.path selection plan.ignoreTestFiles) ++
        (plan.targets.filter (·.kind = .file)).map (fun t => .file t.path selection) := by
  simp only [Plan.calls, h, Plan.directories, Plan.files, Plan.pathsOf, List.map_map]
  rfl

theorem calls_of_none {plan : Plan} (h : plan.selection = none) :
    plan.calls = plan.targets.map fun t => .whole t.path := by
  simp only [Plan.calls, h]

/-- A plan calls once for every target. -/
theorem path_calls_perm (plan : Plan) :
    (plan.calls.map Call.path).Perm (plan.targets.map Target.path) := by
  cases h : plan.selection with
  | none => rw [calls_of_none h, List.map_map]; exact .refl _
  | some selection =>
    have hsplit := List.filter_append_perm (fun t : Target => t.kind = .directory) plan.targets
    have hfiles : plan.targets.filter (fun t => !decide (t.kind = .directory)) =
        plan.targets.filter (·.kind = .file) :=
      List.filter_congr fun t _ => by cases t.kind <;> rfl
    rw [hfiles] at hsplit
    rw [calls_of_some h, List.map_append, List.map_map, List.map_map]
    have hpaths := hsplit.map Target.path
    rw [List.map_append] at hpaths
    exact hpaths

/-- A plan has as many calls as targets. -/
theorem length_calls (plan : Plan) : plan.calls.length = plan.targets.length := by
  rw [← List.length_map Call.path, (path_calls_perm plan).length_eq, List.length_map]

/-- Every call of a plan is of the plan's mode. -/
theorem mode_of_mem_calls {plan : Plan} {call : Call} (hmem : call ∈ plan.calls) :
    call.mode = plan.mode := by
  cases h : plan.selection with
  | none =>
    rw [calls_of_none h] at hmem
    obtain ⟨target, -, rfl⟩ := List.mem_map.mp hmem
    simp only [Call.mode, Plan.mode, h]
    rfl
  | some selection =>
    rw [calls_of_some h, List.mem_append] at hmem
    rcases hmem with hmem | hmem <;>
    · obtain ⟨target, -, rfl⟩ := List.mem_map.mp hmem
      simp only [Call.mode, Plan.mode, h]
      rfl

/-! ## reports of plans -/

/-- The report of a run that makes all calls of its plan: everything it counts and lists is what
its events tell, and it lists each failure with the path, the scope and the error of its call. -/
structure ReportsAll (report : Report) (plan : Plan) (events : List Event) : Prop where
  mode_eq : report.mode = plan.mode
  attempted_eq : report.attempted = plan.targets.length
  succeeded_eq : report.succeeded = (answers events).countP (·.2.isOk)
  failed_eq : report.failed = (answers events).countP (!·.2.isOk)
  balanced : report.attempted = report.succeeded + report.failed
  failures_match : List.Forall₂
    (fun (failure : Failure) (bad : Call × EngineError) =>
      failure.path = bad.1.path ∧ bad.1.arguments.head? = some failure.scope.word ∧
        failure.message = bad.2.message)
    report.failures (failed events)
  cleanupFailures_eq : report.cleanupFailures = (cleanupFailed events).map Failure.ofCleanup
  not_aborted : report.aborted = false

/-- A run that made the calls of its plan and was not stopped reports all of them. -/
theorem reportsAll_outcome {course : Course} {plan : Plan} (habort : course.abort = none)
    (hreceived : received course.events = plan.calls) (policy : Policy)
    (started ended : Timestamp) :
    ReportsAll (course.outcome plan.mode policy started ended).report plan course.events := by
  have hlength : (answers course.events).length = plan.targets.length := by
    rw [← length_received, hreceived, length_calls]
  rw [report_outcome]
  exact {
    mode_eq := rfl
    attempted_eq := hlength
    succeeded_eq := rfl
    failed_eq := length_failed course.events
    balanced := length_answers course.events
    failures_match := by
      rw [List.forall₂_map_left_iff, List.forall₂_same]
      exact fun bad _ => ⟨rfl, bad.1.head?_arguments, rfl⟩
    cleanupFailures_eq := rfl
    not_aborted := by rw [habort]; rfl }

/-! ## the two policies -/

/-- **Going on**: a run that goes on is not stopped whatever the engine answers; it makes one call
for every target, with a selection the directories before the files, and reports all of them. -/
theorem runPlan_proceed (oracle : Oracle) (cleanup : Bool) (plan : Plan) (past : List Event) :
    ∃ outcome events,
      (runPlan oracle.agents ⟨.proceed, cleanup⟩ plan).run past = (outcome, past ++ events) ∧
      outcome.abort = none ∧
      received events = (match plan.selection with
        | none => plan.targets.map fun t => .whole t.path
        | some selection =>
          (plan.targets.filter (·.kind = .directory)).map
              (fun t => .directory t.path selection plan.ignoreTestFiles) ++
            (plan.targets.filter (·.kind = .file)).map (fun t => .file t.path selection)) ∧
      ((received events).map Call.path).Perm (plan.targets.map Target.path) ∧
      (∀ call ∈ received events, call.mode = plan.mode) ∧
      ReportsAll outcome.report plan events := by
  obtain ⟨habort, hreceived⟩ := oracle.course_proceed cleanup past plan.calls
  refine ⟨_, _, oracle.run_runPlan _ plan past, habort, ?_, ?_, ?_, ?_⟩
  · rw [hreceived]
    cases h : plan.selection with
    | none => exact calls_of_none h
    | some selection => exact calls_of_some h
  · rw [hreceived]
    exact path_calls_perm plan
  · rw [hreceived]
    exact fun call => mode_of_mem_calls
  · exact reportsAll_outcome habort hreceived _ _ _

/-- **Stopping**: beside a run that goes on from the same events, a run that stops does and reports
the same if no call fails.  Otherwise it breaks off right after the first failure, which is the one
failure that its report counts. -/
theorem runPlan_stop (oracle : Oracle) (cleanup : Bool) (plan : Plan) (past : List Event) :
    ∃ proceeding stopping events taken,
      (runPlan oracle.agents ⟨.proceed, cleanup⟩ plan).run past = (proceeding, past ++ events) ∧
      (runPlan oracle.agents ⟨.stop, cleanup⟩ plan).run past = (stopping, past ++ taken) ∧
      ((failed events = [] ∧ taken = events ∧ proceeding.abort = none ∧ stopping.abort = none ∧
          stopping.report = proceeding.report) ∨
        ∃ before call e after,
          failed before = [] ∧
          events = before ++ .fixed call (.error e) :: after ∧
          taken = before ++ [.fixed call (.error e)] ∧
          stopping.abort = some ⟨call.path, call.scope, e⟩ ∧
          stopping.report.attempted = (received taken).length ∧
          stopping.report.succeeded + 1 = (received taken).length ∧
          stopping.report.failed = 1 ∧
          stopping.report.failures = [⟨call.path, call.scope, e.message⟩] ∧
          stopping.report.aborted = true ∧
          stopping.report.cleanupFailures = (cleanupFailed taken).map Failure.ofCleanup) := by
  refine ⟨_, _, _, _, oracle.run_runPlan _ plan past, oracle.run_runPlan _ plan past, ?_⟩
  obtain ⟨habort, -⟩ := oracle.course_proceed cleanup past plan.calls
  rcases oracle.course_stop cleanup past plan.calls with
    ⟨hfree, hsame⟩ | ⟨before, call, e, after, hbefore, hevents, hstop⟩
  · refine .inl ⟨hfree, by rw [hsame], habort, by rw [hsame]; exact habort, ?_⟩
    rw [hsame, report_outcome, report_outcome]
  · have hfailed : failed (before ++ [.fixed call (.error e)]) = [(call, e)] := by
      rw [failed_append, hbefore]
      rfl
    have hlength := length_answers (before ++ [.fixed call (.error e)])
    rw [hfailed] at hlength
    refine .inr ⟨before, call, e, after, hbefore, hevents, by rw [hstop], ?_⟩
    rw [hstop, report_outcome, length_received]
    exact ⟨rfl, rfl, hlength.symm, by rw [hfailed]; rfl, by rw [hfailed]; rfl, rfl, rfl⟩

end FixBatch
