import FixBatch.Run

/-!
# FixBatch.Proofs.Run.Report

What a list of events comes to in a report.  Three views pick the events that count: the answers of
the engine, its failures, and the failures of the cleanup.

* `foldl_add` — the report of a list of events, field by field through these views.
-/

namespace FixBatch

namespace Event

/-- The call and its answer, where the engine was called. -/
def answered? : Event → Option (Call × Except EngineError Unit)
  | fixed call answer => some (call, answer)
  | cleaned .. => none

/-- The call and the error, where the engine failed. -/
def failed? : Event → Option (Call × EngineError)
  | fixed call (.error e) => some (call, e)
  | fixed _ (.ok ()) | cleaned .. => none

/-- The path and the error, where the cleanup failed. -/
def cleanupFailed? : Event → Option (Path × CleanupError)
  | cleaned path (.error e) => some (path, e)
  | cleaned _ (.ok _) | fixed .. => none

end Event

/-! ## views -/

/-- The answers of the engine, each with its call. -/
def answers (events : List Event) : List (Call × Except EngineError Unit) :=
  events.filterMap Event.answered?

/-- The calls that the engine received. -/
def received (events : List Event) : List Call := (answers events).map Prod.fst

/-- The calls on which the engine failed, each with its error. -/
def failed (events : List Event) : List (Call × EngineError) := events.filterMap Event.failed?

/-- The paths on which the cleanup failed, each with its error. -/
def cleanupFailed (events : List Event) : List (Path × CleanupError) :=
  events.filterMap Event.cleanupFailed?

@[simp] theorem answers_append (events events' : List Event) :
    answers (events ++ events') = answers events ++ answers events' := List.filterMap_append

@[simp] theorem received_append (events events' : List Event) :
    received (events ++ events') = received events ++ received events' := by simp [received]

@[simp] theorem failed_append (events events' : List Event) :
    failed (events ++ events') = failed events ++ failed events' := List.filterMap_append

@[simp] theorem cleanupFailed_append (events events' : List Event) :
    cleanupFailed (events ++ events') = cleanupFailed events ++ cleanupFailed events' :=
  List.filterMap_append

theorem length_received (events : List Event) :
    (received events).length = (answers events).length :=
  List.length_map _

/-- Every failure is an answer that is no success. -/
theorem length_failed (events : List Event) :
    (failed events).length = (answers events).countP (!·.2.isOk) := by
  induction events with
  | nil => rfl
  | cons event events ih =>
    rw [← List.singleton_append, failed_append, answers_append, List.length_append,
      List.countP_append, ih]
    rcases event with ⟨call, e | ⟨⟩⟩ | ⟨path, answer⟩ <;> rfl

/-- Every answer is a success or a failure. -/
theorem length_answers (events : List Event) :
    (answers events).length = (answers events).countP (·.2.isOk) + (failed events).length := by
  rw [length_failed, List.length_eq_countP_add_countP (fun a => a.2.isOk)]
  congr 2
  funext a
  cases a.2.isOk <;> rfl

/-! ## the fields of a report -/

/-- The entry of a report for a call that failed. -/
def Failure.ofCall (failed : Call × EngineError) : Failure :=
  ⟨failed.1.path, failed.1.scope, failed.2.message⟩

/-- The entry of a report for a cleanup that failed. -/
def Failure.ofCleanup (failed : Path × CleanupError) : Failure :=
  ⟨failed.1, .path, failed.2.message⟩

/-- What one event adds to a report, field by field. -/
theorem add_eq (report : Report) (event : Event) :
    report.add event =
      { report with
        attempted := report.attempted + (answers [event]).length
        succeeded := report.succeeded + (answers [event]).countP (·.2.isOk)
        failed := report.failed + (failed [event]).length
        failures := report.failures ++ (failed [event]).map Failure.ofCall
        cleanupFailures := report.cleanupFailures ++
          (cleanupFailed [event]).map Failure.ofCleanup } := by
  cases report
  rcases event with ⟨call, e | ⟨⟩⟩ | ⟨path, e | changed⟩ <;>
    simp [Report.add, Report.addFailure, Report.addSuccess, Report.addCleanupFailure, answers,
      failed, cleanupFailed, Event.answered?, Event.failed?, Event.cleanupFailed?, Failure.ofCall,
      Failure.ofCleanup, Except.isOk, Except.toBool]

/-- **Reports**: what a list of events adds to a report, field by field. -/
theorem foldl_add (events : List Event) (report : Report) :
    events.foldl Report.add report =
      { report with
        attempted := report.attempted + (answers events).length
        succeeded := report.succeeded + (answers events).countP (·.2.isOk)
        failed := report.failed + (failed events).length
        failures := report.failures ++ (failed events).map Failure.ofCall
        cleanupFailures := report.cleanupFailures ++
          (cleanupFailed events).map Failure.ofCleanup } := by
  induction events generalizing report with
  | nil => simp [answers, failed, cleanupFailed]
  | cons event events ih =>
    have hcons : event :: events = [event] ++ events := rfl
    rw [List.foldl_cons, ih, add_eq, hcons]
    simp only [answers_append, failed_append, cleanupFailed_append, List.length_append,
      List.countP_append, List.map_append, List.append_assoc, Nat.add_assoc]

/-- The report of a course, field by field. -/
theorem report_outcome (course : Course) (mode : Mode) (policy : Policy)
    (started ended : Timestamp) :
    (course.outcome mode policy started ended).report =
      { schema := Report.schemaName
        mode := mode
        started := some started
        ended := some ended
        attempted := (answers course.events).length
        succeeded := (answers course.events).countP (·.2.isOk)
        failed := (failed course.events).length
        aborted := course.abort.isSome
        failures := (failed course.events).map Failure.ofCall
        cleanupFailures := (cleanupFailed course.events).map Failure.ofCleanup } := by
  simp [Course.outcome, foldl_add, Report.empty]

end FixBatch
