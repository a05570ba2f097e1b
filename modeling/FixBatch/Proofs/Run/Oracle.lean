import FixBatch.Run

/-!
# FixBatch.Proofs.Run.Oracle

Runs in a world that remembers.  The state of the world is the list of all events so far, and an
`Oracle` answers every call, every cleanup and every question for the time as a function of it; so
answers may depend on everything that happened before, in this run and in the runs before it.  A
call and the cleanup after it make up a *round*:

* `course_cons_of_stops`, `course_cons_of_not_stops` — a call ends the run, or its round goes before
  the course of the calls that are left;
* `run_runCalls` — what a run adds to the events of the world is what its course tells.
-/

namespace FixBatch

/-- Answers to calls and cleanups, and the time, each as a function of the events so far. -/
structure Oracle where
  fix : List Event → Call → Except EngineError Unit
  clean : List Event → Path → Except CleanupError Bool
  now : List Event → Timestamp

namespace Oracle

/-- The engine, the cleanup and the clock of a world whose state is the list of its events. -/
def agents (oracle : Oracle) : Agents (StateM (List Event)) where
  fix call := fun past =>
    (oracle.fix past call, past ++ [.fixed call (oracle.fix past call)])
  clean path := fun past =>
    (oracle.clean past path, past ++ [.cleaned path (oracle.clean past path)])
  now := fun past => (oracle.now past, past)

/-- The course of some calls after some events. -/
def course (oracle : Oracle) (settings : RunSettings) (past : List Event) (calls : List Call) :
    Course :=
  ((runCalls oracle.agents settings calls).run past).1

/-- The cleanup after a call, if there is one. -/
def cleaned (oracle : Oracle) (cleanup : Bool) (past : List Event) : Call → List Event
  | .whole path => if cleanup then [.cleaned path (oracle.clean past path)] else []
  | .file .. | .directory .. => []

/-- A call and the cleanup after it. -/
def round (oracle : Oracle) (cleanup : Bool) (past : List Event) (call : Call) : List Event :=
  .fixed call (oracle.fix past call) ::
    oracle.cleaned cleanup (past ++ [.fixed call (oracle.fix past call)]) call

/-- Whether an answer of the engine stops the run. -/
def Stops (policy : Policy) (answer : Except EngineError Unit) : Prop :=
  policy = .stop ∧ ∃ e, answer = .error e

/-! ## one call after the other -/

/-- A computation goes on from what the one before it leaves. -/
theorem run_bind_of_run {σ α β : Type} {x : StateM σ α} {f : α → StateM σ β} {s s' : σ} {a : α}
    (h : x.run s = (a, s')) : (x >>= f).run s = (f a).run s' := by
  rw [StateT.run_bind, h]
  rfl

/-- What two computations come to together is what the second comes to after the first. -/
theorem exists_run_of_run_bind {σ α β : Type} {x : StateM σ α} {f : α → StateM σ β} {s s' : σ}
    {b : β} (h : (x >>= f).run s = (b, s')) :
    ∃ a s₁, x.run s = (a, s₁) ∧ (f a).run s₁ = (b, s') := by
  rw [StateT.run_bind] at h
  exact ⟨_, _, rfl, h⟩

variable {oracle : Oracle} {settings : RunSettings} {past : List Event} {call : Call}

theorem run_fix : (oracle.agents.fix call).run past =
    (oracle.fix past call, past ++ [.fixed call (oracle.fix past call)]) := rfl

theorem run_cleanAfter : (cleanAfter oracle.agents settings call).run past =
    (oracle.cleaned settings.cleanup past call,
      past ++ oracle.cleaned settings.cleanup past call) := by
  cases call with
  | file | directory =>
    simp only [cleanAfter, cleaned, List.append_nil]
    rfl
  | whole path =>
    cases h : settings.cleanup
    · simp only [cleanAfter, cleaned, h, Bool.false_eq_true, if_false, List.append_nil]
      rfl
    · simp only [cleanAfter, cleaned, h, if_true]
      rfl

variable (calls : List Call)

theorem run_runCalls_of_stops {e : EngineError} (hpolicy : settings.policy = .stop)
    (hfix : oracle.fix past call = .error e) :
    (runCalls oracle.agents settings (call :: calls)).run past =
      (⟨[.fixed call (.error e)], some ⟨call.path, call.scope, e⟩⟩,
        past ++ [.fixed call (.error e)]) := by
  rw [runCalls, run_bind_of_run run_fix]
  simp only [hfix, hpolicy]
  rfl

theorem run_runCalls_of_not_stops (h : ¬Stops settings.policy (oracle.fix past call)) :
    (runCalls oracle.agents settings (call :: calls)).run past =
      let rest := (runCalls oracle.agents settings calls).run
        (past ++ oracle.round settings.cleanup past call)
      (⟨oracle.round settings.cleanup past call ++ rest.1.events, rest.1.abort⟩, rest.2) := by
  have hround : past ++ oracle.round settings.cleanup past call =
      past ++ [.fixed call (oracle.fix past call)] ++
        oracle.cleaned settings.cleanup (past ++ [.fixed call (oracle.fix past call)]) call := by
    simp [round]
  rw [runCalls, run_bind_of_run run_fix, hround]
  split
  · next e hfix hpolicy => exact absurd ⟨hpolicy, e, hfix⟩ h
  · rw [run_bind_of_run run_cleanAfter, StateT.run_bind]
    rfl

theorem course_nil : oracle.course settings past [] = ⟨[], none⟩ := rfl

/-- A failure that stops the run is its last event, and no cleanup follows it. -/
theorem course_cons_of_stops {e : EngineError} (hpolicy : settings.policy = .stop)
    (hfix : oracle.fix past call = .error e) :
    oracle.course settings past (call :: calls) =
      ⟨[.fixed call (.error e)], some ⟨call.path, call.scope, e⟩⟩ := by
  rw [course, run_runCalls_of_stops calls hpolicy hfix]

/-- Any other call makes a round, after which the calls that are left take their course. -/
theorem course_cons_of_not_stops (h : ¬Stops settings.policy (oracle.fix past call)) :
    oracle.course settings past (call :: calls) =
      let rest := oracle.course settings (past ++ oracle.round settings.cleanup past call) calls
      ⟨oracle.round settings.cleanup past call ++ rest.events, rest.abort⟩ := by
  rw [course, run_runCalls_of_not_stops calls h]
  rfl

/-- **Courses**: a run adds to the events of the world what its course tells. -/
theorem run_runCalls (past : List Event) : (runCalls oracle.agents settings calls).run past =
    (oracle.course settings past calls, past ++ (oracle.course settings past calls).events) := by
  induction calls generalizing past with
  | nil => rw [course_nil, List.append_nil]; rfl
  | cons call calls ih =>
    by_cases h : Stops settings.policy (oracle.fix past call)
    · obtain ⟨hpolicy, e, hfix⟩ := h
      rw [course_cons_of_stops calls hpolicy hfix, run_runCalls_of_stops calls hpolicy hfix]
    · rw [course_cons_of_not_stops calls h, run_runCalls_of_not_stops calls h]
      simp only [ih, List.append_assoc]

/-! ## plans -/

/-- The outcome of carrying out a plan, and the events that it adds. -/
theorem run_runPlan (oracle : Oracle) (settings : RunSettings) (plan : Plan) (past : List Event) :
    (runPlan oracle.agents settings plan).run past =
      let course := oracle.course settings past plan.calls
      let future := past ++ course.events
      (course.outcome plan.mode settings.policy (oracle.now past) (oracle.now future), future) := by
  have hstart : oracle.agents.now.run past = (oracle.now past, past) := rfl
  rw [runPlan, run_bind_of_run hstart, run_bind_of_run (run_runCalls plan.calls past)]
  rfl

end Oracle

end FixBatch
