import FixBatch.Proofs.Run.Oracle
import FixBatch.Proofs.Run.Report

/-!
# FixBatch.Proofs.Run.Steps

Runs in a world with a state of any kind, call by call.  Every event of a run is what the engine or
the cleanup answered in the state that the events before it had left:

* `Takes` — the course that some calls take from one state to another;
* `takes_runCalls`, `exists_carriesOut` — what is run takes such a course;
* `Takes.succeeds_iff` — when a run is neither stopped nor a failure from end to end.
-/

namespace FixBatch

variable {σ : Type} {agents : Agents (StateM σ)} {settings : RunSettings} {calls : List Call}
  {plan : Plan} {s s' : σ} {course : Course}

/-! ## courses -/

/-- The course that some calls take, from one state of the world to another: a failure stops it if
the policy says so, and any other answer is followed by the cleanup after its call and by the calls
that are left. -/
inductive Takes (agents : Agents (StateM σ)) (settings : RunSettings) :
    List Call → σ → Course → σ → Prop where
  | done {s : σ} : Takes agents settings [] s ⟨[], none⟩ s
  | stopped {call : Call} {calls : List Call} {e : EngineError} {s s' : σ}
      (hfix : (agents.fix call).run s = (.error e, s')) (hpolicy : settings.policy = .stop) :
      Takes agents settings (call :: calls) s
        ⟨[.fixed call (.error e)], some ⟨call.path, call.scope, e⟩⟩ s'
  | round {call : Call} {calls : List Call} {answer : Except EngineError Unit}
      {cleaned : List Event} {course : Course} {s s₁ s₂ s' : σ}
      (hfix : (agents.fix call).run s = (answer, s₁))
      (hgoes : ¬Oracle.Stops settings.policy answer)
      (hclean : (cleanAfter agents settings call).run s₁ = (cleaned, s₂))
      (hrest : Takes agents settings calls s₂ course s') :
      Takes agents settings (call :: calls) s
        ⟨.fixed call answer :: cleaned ++ course.events, course.abort⟩ s'

/-- **Courses**: calls that are run take their course. -/
theorem takes_runCalls (agents : Agents (StateM σ)) (settings : RunSettings) (calls : List Call)
    (s : σ) : Takes agents settings calls s ((runCalls agents settings calls).run s).1
      ((runCalls agents settings calls).run s).2 := by
  induction calls generalizing s with
  | nil => exact .done
  | cons call calls ih =>
    obtain ⟨answer, s₁, hfix⟩ : ∃ answer s₁, (agents.fix call).run s = (answer, s₁) := ⟨_, _, rfl⟩
    rw [runCalls, Oracle.run_bind_of_run hfix]
    split
    · next e hpolicy => exact .stopped hfix hpolicy
    · next hgoes =>
      refine .round hfix ?_ rfl (ih _)
      rintro ⟨hpolicy, e, he⟩
      exact hgoes e he hpolicy

/-! ## what stops a run -/

/-- A cleanup is no call of the engine. -/
theorem answers_cleanAfter {call : Call} {cleaned : List Event}
    (h : (cleanAfter agents settings call).run s = (cleaned, s')) : answers cleaned = [] := by
  cases call with
  | file | directory => cases h; rfl
  | whole path =>
    rw [cleanAfter] at h
    split at h
    · obtain ⟨answer, s₁, -, h⟩ := Oracle.exists_run_of_run_bind h
      cases h
      rfl
    · cases h
      rfl

/-- A round holds the answer to its call, before the answers of what comes after it. -/
theorem answers_round_append {call : Call} {answer : Except EngineError Unit} {cleaned : List Event}
    (h : (cleanAfter agents settings call).run s = (cleaned, s')) (events : List Event) :
    answers (.fixed call answer :: cleaned ++ events) = (call, answer) :: answers events := by
  rw [← List.singleton_append, answers_append, answers_append, answers_cleanAfter h]
  rfl

/-- A run is stopped only by a failure, and only if its policy says so. -/
theorem Takes.abort_eq_none_iff (h : Takes agents settings calls s course s') :
    course.abort = none ↔
      settings.policy = .proceed ∨ ∀ answered ∈ answers course.events, answered.2.isOk = true := by
  induction h with
  | done => exact iff_of_true rfl (.inr (List.forall_mem_nil _))
  | @stopped call _ e _ _ _ hpolicy =>
    refine iff_of_false nofun ?_
    rintro (hproceed | hall)
    · rw [hpolicy] at hproceed
      cases hproceed
    · cases hall (call, .error e) List.mem_cons_self
  | @round call _ answer cleaned course _ _ _ _ _ hgoes hclean _ ih =>
    rw [ih, answers_round_append hclean, List.forall_mem_cons]
    cases hpolicy : settings.policy with
    | proceed => simp
    | stop =>
      -- under this policy no failure goes before another call
      cases answer with
      | error e => exact absurd ⟨hpolicy, e, rfl⟩ hgoes
      | ok => simp [Except.isOk, Except.toBool]

/-- A report says that all calls failed, unless there was none or one of them succeeded. -/
theorem allFailed_outcome_eq_false_iff (course : Course) (mode : Mode) (policy : Policy)
    (started ended : Timestamp) :
    (course.outcome mode policy started ended).report.allFailed = false ↔
      answers course.events = [] ∨ ∃ answered ∈ answers course.events, answered.2.isOk = true := by
  rw [report_outcome, Report.allFailed, Bool.and_eq_false_iff, decide_eq_false_iff_not, Nat.not_lt,
    Nat.le_zero, List.length_eq_zero_iff, beq_eq_false_iff_ne, ← Nat.pos_iff_ne_zero,
    List.countP_pos_iff]

/-- **Success**: a run is neither stopped nor a failure from end to end just in case no call failed,
or some call succeeded and the policy is to go on. -/
theorem Takes.succeeds_iff (h : Takes agents settings calls s course s') (mode : Mode)
    (started ended : Timestamp) :
    (course.abort = none ∧
        (course.outcome mode settings.policy started ended).report.allFailed = false) ↔
      (∀ answered ∈ answers course.events, answered.2.isOk = true) ∨
        settings.policy = .proceed ∧ ∃ answered ∈ answers course.events, answered.2.isOk = true := by
  rw [h.abort_eq_none_iff, allFailed_outcome_eq_false_iff]
  constructor
  · rintro ⟨hgoes, hnil | hsome⟩
    · exact .inl (by simp [hnil])
    · exact hgoes.symm.imp_right fun hpolicy => ⟨hpolicy, hsome⟩
  · rintro (hall | ⟨hpolicy, hsome⟩)
    · refine ⟨.inr hall, ?_⟩
      rcases List.eq_nil_or_concat (answers course.events) with hnil | ⟨before, answered, hlast⟩
      · exact .inl hnil
      · have hmem : answered ∈ answers course.events := by simp [hlast]
        exact .inr ⟨answered, hmem, hall answered hmem⟩
    · exact ⟨.inl hpolicy, .inr hsome⟩

/-! ## plans -/

/-- What carrying out a plan is: the time is asked for, the calls of the plan take their course, and
the time is asked for again. -/
def CarriesOut (agents : Agents (StateM σ)) (settings : RunSettings) (plan : Plan) (s : σ)
    (course : Course) (outcome : Outcome) (s' : σ) : Prop :=
  ∃ started s₁ s₂ ended,
    agents.now.run s = (started, s₁) ∧ Takes agents settings plan.calls s₁ course s₂ ∧
      agents.now.run s₂ = (ended, s') ∧
      outcome = course.outcome plan.mode settings.policy started ended

/-- A plan that is run is carried out. -/
theorem exists_carriesOut (agents : Agents (StateM σ)) (settings : RunSettings) (plan : Plan)
    (s : σ) : ∃ course, CarriesOut agents settings plan s course
      ((runPlan agents settings plan).run s).1 ((runPlan agents settings plan).run s).2 := by
  obtain ⟨started, s₁, hstart⟩ : ∃ started s₁, agents.now.run s = (started, s₁) := ⟨_, _, rfl⟩
  obtain ⟨course, s₂, hcalls⟩ : ∃ course s₂,
      (runCalls agents settings plan.calls).run s₁ = (course, s₂) := ⟨_, _, rfl⟩
  have htakes := takes_runCalls agents settings plan.calls s₁
  rw [hcalls] at htakes
  refine ⟨course, started, s₁, s₂, (agents.now.run s₂).1, hstart, htakes, ?_, ?_⟩
  · rw [runPlan, Oracle.run_bind_of_run hstart, Oracle.run_bind_of_run hcalls]
    rfl
  · rw [runPlan, Oracle.run_bind_of_run hstart, Oracle.run_bind_of_run hcalls]
    rfl

/-- What is carried out without a failure is neither stopped nor a failure from end to end. -/
theorem CarriesOut.exists_failed {outcome : Outcome}
    (h : CarriesOut agents settings plan s course outcome s')
    (hfails : ¬(outcome.abort = none ∧ outcome.report.allFailed = false)) :
    ∃ answered ∈ answers course.events, answered.2.isOk = false := by
  obtain ⟨started, _, _, ended, -, htakes, -, rfl⟩ := h
  have hnot : ¬∀ answered ∈ answers course.events, answered.2.isOk = true := fun hall =>
    hfails ((htakes.succeeds_iff plan.mode started ended).mpr (.inl hall))
  simp only [Classical.not_forall, Bool.not_eq_true] at hnot
  obtain ⟨answered, hmem, hbad⟩ := hnot
  exact ⟨answered, hmem, hbad⟩

end FixBatch
