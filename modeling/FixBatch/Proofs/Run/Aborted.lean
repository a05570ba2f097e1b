import FixBatch.Proofs.Run.Policy
import FixBatch.Proofs.Run.Steps

/-!
# FixBatch.Proofs.Run.Aborted

What it means that a report says `aborted`.  A run that is stopped has made its first calls, the
last of which failed.  So a run that leaves paths untreated is reported as aborted; but so is a run
whose policy is to stop and whose last path alone fails, although no path is left then.

* `Takes.ends` — where a run ends;
* `runPlan_aborted` — the reports that say `aborted`;
* `runPlan_aborted_at_last` — one of a run that came to its last path.
-/

namespace FixBatch

variable {σ : Type} {agents : Agents (StateM σ)} {settings : RunSettings} {calls : List Call}
  {plan : Plan} {s s' : σ} {course : Course}

/-! ## where a run ends -/

/-- **Ends**: a run makes all its calls, or its policy is to stop, and the first call that fails is
its last. -/
theorem Takes.ends (h : Takes agents settings calls s course s') :
    (course.abort = none ∧ received course.events = calls) ∨
      ∃ before call e after, settings.policy = .stop ∧ calls = before ++ call :: after ∧
        answers course.events = before.map (·, .ok ()) ++ [(call, .error e)] ∧
        course.abort = some ⟨call.path, call.scope, e⟩ := by
  induction h with
  | done => exact .inl ⟨rfl, rfl⟩
  | @stopped call calls e _ _ _ hpolicy => exact .inr ⟨[], call, e, calls, hpolicy, rfl, rfl, rfl⟩
  | @round call calls answer cleaned course _ _ _ _ _ hgoes hclean _ ih =>
    have hanswers : answers (.fixed call answer :: cleaned ++ course.events) =
        (call, answer) :: answers course.events := answers_round_append hclean course.events
    rcases ih with ⟨habort, hreceived⟩ | ⟨before, bad, e, after, hpolicy, hcalls, hbefore, habort⟩
    · refine .inl ⟨habort, ?_⟩
      rw [received, hanswers, List.map_cons, ← received, hreceived]
    · -- the run goes on under the policy to stop, so this call succeeded
      have hok : answer = .ok () := by
        cases answer with
        | ok => rfl
        | error e => exact absurd ⟨hpolicy, e, rfl⟩ hgoes
      refine .inr ⟨call :: before, bad, e, after, hpolicy, ?_, ?_, habort⟩
      · rw [hcalls, List.cons_append]
      · rw [hanswers, hbefore, hok, List.map_cons, List.cons_append]

/-! ## reports that say `aborted` -/

/-- The run failed on its last path, where its policy is to stop: no path is left to treat. -/
structure FailsAtLast (settings : RunSettings) (plan : Plan) (events : List Event) : Prop where
  policy_eq : settings.policy = .stop
  received_eq : received events = plan.calls
  last : ∃ call e, (answers events).getLast? = some (call, .error e)

/-- A run that ends at its first failure has made the calls up to that. -/
theorem received_of_answers {events : List Event} {before : List Call} {call : Call}
    {e : EngineError}
    (h : answers events = before.map (·, .ok ()) ++ [(call, .error e)]) :
    received events = before ++ [call] := by
  rw [received, h, List.map_append, List.map_map]
  exact congrArg (· ++ [call]) (List.map_id before)

/-- A run that ends at its first failure has failed at the last path if no call is left. -/
theorem failsAtLast_iff {before after : List Call} {call : Call} {e : EngineError}
    (hpolicy : settings.policy = .stop) (hcalls : plan.calls = before ++ call :: after)
    (hanswers : answers course.events = before.map (·, .ok ()) ++ [(call, .error e)]) :
    FailsAtLast settings plan course.events ↔ after = [] := by
  have hreceived := received_of_answers hanswers
  constructor
  · intro h
    have hsame : before ++ [call] = before ++ call :: after := by
      rw [← hreceived, h.received_eq, hcalls]
    exact (List.cons.inj (List.append_cancel_left hsame)).2.symm
  · rintro rfl
    exact ⟨hpolicy, by rw [hreceived, hcalls], call, e, by rw [hanswers, List.getLast?_concat]⟩

/-- A run that is not stopped did not fail at the last path, where its policy is to stop. -/
theorem Takes.not_failsAtLast (h : Takes agents settings plan.calls s course s')
    (habort : course.abort = none) : ¬FailsAtLast settings plan course.events := by
  rintro ⟨hpolicy, -, call, e, hlast⟩
  rcases h.abort_eq_none_iff.mp habort with hproceed | hall
  · rw [hpolicy] at hproceed
    cases hproceed
  · cases hall _ (List.mem_of_getLast? hlast)

/-- **Aborted**: a report says `aborted` just in case something stopped the run, which is so when
the policy is to stop and some call failed.  The calls made are the first calls of the plan, and the
report counts them.  So a report that counts fewer calls than there are paths says `aborted`; and of
those that count all paths, only those of runs that failed at the last path do. -/
theorem runPlan_aborted (agents : Agents (StateM σ)) (settings : RunSettings) (plan : Plan)
    (s : σ) : ∃ course outcome s', (runPlan agents settings plan).run s = (outcome, s') ∧
      CarriesOut agents settings plan s course outcome s' ∧
      outcome.report.aborted = outcome.abort.isSome ∧
      (outcome.report.aborted = true ↔ settings.policy = .stop ∧
        ∃ answered ∈ answers course.events, answered.2.isOk = false) ∧
      received course.events = plan.calls.take outcome.report.attempted ∧
      outcome.report.attempted ≤ plan.targets.length ∧
      (outcome.report.aborted = true ↔ outcome.report.attempted < plan.targets.length ∨
        FailsAtLast settings plan course.events) := by
  obtain ⟨outcome, s', hrun⟩ : ∃ outcome s',
      (runPlan agents settings plan).run s = (outcome, s') := ⟨_, _, rfl⟩
  obtain ⟨course, hcarries⟩ : ∃ course, CarriesOut agents settings plan s course outcome s' := by
    have hcarries := exists_carriesOut agents settings plan s
    rwa [hrun] at hcarries
  obtain ⟨started, s₁, s₂, ended, -, htakes, -, houtcome⟩ := id hcarries
  have habort : outcome.abort = course.abort := congrArg Outcome.abort houtcome
  have haborted : outcome.report.aborted = course.abort.isSome := by
    rw [houtcome, report_outcome]
  have hattempted : outcome.report.attempted = (received course.events).length := by
    rw [houtcome, report_outcome, length_received]
  refine ⟨course, outcome, s', hrun, hcarries, by rw [haborted, habort], ?_, ?_⟩
  · rw [haborted, Option.isSome_iff_ne_none, ne_eq, htakes.abort_eq_none_iff]
    cases settings.policy <;> simp
  · rw [haborted, hattempted, ← length_calls]
    rcases htakes.ends with ⟨hnone, hreceived⟩ |
      ⟨before, call, e, after, hpolicy, hcalls, hanswers, hsome⟩
    · have hlast := htakes.not_failsAtLast hnone
      rw [hreceived, hnone, List.take_length]
      exact ⟨rfl, Nat.le_refl _, by simp [hlast]⟩
    · rw [failsAtLast_iff hpolicy hcalls hanswers, received_of_answers hanswers, hcalls, hsome]
      have hprefix : before ++ [call] <+: before ++ call :: after := ⟨after, by simp⟩
      refine ⟨List.prefix_iff_eq_take.mp hprefix, hprefix.length_le, ?_⟩
      cases after <;> simp

/-- The only path of a plan fails, where the policy is to stop: all paths have been treated, and the
report says `aborted`. -/
theorem runPlan_aborted_at_last :
    let agents : Agents (StateM Unit) :=
      ⟨fun call => return simulatedAnswer [⟨"A.java"⟩] call, fun _ => return .ok false,
        return .ofUnix 0 0⟩
    let plan := Plan.make [⟨⟨"A.java"⟩, .file⟩] (some .all) true
    let report := ((runPlan agents ⟨.stop, true⟩ plan).run ()).1.report
    plan.targets.length = 1 ∧ report.attempted = 1 ∧ report.aborted = true := by
  intro agents plan report
  have htargets : plan.targets = [⟨⟨"A.java"⟩, .file⟩] := Plan.targets_make _ _ _
  have hcalls : plan.calls = [.file ⟨"A.java"⟩ .all] := by
    rw [calls_of_some rfl, htargets]
    rfl
  have hreport : report = (((runCalls agents ⟨.stop, true⟩ plan.calls).run ()).1.outcome
      .all .stop (.ofUnix 0 0) (.ofUnix 0 0)).report := rfl
  rw [hreport, hcalls, htargets]
  exact ⟨rfl, rfl, rfl⟩

end FixBatch
