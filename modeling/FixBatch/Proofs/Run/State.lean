import FixBatch.Proofs.Run.Oracle
import FixBatch.Proofs.Run.Report

/-!
# FixBatch.Proofs.Run.State

Runs in a world with a state of any kind.  Where the engine notes its calls in some part of the
state, and nothing else touches that part, the notes are those of the first calls of the run; where
the engine only prints, a run without cleanups does nothing else.

* `Keeps` — a computation that leaves a part of the state alone;
* `exists_log_runCalls` — what an engine notes of a run;
* `Prints.run_runPlan` — a run whose engine prints.
-/

namespace FixBatch

variable {σ α β γ : Type}

/-! ## parts of the state -/

/-- A computation that leaves a part of the state as it is. -/
def Keeps (part : σ → γ) (x : StateM σ α) : Prop := ∀ s, part (x.run s).2 = part s

variable {part : σ → γ}

theorem Keeps.pure (a : α) : Keeps part (Pure.pure a : StateM σ α) := fun _ => rfl

/-- What comes after does not touch the part. -/
theorem part_run_bind {f : α → StateM σ β} (hf : ∀ a, Keeps part (f a)) (x : StateM σ α) (s : σ) :
    part ((x >>= f).run s).2 = part (x.run s).2 := by
  have hrun : (x >>= f).run s = (f (x.run s).1).run (x.run s).2 := Oracle.run_bind_of_run rfl
  rw [hrun, hf]

theorem Keeps.bind {x : StateM σ α} {f : α → StateM σ β} (hx : Keeps part x)
    (hf : ∀ a, Keeps part (f a)) : Keeps part (x >>= f) := fun s => by
  rw [part_run_bind hf, hx]

theorem Keeps.mapM {f : α → StateM σ β} (l : List α) (h : ∀ a, Keeps part (f a)) :
    Keeps part (l.mapM f) := by
  induction l with
  | nil => exact .pure []
  | cons a l ih =>
    rw [List.mapM_cons]
    exact (h a).bind fun _ => ih.bind fun _ => .pure _

/-- A computation that leaves the whole state alone goes before another without a trace. -/
theorem Keeps.run_bind {x : StateM σ α} (h : Keeps id x) (f : α → StateM σ β) (s : σ) :
    (x >>= f).run s = (f (x.run s).1).run s := by
  refine Oracle.run_bind_of_run (Prod.ext rfl ?_)
  exact h s

/-! ## engines that note their calls -/

variable {agents : Agents (StateM σ)} {settings : RunSettings} {log : σ → List β}
  {entry : Call → β}

theorem keeps_cleanAfter (hclean : ∀ path, Keeps part (agents.clean path)) (call : Call) :
    Keeps part (cleanAfter agents settings call) := by
  cases call with
  | file | directory => exact .pure []
  | whole path =>
    rw [cleanAfter]
    split
    · exact (hclean path).bind fun _ => .pure _
    · exact .pure []

/-- **Notes**: an engine notes the first calls of a run in their order, and all of them if the run
goes on after failures. -/
theorem exists_log_runCalls
    (hfix : ∀ call s, log ((agents.fix call).run s).2 = log s ++ [entry call])
    (hclean : ∀ path, Keeps log (agents.clean path)) (calls : List Call) (s : σ) :
    ∃ made, made <+: calls ∧ (settings.policy = .proceed → made = calls) ∧
      log ((runCalls agents settings calls).run s).2 = log s ++ made.map entry := by
  induction calls generalizing s with
  | nil => exact ⟨[], List.prefix_rfl, fun _ => rfl, (List.append_nil _).symm⟩
  | cons call calls ih =>
    obtain ⟨answer, afterCall, hanswer⟩ : ∃ answer afterCall,
        (agents.fix call).run s = (answer, afterCall) := ⟨_, _, rfl⟩
    obtain ⟨cleaned, afterRound, hcleaned⟩ : ∃ cleaned afterRound,
        (cleanAfter agents settings call).run afterCall = (cleaned, afterRound) := ⟨_, _, rfl⟩
    have hcall : log afterCall = log s ++ [entry call] := by
      rw [← hfix, hanswer]
    have hround : log afterRound = log afterCall := by
      rw [← keeps_cleanAfter hclean call afterCall, hcleaned]
    rw [runCalls, Oracle.run_bind_of_run hanswer]
    split
    · next e hpolicy =>
      refine ⟨[call], List.prefix_append [call] calls, fun h => ?_, hcall⟩
      rw [hpolicy] at h
      cases h
    · obtain ⟨made, hprefix, hproceed, hlog⟩ := ih afterRound
      refine ⟨call :: made, List.cons_prefix_cons.mpr ⟨rfl, hprefix⟩,
        fun h => by rw [hproceed h], ?_⟩
      rw [Oracle.run_bind_of_run hcleaned, List.map_cons, List.append_cons, ← hcall, ← hround]
      exact hlog

theorem exists_log_runPlan
    (hfix : ∀ call s, log ((agents.fix call).run s).2 = log s ++ [entry call])
    (hclean : ∀ path, Keeps log (agents.clean path)) (hnow : Keeps log agents.now) (plan : Plan)
    (s : σ) : ∃ made, made <+: plan.calls ∧ (settings.policy = .proceed → made = plan.calls) ∧
      log ((runPlan agents settings plan).run s).2 = log s ++ made.map entry := by
  obtain ⟨started, afterStart, hstart⟩ : ∃ started afterStart,
      agents.now.run s = (started, afterStart) := ⟨_, _, rfl⟩
  have hkeep : log afterStart = log s := by rw [← hnow s, hstart]
  obtain ⟨made, hprefix, hproceed, hlog⟩ := exists_log_runCalls hfix hclean plan.calls afterStart
  refine ⟨made, hprefix, hproceed, ?_⟩
  rw [runPlan, Oracle.run_bind_of_run hstart, part_run_bind fun _ => hnow.bind fun _ => .pure _,
    hlog, hkeep]

/-! ## engines that print -/

/-- What an engine that prints makes of some calls: a line for each of them. -/
def printedLines (calls : List Call) : String := String.join (calls.map fun c => c.text ++ "\n")

theorem printedLines_cons (call : Call) (calls : List Call) :
    printedLines (call :: calls) = call.text ++ "\n" ++ printedLines calls := by
  simp [printedLines]

/-- Printing, and what it leaves: what is printed piece by piece is printed together. -/
structure Prints (print : String → StateM σ Unit) (printed : σ → String → σ) : Prop where
  run_print : ∀ text s, (print text).run s = ((), printed s text)
  printed_empty : ∀ s, printed s "" = s
  printed_printed : ∀ s text text', printed (printed s text) text' = printed s (text ++ text')

variable {print : String → StateM σ Unit} {printed : σ → String → σ}
  {clean : Path → StateM σ (Except CleanupError Bool)} {now : StateM σ Timestamp}

/-- The course of a run whose calls all succeed. -/
def succeeding (calls : List Call) : Course := ⟨calls.map (.fixed · (.ok ())), none⟩

/-- An engine that prints succeeds on every call, and without cleanups its lines are all that a run
leaves. -/
theorem Prints.run_runCalls (h : Prints print printed) (policy : Policy) (calls : List Call)
    (s : σ) : (runCalls ⟨printingEngine print, clean, now⟩ ⟨policy, false⟩ calls).run s =
      (succeeding calls, printed s (printedLines calls)) := by
  induction calls generalizing s with
  | nil =>
    rw [printedLines, List.map_nil, String.join_nil, h.printed_empty]
    rfl
  | cons call calls ih =>
    have hfix : (printingEngine print call).run s = (.ok (), printed s (call.text ++ "\n")) := by
      rw [printingEngine, Oracle.run_bind_of_run (h.run_print _ _)]
      rfl
    have hclean (s : σ) : (cleanAfter ⟨printingEngine print, clean, now⟩ ⟨policy, false⟩ call).run s
        = ([], s) := by
      cases call <;> rfl
    have hlines := h.printed_printed s (call.text ++ "\n") (printedLines calls)
    rw [runCalls, Oracle.run_bind_of_run hfix, printedLines_cons, ← hlines]
    simp only
    rw [Oracle.run_bind_of_run (hclean _), Oracle.run_bind_of_run (ih _)]
    rfl

/-- **Printing**: all that a run leaves whose engine prints is a line for each call. -/
theorem Prints.run_runPlan (h : Prints print printed) (hnow : Keeps id now) (policy : Policy)
    (plan : Plan) (s : σ) :
    (runPlan ⟨printingEngine print, clean, now⟩ ⟨policy, false⟩ plan).run s =
      let s' := printed s (printedLines plan.calls)
      ((succeeding plan.calls).outcome plan.mode policy (now.run s).1 (now.run s').1, s') := by
  rw [runPlan, hnow.run_bind, Oracle.run_bind_of_run (h.run_runCalls policy plan.calls s),
    hnow.run_bind]
  rfl

/-- Calls that all succeed do not all fail. -/
theorem allFailed_succeeding (calls : List Call) (mode : Mode) (policy : Policy)
    (started ended : Timestamp) :
    ((succeeding calls).outcome mode policy started ended).report.allFailed = false := by
  have hfailed : failed (succeeding calls).events = [] := by
    induction calls with
    | nil => rfl
    | cons call calls ih => exact ih
  have hlength := length_answers (succeeding calls).events
  rw [hfailed, List.length_nil, Nat.add_zero] at hlength
  rw [report_outcome, Report.allFailed, hlength]
  cases (answers (succeeding calls).events).countP (·.2.isOk) <;> rfl

end FixBatch
