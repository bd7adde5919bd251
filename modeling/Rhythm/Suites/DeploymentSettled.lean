import Rhythm.Suites.DeploymentEffects
import Rhythm.Suites.Decision

/-!
# Rhythm.Suites.DeploymentSettled

A finished deployment job and its run.  Once a job has ended and no worker is
executing it, nothing in the queue will move its run again, so the run should
be over by then, with a decision.  `processDeployment` reports nothing back:
a load that fails, a first save that fails and a last save that fails all end
in the same completion of the job, whatever the stored run says, and a worker
may be lost after the reaper has ended its job and a late save has opened the
run again.  Without these, every finished job leaves a decided run
(`settled_along`).
-/

namespace Rhythm.Suites.Deployment

/-! ## Decided runs and settled jobs -/

def DeploymentRun.Decided (run : DeploymentRun) : Prop :=
  run.status.isTerminal = true ∧ run.gateDecision ≠ .pending

instance : DecidablePred DeploymentRun.Decided := fun _ => inferInstanceAs (Decidable (_ ∧ _))

def State.RunDecided (s : State) (runID : ValidationRunId) : Prop :=
  ∃ row ∈ s.runs, row.id = runID ∧ row.Decided

instance (s : State) (runID : ValidationRunId) : Decidable (s.RunDecided runID) :=
  inferInstanceAs (Decidable (∃ row ∈ s.runs, _))

def State.Running (s : State) (jobID : JobId) : Prop := ∃ w ∈ s.workers, w.jobId = jobID

instance (s : State) (jobID : JobId) : Decidable (s.Running jobID) :=
  inferInstanceAs (Decidable (∃ w ∈ s.workers, _))

/-- Every finished job that no worker is running has a decided run. -/
def Settled (s : State) : Prop :=
  ∀ job ∈ s.jobs, job.status.isTerminal = true → ¬ s.Running job.id → s.RunDecided job.runId

instance (s : State) : Decidable (Settled s) := inferInstanceAs (Decidable (∀ job ∈ s.jobs, _))

/-- The last save of `processDeployment` committed: the stored run has the
outcome that the worker holds. -/
def State.OutcomeSaved (s : State) (w : Worker) : Prop :=
  match w.stage with
  | .finished run => ∃ row ∈ s.runs, row.id = run.id ∧
      (row.status, row.gateDecision) = (run.status, run.gateDecision)
  | _ => False

instance (s : State) (w : Worker) : Decidable (s.OutcomeSaved w) := by
  unfold State.OutcomeSaved
  split <;> infer_instance

/-- No failure comes between the run and its job: a load fails, a first or last
save is lost, or a worker is lost after its job has ended, only when the
stored run is decided anyway.  What a worker decides is what the gate
computes. -/
def KeepsSettled (s : State) (a : Action) : Prop :=
  match a with
  | .completeDeploymentJob executionID => ∀ w ∈ s.workers, w.id = executionID →
      w.stage = .claimed → s.RunDecided w.runId
  | .return executionID => ∀ w ∈ s.workers, w.id = executionID →
      s.OutcomeSaved w ∨ s.RunDecided w.runId
  | .crash executionID => ∀ w ∈ s.workers, w.id = executionID →
      (∀ job ∈ s.jobs, job.id = w.jobId → job.status.isTerminal = false) ∨ s.RunDecided w.runId
  | .finish _ (.decided decision) =>
      ∃ evidence, decision = (deploymentDecisionWithBrowser evidence).1
  | _ => True

theorem decision_ne_pending (evidence : Evidence) :
    (deploymentDecisionWithBrowser evidence).1 ≠ .pending := by
  simp only [deploymentDecisionWithBrowser]
  split
  · simp
  · split <;> simp

theorem exists_evidence_iff {decision : GateDecision} :
    (∃ evidence, decision = (deploymentDecisionWithBrowser evidence).1) ↔ decision ≠ .pending := by
  constructor
  · rintro ⟨evidence, rfl⟩
    exact decision_ne_pending evidence
  · intro hne
    cases decision with
    | pending => exact absurd rfl hne
    | allow => exact ⟨⟨[], [], [], [], []⟩, by decide⟩
    | allowWithWarnings => exact ⟨⟨[], [], [], [⟨"", "", "", false, "FAILED"⟩], []⟩, by decide⟩
    | block => exact ⟨⟨[], [], [], [⟨"", "", "", true, "FAILED"⟩], []⟩, by decide⟩

instance (s : State) : DecidablePred (KeepsSettled s)
  | .completeDeploymentJob _ => inferInstanceAs (Decidable (∀ w ∈ s.workers, _))
  | .return _ => inferInstanceAs (Decidable (∀ w ∈ s.workers, _))
  | .crash _ => inferInstanceAs (Decidable (∀ w ∈ s.workers, _))
  | .finish _ (.decided _) => decidable_of_iff _ exists_evidence_iff.symm
  | .finish _ (.failed _) | .finish _ .cancelled | .tick _ | .createQueuedDeploymentRun _ _
  | .claimDeploymentJob _ _ _ | .getDeploymentRun _ | .start _ | .saveDeployment _
  | .watchDeploymentJob _ | .cancelQueuedDeployment _ | .reapExpiredDeploymentJobs _ =>
    isTrue trivial

/-- The run that a worker holds is the run of its job; past the first save it is
`RUNNING`, and at the end it is decided. -/
def Stage.Holds (runID : ValidationRunId) : Stage → Prop
  | .claimed | .returned => True
  | .loaded run => run.id = runID
  | .starting run | .running run => run.id = runID ∧ run.status = .running
  | .finished run => run.id = runID ∧ run.Decided

/-- What holds in every reachable state. -/
structure Invariant (s : State) : Prop where
  runOfJob : ∀ job ∈ s.jobs, ∃ row ∈ s.runs, row.id = job.runId ∧
    (job.status = .queued → row.status = .queued)
  jobOfRun : ∀ job ∈ s.jobs, ∀ job' ∈ s.jobs, job.runId = job'.runId → job = job'
  jobOfWorker : ∀ w ∈ s.workers, ∃ job ∈ s.jobs, job.id = w.jobId ∧ job.runId = w.runId ∧
    job.status ≠ .queued
  oneWorker : ∀ w ∈ s.workers, ∀ w' ∈ s.workers, w.jobId = w'.jobId → w = w'
  holds : ∀ w ∈ s.workers, w.stage.Holds w.runId
  decided : ∀ row ∈ s.runs, row.status.isTerminal = true → row.gateDecision ≠ .pending

theorem invariant_initial (now : Time) : Invariant (initial now) where
  runOfJob := fun job hjob => absurd hjob (Table.not_mem_empty job)
  jobOfRun := fun job hjob => absurd hjob (Table.not_mem_empty job)
  jobOfWorker := fun w hw => absurd hw (Table.not_mem_empty w)
  oneWorker := fun w hw => absurd hw (Table.not_mem_empty w)
  holds := fun w hw => absurd hw (Table.not_mem_empty w)
  decided := fun row hrow => absurd hrow (Table.not_mem_empty row)

theorem Stage.Holds.saves {runID : ValidationRunId} {stage : Stage} (h : stage.Holds runID)
    {run : DeploymentRun} (hsaves : stage.saves = some run) :
    run.id = runID ∧ (run.status = .running ∨ run.Decided) := by
  cases stage with
  | starting run' | running run' =>
    cases hsaves
    exact ⟨h.1, .inl h.2⟩
  | finished run' =>
    cases hsaves
    exact ⟨h.1, .inr h.2⟩
  | _ => contradiction

/-! ## Every step keeps the invariant -/

section Step

variable {s s' : State} {a : Action}

variable {job : WorkflowJob}

theorem Invariant.job_of_worker_run (hI : Invariant s) {w : Worker} (hw : w ∈ s.workers)
    (hjob : job ∈ s.jobs) (hrun : w.runId = job.runId) :
    w.jobId = job.id ∧ job.status ≠ .queued := by
  obtain ⟨owner, howner, hid, hrunId, hstatus⟩ := hI.jobOfWorker w hw
  have hsame := hI.jobOfRun owner howner job hjob (hrunId.trans hrun)
  subst hsame
  exact ⟨hid.symm, hstatus⟩

theorem runEffect_of_queued (hI : Invariant s) (h : step s a = some s')
    (hjob : job ∈ s.jobs) {row : DeploymentRun} (hrow : row.id = job.runId)
    (hafter : (jobEffect s a job).status = .queued) (hstatus : row.status = .queued) :
    (runEffect s a row).status = .queued := by
  have hqueued : job.status = .queued := by
    by_contra hne
    exact status_jobEffect_ne_queued hne hafter
  cases a with
  | saveDeployment executionID =>
    obtain ⟨w, hw, -, run, hsaves, hstage⟩ := step_save h
    have hne : row.id ≠ run.id := by
      intro hid
      have hrun := ((hI.holds w hw).saves hsaves).1
      have hown := hI.job_of_worker_run hw hjob (by rw [← hrun, ← hid, hrow])
      exact hown.2 hqueued
    simp only [runEffect, hstage, if_neg hne]
    exact hstatus
  | cancelQueuedDeployment runID =>
    grind [jobEffect, runEffect]
  | reapExpiredDeploymentJobs locked =>
    have hnone : ¬ ∃ item ∈ expiredWorkflowJobs s.now locked s.jobs,
        row.id = item.runId ∧ row.status.isTerminal = false := by
      rintro ⟨item, hitem, hid, -⟩
      obtain ⟨hmem, hleased⟩ := mem_of_mem_expiredWorkflowJobs hitem
      have hsame := hI.jobOfRun item hmem job hjob (hid.symm.trans hrow)
      subst hsame
      rw [hqueued] at hleased
      contradiction
    simp only [runEffect, if_neg hnone]
    exact hstatus
  | _ => exact hstatus

theorem decided_runEffect (hI : Invariant s) (h : step s a = some s') {row : DeploymentRun}
    (hrow : row ∈ s.runs) (hafter : (runEffect s a row).status.isTerminal = true) :
    (runEffect s a row).gateDecision ≠ .pending := by
  cases a with
  | saveDeployment executionID =>
    obtain ⟨w, hw, -, run, hsaves, hstage⟩ := step_save h
    simp only [runEffect, hstage] at hafter ⊢
    split at hafter
    · rename_i hid
      rw [if_pos hid]
      rcases ((hI.holds w hw).saves hsaves).2 with hrunning | hdecided
      · simp [hrunning, Status.isTerminal] at hafter
      · exact hdecided.2
    · rename_i hid
      rw [if_neg hid]
      exact hI.decided row hrow hafter
  | cancelQueuedDeployment runID =>
    simp only [runEffect] at hafter ⊢
    split at hafter
    · grind [cancelDeploymentRun, Status.isTerminal]
    · rename_i hmet
      rw [if_neg hmet]
      exact hI.decided row hrow hafter
  | reapExpiredDeploymentJobs locked =>
    simp only [runEffect] at hafter ⊢
    split at hafter
    · rename_i hmet
      rw [if_pos hmet]
      simp [reapDeploymentRun]
    · rename_i hmet
      rw [if_neg hmet]
      exact hI.decided row hrow hafter
  | _ => exact hI.decided row hrow hafter

theorem holds_workerEffect (hG : KeepsSettled s a) {w w' : Worker}
    (hholds : w.stage.Holds w.runId) (heffect : workerEffect s a w = some w') :
    w'.stage.Holds w'.runId := by
  cases a with
  | getDeploymentRun executionID =>
    simp only [workerEffect] at heffect
    split at heffect
    · obtain ⟨row, hrow, rfl⟩ := Option.map_eq_some_iff.mp heffect
      have hid := Table.key_of_get? hrow
      show (normalizeDeploymentCancellation row).id = w.runId
      rw [← hid]
      unfold normalizeDeploymentCancellation
      split <;> rfl
    · cases heffect
      exact hholds
  | start executionID =>
    simp only [workerEffect] at heffect
    split at heffect
    · split at heffect
      · rename_i run hstage
        cases heffect
        rw [hstage] at hholds
        exact ⟨hholds, rfl⟩
      · cases heffect
        exact hholds
    · cases heffect
      exact hholds
  | finish executionID outcome =>
    simp only [workerEffect] at heffect
    split at heffect
    · split at heffect
      · rename_i run hstage
        cases heffect
        rw [hstage] at hholds
        cases outcome with
        | decided decision =>
          obtain ⟨evidence, rfl⟩ := hG
          exact ⟨hholds.1, rfl, decision_ne_pending evidence⟩
        | failed reason | cancelled => exact ⟨hholds.1, rfl, by simp [Outcome.apply]⟩
      · cases heffect
        exact hholds
    · cases heffect
      exact hholds
  | saveDeployment executionID =>
    simp only [workerEffect] at heffect
    split at heffect
    · cases heffect
      revert hholds
      cases hstage : w.stage <;> simp [Stage.afterSave, Stage.Holds]
    · cases heffect
      exact hholds
  | «return» executionID =>
    simp only [workerEffect] at heffect
    split at heffect
    · cases heffect
      trivial
    · cases heffect
      exact hholds
  | _ =>
    simp only [workerEffect] at heffect
    grind

/-- **One step keeps the invariant.** -/
theorem invariant_step (hI : Invariant s) (h : step s a = some s') (hG : KeepsSettled s a) :
    Invariant s' where
  runOfJob := by
    intro job' hjob'
    rcases job_of_step h hjob' with ⟨job, hjob, rfl⟩ | ⟨jobID, runID, rfl, rfl⟩
    · obtain ⟨row, hrow, hid, hqueued⟩ := hI.runOfJob job hjob
      refine ⟨runEffect s a row, mem_runEffect h hrow, ?_, fun hafter => ?_⟩
      · rw [runEffect_id, (jobEffect_ids job).2, hid]
      · refine runEffect_of_queued hI h hjob hid hafter (hqueued ?_)
        by_contra hne
        exact status_jobEffect_ne_queued hne hafter
    · obtain ⟨hruns, -, -⟩ := step_create h
      have hget : s'.runs.get? runID = some (queuedDeploymentRun runID) := by
        have hnone : s.runs.get? runID = none := Table.get?_of_insert_eq_none hruns
        rw [Table.get?_insert hruns, hnone]
        exact if_pos rfl
      exact ⟨_, Table.mem_of_get? hget, rfl, fun _ => rfl⟩
  jobOfRun := by
    have hfresh : ∀ jobID runID, a = .createQueuedDeploymentRun jobID runID →
        ∀ job ∈ s.jobs, job.runId ≠ runID := by
      rintro jobID runID rfl job hjob hrun
      obtain ⟨hruns, -, -⟩ := step_create h
      obtain ⟨row, hrow, hid, -⟩ := hI.runOfJob job hjob
      exact Table.get?_eq_none_iff.mp (Table.get?_of_insert_eq_none hruns) row hrow (hid.trans hrun)
    intro job₁ hjob₁ job₂ hjob₂ hrun
    rcases job_of_step h hjob₁ with ⟨job, hjob, rfl⟩ | ⟨jobID, runID, ha, rfl⟩
    · rw [(jobEffect_ids job).2] at hrun
      rcases job_of_step h hjob₂ with ⟨job', hjob', rfl⟩ | ⟨jobID, runID, ha, rfl⟩
      · rw [(jobEffect_ids job').2] at hrun
        rw [hI.jobOfRun job hjob job' hjob' hrun]
      · exact absurd hrun (hfresh jobID runID ha job hjob)
    · rcases job_of_step h hjob₂ with ⟨job', hjob', rfl⟩ | ⟨jobID', runID', ha', rfl⟩
      · rw [(jobEffect_ids job').2] at hrun
        exact absurd hrun.symm (hfresh jobID runID ha job' hjob')
      · cases ha.symm.trans ha'
        rfl
  jobOfWorker := by
    intro w' hw'
    rcases worker_of_step h hw' with ⟨w, hw, heffect⟩ | ⟨wid, eid, job, hjob, _, rfl, rfl⟩
    · obtain ⟨hid, hjobId, hrunId⟩ := workerEffect_ids heffect
      obtain ⟨job, hjob, hown, hrun, hstatus⟩ := hI.jobOfWorker w hw
      refine ⟨jobEffect s a job, mem_jobEffect h hjob, ?_, ?_, status_jobEffect_ne_queued hstatus⟩
      · rw [(jobEffect_ids job).1, hown, hjobId]
      · rw [(jobEffect_ids job).2, hrun, hrunId]
    · refine ⟨_, mem_jobEffect h hjob, (jobEffect_ids job).1, (jobEffect_ids job).2, ?_⟩
      simp [jobEffect, leaseWorkflowJob]
  oneWorker := by
    have hfresh : ∀ workerID executionID, ∀ job ∈ s.jobs, job.status = .queued →
        a = .claimDeploymentJob workerID job.id executionID →
        ∀ w ∈ s.workers, w.jobId ≠ job.id := by
      intro workerID executionID job hjob hqueued _ w hw hjobId
      obtain ⟨owner, howner, hown, -, hstatus⟩ := hI.jobOfWorker w hw
      have hsame := Table.eq_of_key_eq howner hjob (hown.trans hjobId)
      exact hstatus (hsame ▸ hqueued)
    intro w₁ hw₁ w₂ hw₂ hjobId
    rcases worker_of_step h hw₁ with ⟨w, hw, heffect⟩ | ⟨wid, eid, job, hjob, hqueued, ha, rfl⟩
    · rw [(workerEffect_ids heffect).2.1] at hjobId
      rcases worker_of_step h hw₂ with ⟨w', hw', heffect'⟩ | ⟨wid, eid, job, hjob, hqueued, ha, rfl⟩
      · rw [(workerEffect_ids heffect').2.1] at hjobId
        have hsame := hI.oneWorker w hw w' hw' hjobId
        subst hsame
        exact Option.some.inj (heffect.symm.trans heffect')
      · exact absurd hjobId (hfresh wid eid job hjob hqueued ha w hw)
    · rcases worker_of_step h hw₂ with ⟨w', hw', heffect'⟩ | ⟨wid', eid', job', hjob', _, ha', rfl⟩
      · rw [(workerEffect_ids heffect').2.1] at hjobId
        exact absurd hjobId.symm (hfresh wid eid job hjob hqueued ha w' hw')
      · have hsame := Table.eq_of_key_eq hjob hjob' hjobId
        subst hsame
        cases ha.symm.trans ha'
        rfl
  holds := by
    intro w' hw'
    rcases worker_of_step h hw' with ⟨w, hw, heffect⟩ | ⟨_, _, _, _, _, _, rfl⟩
    · exact holds_workerEffect hG (hI.holds w hw) heffect
    · trivial
  decided := by
    intro row' hrow' hafter
    rcases run_of_step h hrow' with ⟨row, hrow, rfl⟩ | ⟨jobID, runID, rfl, rfl⟩
    · exact decided_runEffect hI h hrow hafter
    · simp [queuedDeploymentRun, Status.isTerminal] at hafter

/-! ## Finished jobs leave decided runs -/

theorem runDecided_of_step (hI : Invariant s) (h : step s a = some s') {runID : ValidationRunId}
    (hdecided : s.RunDecided runID)
    (hsave : ∀ w ∈ s.workers, w.runId = runID → w.stage.saves ≠ none →
      a ≠ .saveDeployment w.id) : s'.RunDecided runID := by
  obtain ⟨row, hrow, hid, hover, hgate⟩ := hdecided
  have hsame : runEffect s a row = row := by
    by_cases hsaves : ∃ executionID, a = .saveDeployment executionID
    · obtain ⟨executionID, rfl⟩ := hsaves
      obtain ⟨w, hw, hown, run, hrun, hstage⟩ := step_save h
      have hne : row.id ≠ run.id := by
        intro hrow
        have hrunId := ((hI.holds w hw).saves hrun).1
        refine hsave w hw (by rw [← hrunId, ← hrow, hid]) (by simp [hrun]) (by rw [hown])
      simp only [runEffect, hstage, if_neg hne]
    · exact verdict_runEffect (fun executionID ha => hsaves ⟨executionID, ha⟩) hover
  exact ⟨row, hsame ▸ mem_runEffect h hrow, hid, hover, hgate⟩

/-- A worker that has returned left its run decided, and one that is saving
keeps its job running. -/
structure Returned (s : State) : Prop where
  decided : ∀ w ∈ s.workers, w.stage = .returned → s.RunDecided w.runId

theorem Invariant.runDecided_of_outcomeSaved (hI : Invariant s) {w : Worker} (hw : w ∈ s.workers)
    (hsaved : s.OutcomeSaved w) : s.RunDecided w.runId := by
  have hholds := hI.holds w hw
  unfold State.OutcomeSaved at hsaved
  split at hsaved
  · rename_i run hstage
    obtain ⟨row, hrow, hid, hverdict⟩ := hsaved
    rw [hstage] at hholds
    obtain ⟨hrunId, hover, hgate⟩ := hholds
    rw [Prod.mk.injEq] at hverdict
    exact ⟨row, hrow, hid.trans hrunId, by rw [hverdict.1]; exact hover,
      by rw [hverdict.2]; exact hgate⟩
  · contradiction

theorem returned_step (hI : Invariant s) (hR : Returned s) (h : step s a = some s')
    (hG : KeepsSettled s a) : Returned s' where
  decided := by
    intro w' hw' hreturned
    rcases worker_of_step h hw' with ⟨w, hw, heffect⟩ | ⟨_, _, _, _, _, _, rfl⟩
    · have hbefore : s.RunDecided w.runId ∧ (w.stage = .returned ∨ a = .return w.id) := by
        rcases returned_of_workerEffect heffect hreturned with hstage | rfl
        · exact ⟨hR.decided w hw hstage, .inl hstage⟩
        · rcases hG w hw rfl with hsaved | hdecided
          · exact ⟨hI.runDecided_of_outcomeSaved hw hsaved, .inr rfl⟩
          · exact ⟨hdecided, .inr rfl⟩
      obtain ⟨hdecided, hstage⟩ := hbefore
      rw [(workerEffect_ids heffect).2.2]
      refine runDecided_of_step hI h hdecided fun w₂ hw₂ hrun hsaves ha => ?_
      -- the worker of a run is the only one that saves it, and this one has returned
      obtain ⟨job, hjob, hown, hrunId, -⟩ := hI.jobOfWorker w hw
      have hown₂ := (hI.job_of_worker_run hw₂ hjob (hrun.trans hrunId.symm)).1
      have hsame := hI.oneWorker w₂ hw₂ w hw (hown₂.trans hown)
      subst hsame
      rcases hstage with hstage | hreturn
      · simp [hstage, Stage.saves] at hsaves
      · rw [ha] at hreturn
        contradiction
    · contradiction

theorem running_or_ends (h : step s a = some s') {w : Worker} (hw : w ∈ s.workers) :
    s'.Running w.jobId ∨ a = .completeDeploymentJob w.id ∨ a = .crash w.id := by
  cases heffect : workerEffect s a w with
  | none => exact .inr (ends_of_workerEffect_none h hw heffect)
  | some w' =>
    obtain ⟨hid, hjobId, -⟩ := workerEffect_ids heffect
    have hget := get?_step_workers h w.id
    rw [Table.get?_of_mem hw, Option.bind_some, heffect, Option.some_or] at hget
    exact .inl ⟨w', Table.mem_of_get? hget, hjobId⟩

/-- **An idle job that a step finds open is ended together with its run.** -/
theorem runDecided_of_ended (hI : Invariant s) (h : step s a = some s')
    (hjob : job ∈ s.jobs) (hidle : ¬ s.Running job.id)
    (hopen : job.status.isTerminal = false)
    (hafter : (jobEffect s a job).status.isTerminal = true) : s'.RunDecided job.runId := by
  obtain ⟨row, hrow, hid, hqueued⟩ := hI.runOfJob job hjob
  have hdecided : (runEffect s a row).Decided := by
    cases a with
    | cancelQueuedDeployment runID =>
      simp only [jobEffect] at hafter
      split at hafter
      · grind [runEffect, cancelDeploymentRun, DeploymentRun.Decided, Status.isTerminal]
      · rw [hopen] at hafter
        contradiction
    | reapExpiredDeploymentJobs locked =>
      simp only [jobEffect] at hafter
      split at hafter
      · rename_i hmet
        obtain ⟨item, hitem, hitemId⟩ := hmet
        have hsame := Table.eq_of_key_eq (mem_of_mem_expiredWorkflowJobs hitem).1 hjob hitemId.symm
        subst hsame
        have hover : (runEffect s (.reapExpiredDeploymentJobs locked) row).status.isTerminal =
            true := by
          simp only [runEffect]
          split
          · rfl
          · rename_i hmet
            by_contra hnot
            exact hmet ⟨item, hitem, hid, by simpa using hnot⟩
        exact ⟨hover, decided_runEffect hI h hrow hover⟩
      · rw [hopen] at hafter
        contradiction
    | completeDeploymentJob executionID =>
      simp only [jobEffect] at hafter
      split at hafter
      · rw [hopen] at hafter
        contradiction
      · rename_i w hw
        split at hafter
        · rename_i hmet
          exact absurd ⟨w, Table.mem_of_get? hw, hmet.1.symm⟩ hidle
        · rw [hopen] at hafter
          contradiction
    | claimDeploymentJob workerID jobID executionID =>
      grind [jobEffect, leaseWorkflowJob, ExecutionJobs.JobStatus.isTerminal]
    | watchDeploymentJob executionID =>
      simp only [jobEffect] at hafter
      grind
    | _ =>
      rw [show jobEffect s _ job = job from rfl, hopen] at hafter
      contradiction
  exact ⟨_, mem_runEffect h hrow, (runEffect_id row).trans hid, hdecided⟩

/-- **One step keeps finished jobs settled.** -/
theorem settled_step (hI : Invariant s) (hR : Returned s) (hS : Settled s)
    (h : step s a = some s') (hG : KeepsSettled s a) : Settled s' := by
  intro job' hjob' hterminal hidle
  rcases job_of_step h hjob' with ⟨job, hjob, rfl⟩ | ⟨jobID, runID, rfl, rfl⟩
  · rw [(jobEffect_ids job).1] at hidle
    rw [(jobEffect_ids job).2]
    by_cases hrunning : s.Running job.id
    · -- the step ends the call of the job's worker, whose run is decided by then
      obtain ⟨w, hw, hjobId⟩ := hrunning
      have hrunId : w.runId = job.runId := by
        obtain ⟨owner, howner, hown, hrun, -⟩ := hI.jobOfWorker w hw
        rw [← hrun, Table.eq_of_key_eq howner hjob (hown.trans hjobId)]
      have hdecided : s.RunDecided w.runId := by
        rcases running_or_ends h hw with hgoes | rfl | rfl
        · exact absurd (hjobId ▸ hgoes) hidle
        · rcases step_complete h hw rfl with hstage | hstage
          · exact hG w hw rfl hstage
          · exact hR.decided w hw hstage
        · rcases hG w hw rfl with hopen | hdecided
          · rw [show jobEffect s (.crash w.id) job = job from rfl,
              hopen job hjob hjobId.symm] at hterminal
            contradiction
          · exact hdecided
      rw [← hrunId]
      refine runDecided_of_step hI h hdecided fun w₂ hw₂ _ _ ha => ?_
      rcases running_or_ends h hw with hgoes | hends | hends
      · exact hidle (hjobId ▸ hgoes)
      · rw [ha] at hends
        contradiction
      · rw [ha] at hends
        contradiction
    · cases hopen : job.status.isTerminal with
      | false => exact runDecided_of_ended hI h hjob hrunning hopen hterminal
      | true =>
        refine runDecided_of_step hI h (hS job hjob hopen hrunning) fun w hw hrun _ _ => ?_
        exact hrunning ⟨w, hw, (hI.job_of_worker_run hw hjob hrun).1⟩
  · contradiction

end Step

/-- **Finished jobs along a run of the deployment queue.**  Whatever is enqueued,
claimed, saved, cancelled, completed or reaped, and in whatever order: as long
as no failed load or lost save ends a call of `processDeploymentJob`, and no
worker is lost after its job, with the stored run undecided, every finished
job that no worker is running has a decided run in every state reached. -/
theorem settled_along (now : Time) (actions : List Action)
    (hkeeps : Along step (fun s a _ => KeepsSettled s a) (initial now) actions) :
    Along step (fun _ _ s' => Settled s') (initial now) actions := by
  refine Along.of_guard (I := fun s => Invariant s ∧ Returned s ∧ Settled s) ?_ ?_ hkeeps
  · intro s a s' ⟨hI, hR, hS⟩ h hG
    have hS' := settled_step hI hR hS h hG
    exact ⟨⟨invariant_step hI h hG, returned_step hI hR h hG, hS'⟩, hS'⟩
  · exact ⟨invariant_initial now, ⟨fun w hw => absurd hw (Table.not_mem_empty w)⟩,
      fun job hjob => absurd hjob (Table.not_mem_empty job)⟩

/-- A validation that is promoted, while another is cancelled in the queue and a
third is lost with its worker. -/
theorem settled_along_three :
    Along step (fun _ _ s' => Settled s') (initial 0)
      [.createQueuedDeploymentRun 1 1, .claimDeploymentJob 7 1 1, .getDeploymentRun 1, .start 1,
        .saveDeployment 1, .createQueuedDeploymentRun 2 2, .cancelQueuedDeployment 2,
        .finish 1 (.decided .allow), .saveDeployment 1, .return 1, .completeDeploymentJob 1,
        .createQueuedDeploymentRun 3 3, .claimDeploymentJob 7 3 2, .crash 2, .tick 90001,
        .reapExpiredDeploymentJobs []] :=
  settled_along 0 _ (by decide +kernel)

/-- The run of a claimed job cannot be loaded: the job is `FAILED` and nobody
will decide the run, which is still `QUEUED`. -/
theorem unloadable_run_undecided :
    ¬ ∀ now actions, Along step (fun _ _ s' => Settled s') (initial now) actions := by
  intro h
  have hrun := h 0 [.createQueuedDeploymentRun 1 1, .claimDeploymentJob 7 1 1,
    .completeDeploymentJob 1]
  revert hrun
  decide

end Rhythm.Suites.Deployment
