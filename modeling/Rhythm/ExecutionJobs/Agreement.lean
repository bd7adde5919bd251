import Rhythm.ExecutionJobs.Invariant

/-!
# Rhythm.ExecutionJobs.Agreement

A terminal job and its run.  When a job has ended and no worker is executing
it any more, nothing in the queue will move its run again, so the run should
be final by then.  Three kinds of step can leave it behind: a claim that skips,
or a cancellation that ends, a job whose run an earlier, lost execution had
already started; and the end of the last execution of a job that another
transaction has ended.  `jobRunAgree_along_iff` says that these, and no
others, break the agreement.
-/

namespace Rhythm.ExecutionJobs

open Runs RunRepository

/-! ## Executions and runs of a job -/

def State.Executing (s : State) (jobID : JobId) : Prop := ∃ e ∈ s.executions, e.jobId = jobID

instance (s : State) (jobID : JobId) : Decidable (s.Executing jobID) :=
  inferInstanceAs (Decidable (∃ e ∈ s.executions, _))

/-- Some worker other than the execution `executionID` is executing the job. -/
def State.ExecutingOther (s : State) (executionID : ExecutionId) (jobID : JobId) : Prop :=
  ∃ e ∈ s.executions, e.id ≠ executionID ∧ e.jobId = jobID

def State.RunFinal (s : State) (runID : RunId) : Prop :=
  (s.runs.get? runID).any (fun row => row.status.isFinal) = true

instance (s : State) (runID : RunId) : Decidable (s.RunFinal runID) :=
  inferInstanceAs (Decidable (_ = true))

def State.RunPending (s : State) (runID : RunId) : Prop :=
  (s.runs.get? runID).any (fun row => row.status.isPending) = true

/-- Every terminal job that no worker is executing has a final run. -/
def JobRunAgree (s : State) : Prop :=
  ∀ job ∈ s.jobs, job.status.isTerminal = true → ¬ s.Executing job.id → s.RunFinal job.runId

instance (s : State) : Decidable (JobRunAgree s) :=
  inferInstanceAs (Decidable (∀ job ∈ s.jobs, _))

/-- The condition on the state under which an action keeps a job and its run in
agreement. -/
def KeepsJobAgreement (s : State) (a : Action) (job : ExecutionJob) : Prop :=
  match a with
  | .claim _ jobID _ => job.id = jobID → claimDecision s.now s.jobs job = .skip →
      s.Executing job.id ∨ s.RunFinal job.runId ∨ s.RunPending job.runId
  | .requestCancel runID => job.runId = runID → job.status = .queued →
      s.Executing job.id ∨ s.RunFinal job.runId ∨ s.RunPending job.runId
  | .complete executionID => ∀ e, s.executions.get? executionID = some e → e.jobId = job.id →
      e.phase = .returned false →
      s.ExecutingOther executionID job.id ∨ s.RunFinal job.runId ∨
        (job.status.isTerminal = false ∧ job.leaseOwner ≠ some e.workerID)
  | .crash executionID => ∀ e, s.executions.get? executionID = some e → e.jobId = job.id →
      s.ExecutingOther executionID job.id ∨ s.RunFinal job.runId ∨ job.status.isTerminal = false
  | _ => True

def KeepsAgreement (s : State) (a : Action) : Prop := ∀ job ∈ s.jobs, KeepsJobAgreement s a job

section Step

variable {s s' : State} {a : Action} {job : ExecutionJob} {row : MonitorRun}

variable {runID : RunId}

theorem runFinal_iff (hrow : s.runs.get? runID = some row) :
    s.RunFinal runID ↔ row.status.isFinal = true := by
  simp [State.RunFinal, hrow]

theorem runPending_iff (hrow : s.runs.get? runID = some row) :
    s.RunPending runID ↔ row.status.isPending = true := by
  simp [State.RunPending, hrow]

/-! ## Who executes a job after a step -/

variable {jobID : JobId}

theorem executing_of_step (h : step s a = some s') (hexecuting : s.Executing jobID)
    (hends : ∀ executionID, a ≠ .complete executionID ∧ a ≠ .crash executionID) :
    s'.Executing jobID := by
  obtain ⟨e, he, hjobId⟩ := hexecuting
  cases heffect : executionEffect s a e with
  | none =>
    cases a with
    | complete executionID => exact absurd rfl (hends executionID).1
    | crash executionID => exact absurd rfl (hends executionID).2
    | _ => simp [executionEffect] at heffect
  | some e' =>
    exact ⟨e', mem_of_executionEffect h he heffect, (executionEffect_ids heffect).2.1.trans hjobId⟩

theorem executing_before_step (h : step s a = some s') (hexecuting : s'.Executing jobID) :
    s.Executing jobID ∨ ∃ workerID executionID job, job ∈ s.jobs ∧ job.id = jobID ∧
      a = .claim workerID jobID executionID ∧ claimDecision s.now s.jobs job = .lease := by
  obtain ⟨e', he', hjobId⟩ := hexecuting
  rcases execution_of_step h he' with
    ⟨e, he, heffect⟩ | ⟨workerID, executionID, job, hjob, rfl, hlease, rfl⟩
  · exact .inl ⟨e, he, (executionEffect_ids heffect).2.1.symm.trans hjobId⟩
  · subst hjobId
    exact .inr ⟨workerID, executionID, job, hjob, rfl, rfl, hlease⟩

variable {executionID : ExecutionId}

theorem executing_iff_executingOther (h : step s a = some s')
    (ha : a = .complete executionID ∨ a = .crash executionID) (jobID : JobId) :
    s'.Executing jobID ↔ s.ExecutingOther executionID jobID := by
  have heffect : ∀ e, executionEffect s a e = if e.id = executionID then none else some e := by
    rcases ha with rfl | rfl <;> exact fun _ => rfl
  constructor
  · intro ⟨e', he', hjobId⟩
    rcases execution_of_step h he' with ⟨e, he, hsome⟩ | ⟨_, _, _, _, hclaim, -⟩
    · rw [heffect, refused_eq_some_iff] at hsome
      obtain ⟨hid, rfl⟩ := hsome
      exact ⟨e, he, hid, hjobId⟩
    · rcases ha with rfl | rfl <;> contradiction
  · intro ⟨e, he, hid, hjobId⟩
    exact ⟨e, mem_of_executionEffect h he (by rw [heffect, if_neg hid]), hjobId⟩

/-! ## One job after a step -/

def AgreesAfter (s s' : State) (a : Action) (job : ExecutionJob) (row : MonitorRun) : Prop :=
  (jobEffect s a job).status.isTerminal = true → ¬ s'.Executing job.id →
    (runEffect s a row).status.isFinal = true

theorem isFinal_runEffect (hsave : ∀ executionID, a ≠ .save executionID)
    (hfinal : row.status.isFinal = true) : (runEffect s a row).status.isFinal = true := by
  cases a with
  | save executionID => exact absurd rfl (hsave executionID)
  | claim workerID jobID executionID | reclaimExpiredBatch locked =>
    simp only [runEffect]
    split
    · rfl
    · exact hfinal
  | complete executionID =>
    simp only [runEffect]
    split
    · split
      · rfl
      · exact hfinal
    · exact hfinal
  | requestCancel runID =>
    simp only [runEffect]
    split
    · by_cases hpending : row.status.isPending = true
      · simp only [cancelRun, if_pos hpending]
        rfl
      · simp only [cancelRun, if_neg hpending]
        exact hfinal
    · exact hfinal
  | _ => exact hfinal

/-- The agreement of one job with its run before the step. -/
def AgreesBefore (s : State) (job : ExecutionJob) (row : MonitorRun) : Prop :=
  job.status.isTerminal = true → ¬ s.Executing job.id → row.status.isFinal = true

theorem agreesAfter_of_open (h : step s a = some s') (hagree : AgreesBefore s job row)
    (hsave : ∀ executionID, a ≠ .save executionID)
    (hends : ∀ executionID, a ≠ .complete executionID ∧ a ≠ .crash executionID)
    (hterminal : (jobEffect s a job).status.isTerminal = true → job.status.isTerminal = true) :
    AgreesAfter s s' a job row := fun hafter hidle =>
  isFinal_runEffect hsave
    (hagree (hterminal hafter) fun hexecuting => hidle (executing_of_step h hexecuting hends))

theorem agreesAfter_save (hI : Invariant s)
    (h : step s (.save executionID) = some s') (hjob : job ∈ s.jobs)
    (hrow : s.runs.get? job.runId = some row) (hagree : AgreesBefore s job row) :
    AgreesAfter s s' (.save executionID) job row := by
  intro hafter hidle
  obtain ⟨e, he, -, -⟩ := step_save h
  have hends : ∀ id, Action.save executionID ≠ .complete id ∧ Action.save executionID ≠ .crash id :=
    fun id => ⟨by simp, by simp⟩
  by_cases hid : row.id = e.run.id
  · -- the saved run is the run of this job, which `e` is executing
    obtain ⟨owner, howner, hownerId, hownerRun⟩ := hI.jobOfExecution e (Table.mem_of_get? he)
    have hsame : owner = job := hI.jobOfRun owner howner job hjob <| by
      rw [hownerRun, ← hI.runOfExecution e (Table.mem_of_get? he), ← hid, Table.key_of_get? hrow]
    exact absurd (executing_of_step h ⟨e, Table.mem_of_get? he, hsame ▸ hownerId.symm⟩ hends) hidle
  · simp only [runEffect, he, if_neg hid]
    exact hagree hafter fun hexecuting => hidle (executing_of_step h hexecuting hends)

theorem agreesAfter_claim_iff {workerID : WorkerId}
    (h : step s (.claim workerID jobID executionID) = some s') (hjob : job ∈ s.jobs)
    (hrow : s.runs.get? job.runId = some row) (hagree : AgreesBefore s job row) :
    AgreesAfter s s' (.claim workerID jobID executionID) job row ↔
      KeepsJobAgreement s (.claim workerID jobID executionID) job := by
  have hopen := agreesAfter_of_open h hagree (fun id => by simp) (fun id => ⟨by simp, by simp⟩)
  by_cases hid : job.id = jobID
  · subst hid
    have heffect : jobEffect s (.claim workerID job.id executionID) job =
        claimedJob s.now workerID s.jobs job := if_pos rfl
    cases hdecision : claimDecision s.now s.jobs job with
    | skip =>
      have hexecuting : s'.Executing job.id ↔ s.Executing job.id := by
        constructor
        · intro hex
          rcases executing_before_step h hex with
            hbefore | ⟨_, _, leased, hmem, hleasedId, _, hlease⟩
          · exact hbefore
          · have hsame := Table.eq_of_key_eq hmem hjob hleasedId
            rw [hsame, hdecision] at hlease
            contradiction
        · exact fun hex => executing_of_step h hex fun id => ⟨by simp, by simp⟩
      have hskips : SkipsRun s.now job.id s.jobs row ↔ row.status.isPending = true := by
        simp [SkipsRun, Table.get?_of_mem hjob, hdecision, Table.key_of_get? hrow]
      have hterminal : (claimedJob s.now workerID s.jobs job).status.isTerminal = true := by
        rw [claimedJob, hdecision]
        rfl
      simp only [AgreesAfter, heffect, hterminal, hexecuting, KeepsJobAgreement, hdecision,
        runFinal_iff hrow, runPending_iff hrow, runEffect, hskips, true_implies]
      by_cases hpending : row.status.isPending = true
      · simp [hpending, Status.isFinal]
      · simp only [hpending, if_false, or_false, Bool.false_eq_true]
        exact Classical.or_iff_not_imp_left.symm
    | refuse | defer =>
      simp only [KeepsJobAgreement, hdecision, reduceCtorEq, false_implies, implies_true, iff_true]
      refine hopen fun hafter => ?_
      rw [heffect, claimedJob, hdecision] at hafter
      exact hafter
    | lease =>
      simp only [KeepsJobAgreement, hdecision, reduceCtorEq, false_implies, implies_true, iff_true]
      refine hopen fun hafter => ?_
      rw [heffect, claimedJob, hdecision] at hafter
      exact absurd hafter Bool.false_ne_true
  · have heffect : jobEffect s (.claim workerID jobID executionID) job = job := if_neg hid
    simp only [KeepsJobAgreement, hid, false_implies, iff_true]
    exact hopen fun hafter => heffect ▸ hafter

theorem agreesAfter_requestCancel_iff (h : step s (.requestCancel runID) = some s')
    (hrow : s.runs.get? job.runId = some row) (hagree : AgreesBefore s job row) :
    AgreesAfter s s' (.requestCancel runID) job row ↔
      KeepsJobAgreement s (.requestCancel runID) job := by
  have hopen := agreesAfter_of_open h hagree (fun id => by simp) (fun id => ⟨by simp, by simp⟩)
  by_cases hqueued : job.runId = runID ∧ job.status = .queued
  · obtain ⟨rfl, hqueued⟩ := hqueued
    have hexecuting : s'.Executing job.id ↔ s.Executing job.id := by
      constructor
      · intro hex
        rcases executing_before_step h hex with hbefore | ⟨_, _, _, _, _, hclaim, _⟩
        · exact hbefore
        · contradiction
      · exact fun hex => executing_of_step h hex fun id => ⟨by simp, by simp⟩
    cases hterminal : row.status.isTerminal with
    | true =>
      -- a terminal run refuses the cancellation and is final already
      have hfinal := Status.isFinal_of_isTerminal hterminal
      have hnot : (requestCancel s.now job.runId s.toDatabase).1 ≠ true := fun haccepted => by
        obtain ⟨row', hrow', hopen'⟩ := requestCancel_fst_iff.mp haccepted
        rw [hrow, Option.some.injEq] at hrow'
        rw [← hrow', hterminal] at hopen'
        contradiction
      simp [AgreesAfter, KeepsJobAgreement, jobEffect, hnot, hqueued, JobStatus.isTerminal,
        runFinal_iff hrow, hfinal]
    | false =>
      have haccepted : (requestCancel s.now job.runId s.toDatabase).1 = true :=
        requestCancel_fst_iff.mpr ⟨row, hrow, hterminal⟩
      have hended : (jobEffect s (.requestCancel job.runId) job).status.isTerminal = true := by
        simp [jobEffect, haccepted, hqueued, cancelJob, JobStatus.isTerminal]
      have hcancels : row.id = job.runId ∧ row.status.isTerminal = false :=
        ⟨Table.key_of_get? hrow, hterminal⟩
      simp only [AgreesAfter, hended, hexecuting, KeepsJobAgreement, hqueued, true_implies,
        runFinal_iff hrow, runPending_iff hrow, runEffect, if_pos hcancels, cancelRun]
      by_cases hpending : row.status.isPending = true
      · simp [hpending, Status.isFinal, Status.isTerminal]
      · simp only [hpending, if_false, or_false, Bool.false_eq_true]
        exact Classical.or_iff_not_imp_left.symm
  · have hkeeps : KeepsJobAgreement s (.requestCancel runID) job := fun hrun hstatus =>
      absurd ⟨hrun, hstatus⟩ hqueued
    refine iff_of_true (hopen fun hafter => ?_) hkeeps
    simp only [jobEffect] at hafter
    split at hafter
    · rename_i hit
      have hleased : job.status ≠ .queued := fun hstatus => hqueued ⟨hit.2.1, hstatus⟩
      simpa only [cancelJob, if_neg hleased] using hafter
    · exact hafter

theorem agreesAfter_reclaimExpiredBatch {locked : List JobId}
    (h : step s (.reclaimExpiredBatch locked) = some s')
    (hrow : s.runs.get? job.runId = some row) (hagree : AgreesBefore s job row) :
    AgreesAfter s s' (.reclaimExpiredBatch locked) job row := by
  intro hafter hidle
  by_cases hlost : job ∈ expiredBatch s.now locked s.jobs ∧ job.payload.recoverySafe = false
  · obtain ⟨hmem, hunsafe⟩ := hlost
    by_cases hterminal : row.status.isTerminal = true
    · exact isFinal_runEffect (fun id => by simp) (Status.isFinal_of_isTerminal hterminal)
    · have haborts : AbortsRun (expiredBatch s.now locked s.jobs) row :=
        ⟨⟨job, hmem, hunsafe, (Table.key_of_get? hrow).symm⟩, by simpa using hterminal⟩
      rw [runEffect, if_pos haborts]
      rfl
  · refine agreesAfter_of_open h hagree (fun id => by simp) (fun id => ⟨by simp, by simp⟩)
      (fun hended => ?_) hafter hidle
    simp only [jobEffect] at hended
    split at hended
    · rename_i hmem
      have hsafe : job.payload.recoverySafe = true := by
        by_contra hunsafe
        exact hlost ⟨hmem, by simpa using hunsafe⟩
      rw [reclaimJob, if_pos hsafe] at hended
      exact absurd hended Bool.false_ne_true
    · exact hended

theorem agreesAfter_of_ended_other
    (h : step s a = some s') (ha : a = .complete executionID ∨ a = .crash executionID)
    (hagree : AgreesBefore s job row) {e : Execution}
    (he : s.executions.get? executionID = some e) (hother : e.jobId ≠ job.id) :
    AgreesAfter s s' a job row := by
  intro hafter hidle
  have hjobEffect : jobEffect s a job = job := by
    rcases ha with rfl | rfl
    · simp only [jobEffect, he, if_neg fun hit : job.id = e.jobId ∧ _ => hother hit.1.symm]
    · rfl
  rw [hjobEffect] at hafter
  have hbefore : ¬ s.Executing job.id := by
    rintro ⟨e', he', hid⟩
    refine hidle ((executing_iff_executingOther h ha job.id).mpr ⟨e', he', fun hsame => ?_, hid⟩)
    have heq : e' = e :=
      Table.eq_of_key_eq he' (Table.mem_of_get? he) (hsame.trans (Table.key_of_get? he).symm)
    exact hother (heq ▸ hid)
  exact isFinal_runEffect (by rcases ha with rfl | rfl <;> simp) (hagree hafter hbefore)

theorem agreesAfter_complete_iff (hI : Invariant s)
    (h : step s (.complete executionID) = some s') (hjob : job ∈ s.jobs)
    (hrow : s.runs.get? job.runId = some row) (hagree : AgreesBefore s job row) :
    AgreesAfter s s' (.complete executionID) job row ↔
      KeepsJobAgreement s (.complete executionID) job := by
  obtain ⟨e, runErr, he, hphase, -⟩ := step_complete h
  by_cases hown : e.jobId = job.id
  · obtain ⟨owner, howner, hownerId, hownerRun⟩ := hI.jobOfExecution e (Table.mem_of_get? he)
    obtain rfl : owner = job := Table.eq_of_key_eq howner hjob (hownerId.trans hown)
    have hother := executing_iff_executingOther h (.inl rfl) owner.id
    cases runErr with
    | true =>
      have hfinal : (runEffect s (.complete executionID) row).status.isFinal = true := by
        by_cases hterminal : row.status.isTerminal = true
        · exact isFinal_runEffect (fun id => by simp) (Status.isFinal_of_isTerminal hterminal)
        · have hid : row.id = e.runId := (Table.key_of_get? hrow).trans hownerRun
          have haborts : e.phase = .returned true ∧ row.id = e.runId ∧
              row.status.isTerminal = false := ⟨hphase, hid, by simpa using hterminal⟩
          simp only [runEffect, he, if_pos haborts]
          rfl
      have hkeeps : KeepsJobAgreement s (.complete executionID) owner := by
        intro e' he' _ hphase'
        rw [he, Option.some.injEq] at he'
        rw [← he', hphase] at hphase'
        contradiction
      exact iff_of_true (fun _ _ => hfinal) hkeeps
    | false =>
      have hrun : runEffect s (.complete executionID) row = row := by
        simp [runEffect, he, hphase]
      have hended : (jobEffect s (.complete executionID) owner).status.isTerminal = true ↔
          owner.status.isTerminal = true ∨ owner.leaseOwner = some e.workerID := by
        grind [jobEffect, completeJob, completedStatus, JobStatus.isTerminal]
      have hkeeps : KeepsJobAgreement s (.complete executionID) owner ↔
          (s.ExecutingOther executionID owner.id ∨ row.status.isFinal = true ∨
            (owner.status.isTerminal = false ∧ owner.leaseOwner ≠ some e.workerID)) := by
        rw [← runFinal_iff hrow]
        constructor
        · exact fun hkeeps => hkeeps e he hown hphase
        · intro hcases e' he' _ _
          rw [he, Option.some.injEq] at he'
          exact he' ▸ hcases
      rw [hkeeps, AgreesAfter, hrun, hended, hother]
      grind
  · refine iff_of_true (agreesAfter_of_ended_other h (.inl rfl) hagree he hown) ?_
    intro e' he' hown'
    rw [he, Option.some.injEq] at he'
    exact absurd (he' ▸ hown') hown

theorem agreesAfter_crash_iff
    (h : step s (.crash executionID) = some s') (hrow : s.runs.get? job.runId = some row)
    (hagree : AgreesBefore s job row) :
    AgreesAfter s s' (.crash executionID) job row ↔
      KeepsJobAgreement s (.crash executionID) job := by
  have hother := executing_iff_executingOther h (.inr rfl) job.id
  cases he : s.executions.get? executionID with
  | none =>
    rw [step, he] at h
    contradiction
  | some e =>
    by_cases hown : e.jobId = job.id
    · have hkeeps : KeepsJobAgreement s (.crash executionID) job ↔
          (s.ExecutingOther executionID job.id ∨ row.status.isFinal = true ∨
            job.status.isTerminal = false) := by
        rw [← runFinal_iff hrow]
        constructor
        · exact fun hkeeps => hkeeps e he hown
        · intro hcases e' he' _
          exact hcases
      have hafter : AgreesAfter s s' (.crash executionID) job row ↔
          (job.status.isTerminal = true → ¬ s'.Executing job.id → row.status.isFinal = true) :=
        Iff.rfl
      rw [hkeeps, hafter, hother]
      grind
    · refine iff_of_true (agreesAfter_of_ended_other h (.inr rfl) hagree he hown) ?_
      intro e' he' hown'
      rw [he, Option.some.injEq] at he'
      exact absurd (he' ▸ hown') hown

/-- **One job after one step.** -/
theorem agreesAfter_iff (hI : Invariant s) (h : step s a = some s') (hjob : job ∈ s.jobs)
    (hrow : s.runs.get? job.runId = some row) (hagree : AgreesBefore s job row) :
    AgreesAfter s s' a job row ↔ KeepsJobAgreement s a job := by
  cases a with
  | claim workerID jobID executionID => exact agreesAfter_claim_iff h hjob hrow hagree
  | requestCancel runID => exact agreesAfter_requestCancel_iff h hrow hagree
  | complete executionID => exact agreesAfter_complete_iff hI h hjob hrow hagree
  | crash executionID => exact agreesAfter_crash_iff h hrow hagree
  | reclaimExpiredBatch locked =>
    exact iff_of_true (agreesAfter_reclaimExpiredBatch h hrow hagree) trivial
  | save executionID => exact iff_of_true (agreesAfter_save hI h hjob hrow hagree) trivial
  | watchCancellation executionID =>
    refine iff_of_true (agreesAfter_of_open h hagree (fun id => by simp)
      (fun id => ⟨by simp, by simp⟩) fun hafter => ?_) trivial
    simp only [jobEffect] at hafter
    split at hafter
    · split at hafter <;> exact hafter
    · exact hafter
  | _ =>
    exact iff_of_true (agreesAfter_of_open h hagree (fun id => by simp)
      (fun id => ⟨by simp, by simp⟩) id) trivial

theorem jobRunAgree_step_iff (hI : Invariant s) (hagree : JobRunAgree s)
    (h : step s a = some s') : JobRunAgree s' ↔ KeepsAgreement s a := by
  have hbefore : ∀ job ∈ s.jobs, ∀ row, s.runs.get? job.runId = some row →
      AgreesBefore s job row := fun job hjob row hrow hterminal hidle =>
    (runFinal_iff hrow).mp (hagree job hjob hterminal hidle)
  constructor
  · intro hafter job hjob
    obtain ⟨row, hrow⟩ := hI.runOfJob job hjob
    rw [← agreesAfter_iff hI h hjob hrow (hbefore job hjob row hrow)]
    intro hterminal hidle
    have hsame := sameJob_jobEffect s a job
    have hmem := Table.mem_of_get? (get?_jobEffect h (Table.get?_of_mem hjob))
    have hfinal := hafter _ hmem hterminal (hsame.id_eq ▸ hidle)
    rw [hsame.runId_eq] at hfinal
    exact (runFinal_iff (get?_runEffect h hI.runStored hrow)).mp hfinal
  · intro hkeeps job' hjob' hterminal hidle
    rcases job_of_step h hjob' with ⟨job, hjob, rfl⟩ | ⟨jobID, runID, request, -, rfl⟩
    · obtain ⟨row, hrow⟩ := hI.runOfJob job hjob
      have hsame := sameJob_jobEffect s a job
      have hafter := (agreesAfter_iff hI h hjob hrow (hbefore job hjob row hrow)).mpr
        (hkeeps job hjob)
      rw [hsame.runId_eq, runFinal_iff (get?_runEffect h hI.runStored hrow)]
      exact hafter hterminal (hsame.id_eq ▸ hidle)
    · contradiction

end Step

theorem jobRunAgree_initial (now : Time) : JobRunAgree (initial now) :=
  fun job hjob => absurd hjob (Table.not_mem_empty job)

/-- **Jobs and runs along a run of the queue.**  Over any jobs and workers and
any order of steps, every terminal job that no worker is executing has a final
run in every state reached, exactly when every step keeps the agreement. -/
theorem jobRunAgree_along_iff (now : Time) (actions : List Action) :
    Along step (fun _ _ s' => JobRunAgree s') (initial now) actions ↔
      Along step (fun s a _ => KeepsAgreement s a) (initial now) actions :=
  along_state_iff_along (I := Invariant) (fun _ _ _ => invariant_step)
    (fun _ _ _ => jobRunAgree_step_iff) (invariant_initial now) (jobRunAgree_initial now)

/-- A recovery-safe run is started, its worker is lost, and its job is queued
again: a cancellation then ends the job and leaves the run `RUNNING`. -/
theorem running_after_cancelled_job :
    ¬ ∀ now actions, Along step (fun _ _ s' => JobRunAgree s') (initial now) actions := by
  intro h
  have hrun := h 0 [.enqueue 1 1 sampleRequest, .claim 7 1 1, .save 1, .crash 1, .tick 90001,
    .reclaimExpiredBatch [], .requestCancel 1]
  revert hrun
  decide

end Rhythm.ExecutionJobs
