import Rhythm.ExecutionJobs.Invariant

/-!
# Rhythm.ExecutionJobs.Fencing

An execution whose lease was reclaimed may still be running.  The lease owner
fences its renewals and its completion off the job row, as long as the job is
not leased again by the same process; nothing fences its saves, or the run
update of a failed completion, off the run row.  `fenced_along_iff` gives the
exact states in which such a stale execution changes nothing.
-/

namespace Rhythm.ExecutionJobs

open Runs RunRepository

def Action.actor : Action → Option ExecutionId
  | .settle executionID _ _ _ => some executionID
  | .save executionID => some executionID
  | .return executionID _ => some executionID
  | .watchCancellation executionID => some executionID
  | .shutdown executionID => some executionID
  | .complete executionID => some executionID
  | .crash executionID => some executionID
  | _ => none

/-- The job row and the run status of the execution's job are the same in both
states. -/
def LeavesJobAlone (s s' : State) (e : Execution) : Prop :=
  s'.jobs.get? e.jobId = s.jobs.get? e.jobId ∧
    (s'.runs.get? e.runId).map MonitorRun.status = (s.runs.get? e.runId).map MonitorRun.status

instance (s s' : State) (e : Execution) : Decidable (LeavesJobAlone s s' e) :=
  inferInstanceAs (Decidable (_ ∧ _))

/-- A move of an execution that has lost its lease leaves its job alone. -/
def StaleIsFenced (s : State) (a : Action) (s' : State) : Prop :=
  ∀ e ∈ s.executions, e.leaseLost = true → a.actor = some e.id → LeavesJobAlone s s' e

instance (s : State) (a : Action) (s' : State) : Decidable (StaleIsFenced s a s') :=
  inferInstanceAs (Decidable (∀ e ∈ s.executions, _))

/-- The state holds nothing that the move of the execution `e` would change: a
save finds the status it writes; a renewal finds the lease in other hands (or
renewed to the very same time); a completion finds the lease in other hands
and, after an error, the run terminal. -/
def FencedOff (s : State) (a : Action) (e : Execution) : Prop :=
  match a with
  | .save _ => ∀ row, s.runs.get? e.runId = some row → e.run.status = row.status
  | .watchCancellation _ => ∀ job, s.jobs.get? e.jobId = some job →
      OwnLease e.workerID e.jobId job → job.leaseExpiresAt = some (s.now + leaseDuration)
  | .complete _ =>
      (∀ job, s.jobs.get? e.jobId = some job → job.leaseOwner ≠ some e.workerID) ∧
        (e.phase = .returned true →
          ∀ row, s.runs.get? e.runId = some row → row.status.isTerminal = true)
  | _ => True

/-- Every execution that has lost its lease is fenced off its own moves. -/
def StaleFencedOff (s : State) (a : Action) : Prop :=
  ∀ e ∈ s.executions, e.leaseLost = true → a.actor = some e.id → FencedOff s a e

section Step

variable {s s' : State} {a : Action} {e : Execution}

theorem leavesJobAlone_iff (hI : Invariant s) (h : step s a = some s') (he : e ∈ s.executions) :
    LeavesJobAlone s s' e ↔
      (∀ job, s.jobs.get? e.jobId = some job → jobEffect s a job = job) ∧
        ∀ row, s.runs.get? e.runId = some row → (runEffect s a row).status = row.status := by
  obtain ⟨job, hjob, hid, hrunId⟩ := hI.jobOfExecution e he
  obtain ⟨row, hrow⟩ := hI.runOfJob job hjob
  have hget : s.jobs.get? e.jobId = some job := hid ▸ Table.get?_of_mem hjob
  rw [hrunId] at hrow
  simp only [LeavesJobAlone, get?_jobEffect h hget, hget, get?_runEffect h hI.runStored hrow, hrow,
    Option.map_some, Option.some.injEq, forall_eq']

theorem status_runEffect_save (hI : Invariant s) (he : e ∈ s.executions) {row : MonitorRun}
    (hrow : s.runs.get? e.runId = some row) :
    (runEffect s (.save e.id) row).status = e.run.status := by
  simp only [runEffect, Table.get?_of_mem he, hI.runOfExecution e he, Table.key_of_get? hrow,
    if_true, savedRow_status]

/-- A renewal changes a job exactly when the lease is the execution's own and would expire at
another time. -/
theorem jobEffect_watchCancellation_eq_iff (he : e ∈ s.executions) (job : ExecutionJob) :
    jobEffect s (.watchCancellation e.id) job = job ↔
      (OwnLease e.workerID e.jobId job → job.leaseExpiresAt = some (s.now + leaseDuration)) := by
  simp only [jobEffect, Table.get?_of_mem he]
  by_cases hown : OwnLease e.workerID e.jobId job
  · simp only [hown, if_true, true_implies, renewLease]
    constructor
    · exact fun heq => (congrArg ExecutionJob.leaseExpiresAt heq).symm
    · intro heq
      rw [← heq]
  · simp [hown]

theorem jobEffect_complete_eq_iff (he : e ∈ s.executions) {job : ExecutionJob}
    (hjob : s.jobs.get? e.jobId = some job) :
    jobEffect s (.complete e.id) job = job ↔ job.leaseOwner ≠ some e.workerID := by
  simp only [jobEffect, Table.get?_of_mem he, Table.key_of_get? hjob, true_and]
  by_cases howner : job.leaseOwner = some e.workerID
  · simp only [howner, if_true, ne_eq, not_true_eq_false, iff_false]
    intro heq
    have hnone := congrArg ExecutionJob.leaseOwner heq
    rw [howner] at hnone
    contradiction
  · simp [howner]

/-- A completion changes the status of its run exactly when the execution failed and the run is
not terminal. -/
theorem status_runEffect_complete_eq_iff (he : e ∈ s.executions) {row : MonitorRun}
    (hrow : s.runs.get? e.runId = some row) :
    (runEffect s (.complete e.id) row).status = row.status ↔
      (e.phase = .returned true → row.status.isTerminal = true) := by
  simp only [runEffect, Table.get?_of_mem he, Table.key_of_get? hrow, true_and]
  by_cases hit : e.phase = .returned true ∧ row.status.isTerminal = false
  · obtain ⟨hphase, hopen⟩ := hit
    have hne : Status.aborted ≠ row.status := fun heq => by
      rw [← heq] at hopen
      contradiction
    simp [hphase, hopen, hne]
  · simp only [hit, if_false, true_iff]
    grind

/-- **One stale move.** -/
theorem leavesJobAlone_iff_fencedOff (hI : Invariant s) (h : step s a = some s')
    (he : e ∈ s.executions) (hactor : a.actor = some e.id) :
    LeavesJobAlone s s' e ↔ FencedOff s a e := by
  rw [leavesJobAlone_iff hI h he]
  cases a with
  | save executionID =>
    rw [Action.actor, Option.some.injEq] at hactor
    subst hactor
    constructor
    · intro ⟨_, hruns⟩ row hrow
      exact (status_runEffect_save hI he hrow).symm.trans (hruns row hrow)
    · intro hfenced
      exact ⟨fun _ _ => rfl,
        fun row hrow => (status_runEffect_save hI he hrow).trans (hfenced row hrow)⟩
  | watchCancellation executionID =>
    rw [Action.actor, Option.some.injEq] at hactor
    subst hactor
    simp only [jobEffect_watchCancellation_eq_iff he, FencedOff]
    exact ⟨fun hfenced => hfenced.1, fun hfenced => ⟨hfenced, fun _ _ => rfl⟩⟩
  | complete executionID =>
    rw [Action.actor, Option.some.injEq] at hactor
    subst hactor
    have hjobs : (∀ job, s.jobs.get? e.jobId = some job →
          jobEffect s (.complete e.id) job = job) ↔
        ∀ job, s.jobs.get? e.jobId = some job → job.leaseOwner ≠ some e.workerID :=
      forall₂_congr fun _ hjob => jobEffect_complete_eq_iff he hjob
    have hruns : (∀ row, s.runs.get? e.runId = some row →
          (runEffect s (.complete e.id) row).status = row.status) ↔
        ∀ row, s.runs.get? e.runId = some row →
          e.phase = .returned true → row.status.isTerminal = true :=
      forall₂_congr fun _ hrow => status_runEffect_complete_eq_iff he hrow
    rw [hjobs, hruns, FencedOff]
    exact and_congr_right fun _ => ⟨fun h hphase row hrow => h row hrow hphase,
      fun h row hrow hphase => h hphase row hrow⟩
  | claim | requestCancel | reclaimExpiredBatch | tick | enqueue => contradiction
  | settle | «return» | shutdown | crash =>
    exact iff_of_true ⟨fun _ _ => rfl, fun _ _ => rfl⟩ trivial

/-- A step changes nothing through a stale execution exactly when all stale
executions are fenced off. -/
theorem staleIsFenced_iff (hI : Invariant s) (h : step s a = some s') :
    StaleIsFenced s a s' ↔ StaleFencedOff s a :=
  forall₄_congr fun _ he _ hactor => leavesJobAlone_iff_fencedOff hI h he hactor

end Step

/-- **Fencing along a run of the queue.**  For any number of workers and any
order of claims, renewals, expiries, reclaims, saves and completions: no move
of an execution that has lost its lease changes its job row or the status of
its run, exactly when the execution is fenced off in the state it moves in. -/
theorem fenced_along_iff (now : Time) (actions : List Action) :
    Along step StaleIsFenced (initial now) actions ↔
      Along step (fun s a _ => StaleFencedOff s a) (initial now) actions :=
  along_iff_along (I := Invariant) (fun _ _ _ => invariant_step)
    (fun _ _ _ => staleIsFenced_iff) (invariant_initial now)

/-- The job is re-leased by another process, which brings the run to `SUCCESS`;
the next save of the stale execution makes it `RUNNING` again. -/
theorem stale_save_overwrites_result :
    ¬ ∀ now actions, Along step StaleIsFenced (initial now) actions := by
  intro h
  have hrun := h 0 [.enqueue 1 1 sampleRequest, .claim 7 1 1, .save 1, .tick 90001,
    .reclaimExpiredBatch [], .claim 8 1 2, .save 2, .settle 2 .success "" "", .save 2, .save 1]
  revert hrun
  decide

end Rhythm.ExecutionJobs
