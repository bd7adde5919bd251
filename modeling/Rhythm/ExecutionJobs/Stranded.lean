import Rhythm.ExecutionJobs.Invariant

/-!
# Rhythm.ExecutionJobs.Stranded

A queued job is one that somebody will take.  The poll query and the leasing
`UPDATE` of `claim` both leave out jobs with a cancellation request, so a job
that is `QUEUED` with `cancel_requested_at` set would wait for ever.
`RequestCancel` never leaves one behind, since it cancels a queued job on the
spot; `reclaimExpiredBatch` does when it queues a leased job again whose
cancellation had been requested (`noneStranded_along_iff`).
-/

namespace Rhythm.ExecutionJobs

open Runs RunRepository

def NoneStranded (s : State) : Prop :=
  ∀ job ∈ s.jobs, job.status = .queued → job.cancelRequestedAt = none

instance (s : State) : Decidable (NoneStranded s) :=
  inferInstanceAs (Decidable (∀ job ∈ s.jobs, _))

/-- From the time it is available, a poll query with room for all jobs returns
the job and no claim of it comes back empty-handed. -/
def Takeable (s : State) (job : ExecutionJob) : Prop :=
  ∀ t, job.availableAt ≤ t →
    (∀ available, s.jobs.rows.length ≤ available →
      job.id ∈ poll t job.queueClass available s.jobs) ∧
    ∀ workerID, (claim t workerID job.id s.toDatabase).1 ≠ .unavailable

/-- The action queues no job again whose cancellation was requested. -/
def RequeuesUncancelled (s : State) (a : Action) : Prop :=
  match a with
  | .reclaimExpiredBatch locked => ∀ job ∈ expiredBatch s.now locked s.jobs,
      job.payload.recoverySafe = true → job.cancelRequestedAt = none
  | _ => True

section Step

variable {s s' : State} {a : Action} {job : ExecutionJob}

theorem mem_poll {now : Time} {available : Nat} (hjob : job ∈ s.jobs)
    (hpollable : Pollable now job.queueClass job) (hroom : s.jobs.rows.length ≤ available) :
    job.id ∈ poll now job.queueClass available s.jobs := by
  refine List.mem_map.mpr ⟨job, ?_, rfl⟩
  rw [List.take_of_length_le]
  · rw [List.mem_insertionSort]
    exact List.mem_filter.mpr ⟨hjob, by simpa using hpollable⟩
  · rw [List.length_insertionSort]
    exact (List.length_filter_le _ _).trans hroom

theorem takeable_of_uncancelled (hjob : job ∈ s.jobs) (hqueued : job.status = .queued)
    (hcancel : job.cancelRequestedAt = none) : Takeable s job := by
  intro t havailable
  refine ⟨fun available => mem_poll hjob ⟨rfl, hqueued, hcancel, havailable⟩, fun workerID => ?_⟩
  have hdecision : claimDecision t s.jobs job ≠ .refuse := by
    grind [claimDecision]
  rw [claim_eq (Table.get?_of_mem hjob)]
  cases h : claimDecision t s.jobs job with
  | refuse => exact absurd h hdecision
  | skip | defer | lease => simp

/-- **One job.**  A step leaves an unstranded job stranded only by queueing it
again with its cancellation request. -/
theorem stranded_jobEffect_iff
    (hjob : job.status = .queued → job.cancelRequestedAt = none) :
    ((jobEffect s a job).status = .queued → (jobEffect s a job).cancelRequestedAt = none) ↔
      ∀ locked, a = .reclaimExpiredBatch locked → job ∈ expiredBatch s.now locked s.jobs →
        job.payload.recoverySafe = true → job.cancelRequestedAt = none := by
  cases a with
  | claim workerID jobID executionID =>
    refine iff_of_true (fun hqueued => ?_) (fun _ h => by simp at h)
    simp only [jobEffect] at hqueued ⊢
    split at hqueued
    · rename_i hid
      rw [if_pos hid]
      unfold claimedJob at hqueued ⊢
      cases hdecision : claimDecision s.now s.jobs job with
      | refuse | defer =>
        simp only [hdecision] at hqueued
        exact hjob hqueued
      | skip | lease =>
        simp only [hdecision] at hqueued
        contradiction
    · rename_i hid
      rw [if_neg hid]
      exact hjob hqueued
  | watchCancellation executionID =>
    refine iff_of_true (fun hqueued => ?_) (fun _ h => by simp at h)
    simp only [jobEffect] at hqueued ⊢
    split at hqueued <;> grind [renewLease]
  | complete executionID =>
    grind [jobEffect, completeJob, completedStatus]
  | requestCancel runID =>
    refine iff_of_true (fun hqueued => ?_) (fun _ h => by simp at h)
    simp only [jobEffect] at hqueued ⊢
    grind [cancelJob]
  | reclaimExpiredBatch locked =>
    simp only [jobEffect, Action.reclaimExpiredBatch.injEq, forall_eq']
    grind [reclaimJob, requeueJob, failLostJob]
  | _ => exact iff_of_true hjob (fun _ h => by simp at h)

/-- From a state with no stranded job, a step strands none exactly when it
queues no job again whose cancellation was requested. -/
theorem noneStranded_step_iff (hnone : NoneStranded s) (h : step s a = some s') :
    NoneStranded s' ↔ RequeuesUncancelled s a := by
  constructor
  · intro hafter
    cases a with
    | reclaimExpiredBatch locked =>
      intro job hmem
      have hjob := (mem_of_mem_expiredBatch hmem).1
      have heffect := Table.mem_of_get? (get?_jobEffect h (Table.get?_of_mem hjob))
      exact (stranded_jobEffect_iff (hnone job hjob)).mp (hafter _ heffect) locked rfl hmem
    | _ => trivial
  · intro hrequeues job' hjob'
    rcases job_of_step h hjob' with ⟨job, hjob, rfl⟩ | ⟨jobID, runID, request, -, rfl⟩
    · refine (stranded_jobEffect_iff (hnone job hjob)).mpr fun locked ha hmem => ?_
      subst ha
      exact hrequeues job hmem
    · exact fun _ => rfl

end Step

/-- **No queued job is stranded, along a run of the queue.**  Every queued job
is free of cancellation requests and can be taken by the poll query and by
`claim` in every state reached, exactly when no reclaim queues a job again
whose cancellation was requested. -/
theorem noneStranded_along_iff (now : Time) (actions : List Action) :
    Along step
        (fun _ _ s' => NoneStranded s' ∧
          ∀ job ∈ s'.jobs, job.status = .queued → Takeable s' job)
        (initial now) actions ↔
      Along step (fun s a _ => RequeuesUncancelled s a) (initial now) actions := by
  have htakeable : ∀ s : State, NoneStranded s →
      ∀ job ∈ s.jobs, job.status = .queued → Takeable s job := fun s hnone job hjob hqueued =>
    takeable_of_uncancelled hjob hqueued (hnone job hjob hqueued)
  have hnone : NoneStranded (initial now) := fun job hjob => absurd hjob (Table.not_mem_empty job)
  refine along_state_iff_along (I := fun _ => True) (fun _ _ _ _ _ => trivial) ?_ trivial
    ⟨hnone, htakeable _ hnone⟩
  intro s a s' _ ⟨hbefore, _⟩ hstep
  rw [← noneStranded_step_iff hbefore hstep]
  exact ⟨fun h => h.1, fun h => ⟨h, htakeable s' h⟩⟩

/-- A run is cancelled while it executes and its worker is lost: the reclaim
queues the job again, with the cancellation request on it. -/
theorem cancelled_job_requeued :
    ¬ ∀ now actions, Along step
        (fun _ _ s' => NoneStranded s' ∧
          ∀ job ∈ s'.jobs, job.status = .queued → Takeable s' job)
        (initial now) actions := by
  intro h
  have hrun : Along step (fun _ _ s' => NoneStranded s') (initial 0)
      [.enqueue 1 1 sampleRequest, .claim 7 1 1, .save 1, .requestCancel 1, .crash 1,
        .tick 90001, .reclaimExpiredBatch []] := (h 0 _).mono fun _ _ _ _ h => h.1
  revert hrun
  decide

end Rhythm.ExecutionJobs
