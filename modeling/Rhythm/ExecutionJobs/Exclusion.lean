import Mathlib.Data.Set.Finite.Basic
import Rhythm.ExecutionJobs.Invariant

/-!
# Rhythm.ExecutionJobs.Exclusion

The concurrency policy, with `claim` taken statement by statement under READ
COMMITTED.  Many claims are open at a time: each holds the lock of its job row
from its first statement on, and a claim of a monitor that restricts its
executions holds the monitor's advisory lock as well.  What a claim writes is
seen when it commits, and both locks go with the commit.

* `exclusive_always` — two jobs of a monitor that restrict it are never leased
  together;
* `leased_alone` — such a job is leased while nothing else of its monitor is,
  as long as no job with policy `ALLOW`, which takes no advisory lock, gets in
  between the `EXISTS` of its claim and the commit;
* `overlap_follows` — one that gets in is met.
-/

namespace Rhythm.ExecutionJobs.Interleaved

open Runs RunRepository

abbrev ClaimId := Nat

/-! ## Open claims -/

/-- The last statement of an open claim. -/
inductive Stage where
  /-- `SELECT … FOR UPDATE` -/
  | selected
  /-- `pg_advisory_xact_lock` -/
  | locked
  /-- `SELECT EXISTS(…)` -/
  | checked (active : Bool)
  /-- The `UPDATE`s of the branch that was taken. -/
  | written (decision : ClaimDecision)
  deriving DecidableEq

/-- The transaction of one call of `claim`. -/
structure Claim where
  id : ClaimId
  workerID : WorkerId
  /-- `NOW()`, the start of the transaction. -/
  now : Time
  /-- The row that is locked, as it was selected. -/
  job : ExecutionJob
  stage : Stage
  deriving DecidableEq

abbrev ClaimTable := Table Claim Claim.id

abbrev Claim.monitorId (c : Claim) : MonitorId := c.job.payload.monitorId

/-- `policy != "ALLOW"` -/
abbrev Claim.Restricted (c : Claim) : Prop := c.job.payload.policy ≠ .allow

def Claim.HoldsMonitor (c : Claim) : Prop := c.Restricted ∧ c.stage ≠ .selected

instance : DecidablePred Claim.HoldsMonitor := fun _ => inferInstanceAs (Decidable (_ ∧ _))

/-- The branch that the claim takes once it has read all it reads; `none` before. -/
def Claim.decision (c : Claim) : Option ClaimDecision :=
  match c.stage with
  | .selected =>
    if c.Restricted then none
    else some (if c.job.cancelRequestedAt = none then .lease else .refuse)
  | .checked true => some (if c.job.payload.policy = .skipIfRunning then .skip else .defer)
  | .checked false => some (if c.job.cancelRequestedAt = none then .lease else .refuse)
  | _ => none

/-! ## The system -/

/-- The queue as it is committed, and the open claims. -/
structure State where
  queue : ExecutionJobs.State
  claims : ClaimTable

def initial (now : Time) : State := ⟨ExecutionJobs.initial now, .empty⟩

inductive Action where
  /-- A transaction other than a claim, at its commit, or a move of a worker. -/
  | other (a : ExecutionJobs.Action)
  | select (id : ClaimId) (workerID : WorkerId) (jobID : JobId) (startedAt : Time)
  | lockMonitor (id : ClaimId)
  | check (id : ClaimId)
  | write (id : ClaimId)
  | commit (id : ClaimId) (executionID : ExecutionId)
  /-- A statement fails, or the worker is lost. -/
  | rollback (id : ClaimId)
  deriving DecidableEq

def isClaim : ExecutionJobs.Action → Bool
  | .claim .. => true
  | _ => false

def State.setStage (s : State) (id : ClaimId) (stage : Stage) : State :=
  { s with claims := s.claims.update (fun c => c.id = id) fun c => { c with stage } }

def State.close (s : State) (id : ClaimId) : State :=
  { s with claims := s.claims.deleteWhere fun c => c.id = id }

def Claim.apply (c : Claim) (executionID : ExecutionId) (queue : ExecutionJobs.State) :
    Option ExecutionJobs.State :=
  match c.stage with
  | .written .refuse => some queue
  | .written .skip =>
    some { queue with toDatabase := skipOverlapping c.now c.job.id c.job.runId queue.toDatabase }
  | .written .defer =>
    some { queue with toDatabase := deferOverlapping c.now c.job.id queue.toDatabase }
  | .written .lease =>
    (queue.executions.insert
      (startExecution queue.now executionID c.workerID c.job.id c.job.runId c.job.payload)).map
        fun executions =>
          { queue with
            jobs := queue.jobs.update (Claimable c.job.id) (leaseJob c.now c.workerID)
            executions }
  | _ => none

variable (hash : MonitorId → Int)

/-- **One statement of a claim, or another transaction.**  `none` while it waits for a lock, and
for a claim that finds nothing to do. -/
def step (s : State) : Action → Option State
  | .other a =>
    if isClaim a then none
    else
      (ExecutionJobs.step s.queue a).bind fun queue =>
        -- an `UPDATE` of a locked row waits
        if ∀ c ∈ s.claims, queue.jobs.get? c.job.id = s.queue.jobs.get? c.job.id then
          some { s with queue }
        else none
  | .select id workerID jobID startedAt =>
    match s.queue.jobs.get? jobID with
    | none => none
    | some job =>
      if startedAt ≤ s.queue.now ∧ job.status = .queued ∧ job.availableAt ≤ startedAt ∧
          ∀ c ∈ s.claims, c.job.id ≠ jobID then
        (s.claims.insert ⟨id, workerID, startedAt, job, .selected⟩).map fun claims =>
          { s with claims }
      else none
  | .lockMonitor id =>
    match s.claims.get? id with
    | none => none
    | some c =>
      if c.stage = .selected ∧ c.Restricted ∧
          ∀ other ∈ s.claims, other.HoldsMonitor → hash other.monitorId ≠ hash c.monitorId then
        some (s.setStage id .locked)
      else none
  | .check id =>
    match s.claims.get? id with
    | none => none
    | some c =>
      if c.stage = .locked then
        some (s.setStage id (.checked (overlapping c.job s.queue.jobs)))
      else none
  | .write id =>
    match s.claims.get? id with
    | none => none
    | some c => c.decision.map fun decision => s.setStage id (.written decision)
  | .commit id executionID =>
    match s.claims.get? id with
    | none => none
    | some c => (c.apply executionID s.queue).map fun queue => { s.close id with queue }
  | .rollback id =>
    match s.claims.get? id with
    | none => none
    | some _ => some (s.close id)

/-- A claim goes on to the stage. -/
inductive Advances (s : State) (c : Claim) : Stage → Prop
  | lock (hselected : c.stage = .selected) (hrestricted : c.Restricted)
      (hfree : ∀ other ∈ s.claims, other.HoldsMonitor → hash other.monitorId ≠ hash c.monitorId) :
      Advances s c .locked
  | check (hlocked : c.stage = .locked) :
      Advances s c (.checked (overlapping c.job s.queue.jobs))
  | write {decision} (hdecision : c.decision = some decision) : Advances s c (.written decision)

/-- **What a step does**: another transaction leaves the locked rows alone; a claim is opened on a
free row, goes on, ends without a trace, or commits. -/
inductive Moves (s : State) : Action → State → Prop
  | other {a queue} (hnot : isClaim a = false) (hstep : ExecutionJobs.step s.queue a = some queue)
      (hkept : ∀ c ∈ s.claims, queue.jobs.get? c.job.id = s.queue.jobs.get? c.job.id) :
      Moves s (.other a) { s with queue }
  | select {id workerID jobID startedAt job claims} (hjob : s.queue.jobs.get? jobID = some job)
      (hqueued : job.status = .queued) (hfree : ∀ c ∈ s.claims, c.job.id ≠ jobID)
      (hinsert : s.claims.insert ⟨id, workerID, startedAt, job, .selected⟩ = some claims) :
      Moves s (.select id workerID jobID startedAt) { s with claims }
  | advance {a c stage} (hc : c ∈ s.claims) (hadvances : Advances hash s c stage) :
      Moves s a (s.setStage c.id stage)
  | close {a id} : Moves s a (s.close id)
  | commit {c executionID queue} (hc : c ∈ s.claims)
      (happly : c.apply executionID s.queue = some queue) :
      Moves s (.commit c.id executionID) { s.close c.id with queue }

variable {hash} {s s' : State} {a : Action}

theorem step_moves (h : step hash s a = some s') : Moves hash s a s' := by
  cases a with
  | other a =>
    simp only [step] at h
    split at h
    · contradiction
    · rename_i hnot
      obtain ⟨queue, hstep, hkept⟩ := Option.bind_eq_some_iff.mp h
      split at hkept
      · rename_i hrows
        cases hkept
        exact .other (Bool.not_eq_true _ ▸ hnot) hstep hrows
      · contradiction
  | select id workerID jobID startedAt =>
    simp only [step] at h
    split at h
    · contradiction
    · rename_i job hjob
      split at h
      · rename_i hready
        obtain ⟨-, hqueued, -, hfree⟩ := hready
        obtain ⟨claims, hinsert, rfl⟩ := Option.map_eq_some_iff.mp h
        exact .select hjob hqueued hfree hinsert
      · contradiction
  | lockMonitor id =>
    simp only [step] at h
    split at h
    · contradiction
    · rename_i c hget
      obtain ⟨hc, rfl⟩ := Table.get?_eq_some_iff.mp hget
      split at h
      · rename_i hlock
        cases h
        exact .advance hc (.lock hlock.1 hlock.2.1 hlock.2.2)
      · contradiction
  | check id =>
    simp only [step] at h
    split at h
    · contradiction
    · rename_i c hget
      obtain ⟨hc, rfl⟩ := Table.get?_eq_some_iff.mp hget
      split at h
      · rename_i hlocked
        cases h
        exact .advance hc (.check hlocked)
      · contradiction
  | write id =>
    simp only [step] at h
    split at h
    · contradiction
    · rename_i c hget
      obtain ⟨hc, rfl⟩ := Table.get?_eq_some_iff.mp hget
      obtain ⟨decision, hdecision, rfl⟩ := Option.map_eq_some_iff.mp h
      exact .advance hc (.write hdecision)
  | commit id executionID =>
    simp only [step] at h
    split at h
    · contradiction
    · rename_i c hget
      obtain ⟨hc, rfl⟩ := Table.get?_eq_some_iff.mp hget
      obtain ⟨queue, happly, rfl⟩ := Option.map_eq_some_iff.mp h
      exact .commit hc happly
  | rollback id =>
    simp only [step] at h
    split at h
    · contradiction
    · cases h
      exact .close

variable {stage : Stage}

theorem mem_setStage {c c' : Claim} (hc : c ∈ s.claims) (h : c' ∈ (s.setStage c.id stage).claims) :
    c' = { c with stage } ∨ c' ∈ s.claims ∧ c'.id ≠ c.id := by
  grind [State.setStage, Table.mem_update, Table.eq_of_key_eq]

variable {c : Claim}

variable (hash) in
theorem mem_close {id : ClaimId} : c ∈ (s.close id).claims ↔ c ∈ s.claims ∧ c.id ≠ id :=
  Table.mem_deleteWhere

/-! ## The locks -/

/-- The claim is going to lease its job, unless it is rolled back. -/
def Claim.WillLease (c : Claim) : Prop :=
  c.stage = .written .lease ∨ c.stage = .checked false ∧ c.job.cancelRequestedAt = none

instance : DecidablePred Claim.WillLease := fun _ => inferInstanceAs (Decidable (_ ∨ _))

theorem Claim.WillLease.stage_ne_selected (h : c.WillLease) : c.stage ≠ .selected := by
  rcases h with hwritten | ⟨hchecked, -⟩
  · rw [hwritten]
    decide
  · rw [hchecked]
    decide

variable (hash) in
/-- What the locks are good for: the row of an open claim is queued and stays as it was selected,
no two claims have one row, and no two hold one advisory lock. -/
structure Locked (s : State) : Prop where
  row : ∀ c ∈ s.claims, s.queue.jobs.get? c.job.id = some c.job ∧ c.job.status = .queued
  uncancelled : ∀ c ∈ s.claims, c.WillLease → c.job.cancelRequestedAt = none
  apart : ∀ c ∈ s.claims, ∀ other ∈ s.claims, c.job.id = other.job.id → c = other
  alone : ∀ c ∈ s.claims, ∀ other ∈ s.claims, c.HoldsMonitor → other.HoldsMonitor →
    hash c.monitorId = hash other.monitorId → c = other

theorem locked_initial (now : Time) : Locked hash (initial now) where
  row c hc := absurd hc (Table.not_mem_empty c)
  uncancelled c hc := absurd hc (Table.not_mem_empty c)
  apart c hc := absurd hc (Table.not_mem_empty c)
  alone c hc := absurd hc (Table.not_mem_empty c)

theorem get?_apply {executionID : ExecutionId} {queue queue' : ExecutionJobs.State}
    {k : JobId} (happly : c.apply executionID queue = some queue') (hk : k ≠ c.job.id) :
    queue'.jobs.get? k = queue.jobs.get? k := by
  unfold Claim.apply at happly
  split at happly
  · cases happly
    rfl
  · cases happly
    simp only [skipOverlapping, Table.get?_update_key, if_neg hk]
  · cases happly
    simp only [deferOverlapping, Table.get?_update_key, if_neg hk]
  · obtain ⟨executions, -, rfl⟩ := Option.map_eq_some_iff.mp happly
    simp only [Table.get?_update]
    refine Table.map_get?_eq_self fun job hjob => if_neg fun hclaimable => hk ?_
    rw [← Table.key_of_get? hjob, hclaimable.1]
  · contradiction

theorem Advances.holdsMonitor (h : Advances hash s c stage)
    (hholds : ({ c with stage } : Claim).HoldsMonitor) :
    c.HoldsMonitor ∨
      ∀ other ∈ s.claims, other.HoldsMonitor → hash other.monitorId ≠ hash c.monitorId := by
  cases h with
  | lock hselected hrestricted hfree => exact .inr hfree
  | check hlocked =>
    refine .inl ⟨hholds.1, ?_⟩
    rw [hlocked]
    decide
  | write hdecision =>
    refine .inl ⟨hholds.1, fun hselected => ?_⟩
    have hrestricted : c.Restricted := hholds.1
    simp only [Claim.decision, hselected, if_pos hrestricted] at hdecision
    contradiction

theorem Advances.uncancelled (h : Advances hash s c stage)
    (hlease : ({ c with stage } : Claim).WillLease) : c.job.cancelRequestedAt = none := by
  rcases hlease with hwritten | ⟨-, hcancel⟩
  · cases h with
    | lock | check => contradiction
    | @write decision hdecision =>
      grind [Stage.written.inj, Claim.decision]
  · exact hcancel

theorem Locked.step (hs : Locked hash s) (h : Moves hash s a s') : Locked hash s' := by
  obtain ⟨hrow, huncancelled, hapart, halone⟩ := id hs
  cases h with
  | other hnot hstep hkept =>
    refine ⟨fun c hc => ?_, huncancelled, hapart, halone⟩
    rw [hkept c hc]
    exact hrow c hc
  | @select id workerID jobID startedAt job claims hjob hqueued hfree hinsert =>
    have hid : job.id = jobID := Table.key_of_get? hjob
    refine ⟨fun c hc => ?_, fun c hc hlease => ?_, fun c hc other hother hsame => ?_,
      fun c hc other hother hholds hholds' hsame => ?_⟩
    · rcases Table.mem_insert hinsert hc with hold | rfl
      · exact hrow c hold
      · exact ⟨hid ▸ hjob, hqueued⟩
    · rcases Table.mem_insert hinsert hc with hold | rfl
      · exact huncancelled c hold hlease
      · exact absurd rfl hlease.stage_ne_selected
    · rcases Table.mem_insert hinsert hc with hold | rfl
      · rcases Table.mem_insert hinsert hother with hold' | rfl
        · exact hapart c hold other hold' hsame
        · exact absurd (hsame.trans hid) (hfree c hold)
      · rcases Table.mem_insert hinsert hother with hold' | rfl
        · exact absurd (hsame.symm.trans hid) (hfree other hold')
        · rfl
    · rcases Table.mem_insert hinsert hc with hold | rfl
      · rcases Table.mem_insert hinsert hother with hold' | rfl
        · exact halone c hold other hold' hholds hholds' hsame
        · exact absurd rfl hholds'.2
      · exact absurd rfl hholds.2
  | @advance a c stage hc hadvances =>
    refine ⟨fun d hd => ?_, fun d hd hlease => ?_, fun d hd other hother hsame => ?_,
      fun d hd other hother hholds hholds' hsame => ?_⟩
    · rcases mem_setStage hc hd with rfl | ⟨hd, -⟩
      · exact hrow c hc
      · exact hrow d hd
    · rcases mem_setStage hc hd with rfl | ⟨hd, -⟩
      · exact hadvances.uncancelled hlease
      · exact huncancelled d hd hlease
    · rcases mem_setStage hc hd with rfl | ⟨hd, hne⟩
      · rcases mem_setStage hc hother with rfl | ⟨hother, hne'⟩
        · rfl
        · exact absurd (hapart c hc other hother hsame ▸ rfl) hne'
      · rcases mem_setStage hc hother with rfl | ⟨hother, -⟩
        · exact absurd (hapart d hd c hc hsame ▸ rfl) hne
        · exact hapart d hd other hother hsame
    · rcases mem_setStage hc hd with rfl | ⟨hd, hne⟩
      · rcases mem_setStage hc hother with rfl | ⟨hother, hne'⟩
        · rfl
        · rcases hadvances.holdsMonitor hholds with hheld | hfree
          · exact absurd (halone c hc other hother hheld hholds' hsame ▸ rfl) hne'
          · exact absurd hsame.symm (hfree other hother hholds')
      · rcases mem_setStage hc hother with rfl | ⟨hother, -⟩
        · rcases hadvances.holdsMonitor hholds' with hheld | hfree
          · exact absurd (halone d hd c hc hholds hheld hsame ▸ rfl) hne
          · exact absurd hsame (hfree d hd hholds)
        · exact halone d hd other hother hholds hholds' hsame
  | close =>
    refine ⟨fun c hc => hrow c (mem_close.mp hc).1,
      fun c hc => huncancelled c (mem_close.mp hc).1, fun c hc other hother => ?_,
      fun c hc other hother => ?_⟩
    · exact hapart c (mem_close.mp hc).1 other (mem_close.mp hother).1
    · exact halone c (mem_close.mp hc).1 other (mem_close.mp hother).1
  | @commit c executionID queue hc happly =>
    refine ⟨fun d hd => ?_, fun d hd => huncancelled d (mem_close.mp hd).1,
      fun d hd other hother => ?_, fun d hd other hother => ?_⟩
    · obtain ⟨hd, hne⟩ := mem_close.mp hd
      have hjob : d.job.id ≠ c.job.id := fun hsame => hne (hapart d hd c hc hsame ▸ rfl)
      rw [get?_apply happly hjob]
      exact hrow d hd
    · exact hapart d (mem_close.mp hd).1 other (mem_close.mp hother).1
    · exact halone d (mem_close.mp hd).1 other (mem_close.mp hother).1

/-! ## Leased jobs -/

variable {job : ExecutionJob}

theorem leased_of_jobEffect_leased {q : ExecutionJobs.State} {a : ExecutionJobs.Action}
    (hnot : isClaim a = false)
    (hleased : (jobEffect q a job).status = .leased) : job.status = .leased := by
  cases a with
  | claim => contradiction
  | watchCancellation executionID =>
    simp only [jobEffect] at hleased
    split at hleased
    · split at hleased
      · rename_i hown
        exact hown.2.1
      · exact hleased
    · exact hleased
  | complete executionID =>
    grind [jobEffect, completeJob, completedStatus]
  | requestCancel runID =>
    grind [jobEffect, cancelJob]
  | reclaimExpiredBatch locked =>
    simp only [jobEffect, reclaimJob] at hleased
    split at hleased
    · split at hleased <;> contradiction
    · exact hleased
  | _ => exact hleased

/-- **A leased job** was leased before, or it is the job of the claim that commits. -/
theorem leased_of_moves (hs : Locked hash s) (h : Moves hash s a s') {job' : ExecutionJob}
    (hjob' : job' ∈ s'.queue.jobs) (hleased : job'.status = .leased) :
    (∃ job ∈ s.queue.jobs, job.status = .leased ∧ job.id = job'.id ∧
        job.payload = job'.payload) ∨
      ∃ c ∈ s.claims, ∃ executionID, a = .commit c.id executionID ∧ c.stage = .written .lease ∧
        job'.id = c.job.id ∧ job'.payload = c.job.payload ∧
        ∀ other ∈ s'.claims, other ∈ s.claims ∧ other.id ≠ c.id := by
  cases h with
  | @other act queue hnot hstep hkept =>
    rcases job_of_step hstep hjob' with ⟨job, hjob, rfl⟩ | ⟨jobID, runID, request, rfl, rfl⟩
    · have hsame := sameJob_jobEffect s.queue act job
      exact .inl ⟨job, hjob, leased_of_jobEffect_leased hnot hleased, hsame.id_eq.symm,
        hsame.payload_eq.symm⟩
    · contradiction
  | select | advance | close => exact .inl ⟨job', hjob', hleased, rfl, rfl⟩
  | @commit c executionID queue hc happly =>
    unfold Claim.apply at happly
    split at happly
    · cases happly
      exact .inl ⟨job', hjob', hleased, rfl, rfl⟩
    · cases happly
      simp only [skipOverlapping, Table.mem_update] at hjob'
      obtain ⟨job, hjob, rfl⟩ := hjob'
      split at hleased
      · contradiction
      · rename_i hother
        rw [if_neg hother]
        exact .inl ⟨job, hjob, hleased, rfl, rfl⟩
    · cases happly
      simp only [deferOverlapping, Table.mem_update] at hjob'
      obtain ⟨job, hjob, rfl⟩ := hjob'
      refine .inl ⟨job, hjob, ?_⟩
      split at hleased
      · rename_i hid
        rw [if_pos hid]
        exact ⟨hleased, rfl, rfl⟩
      · rename_i hother
        rw [if_neg hother]
        exact ⟨hleased, rfl, rfl⟩
    · rename_i hstage
      obtain ⟨executions, -, rfl⟩ := Option.map_eq_some_iff.mp happly
      simp only [Table.mem_update] at hjob'
      obtain ⟨job, hjob, rfl⟩ := hjob'
      split at hleased
      · rename_i hclaimable
        have hsame : job = c.job :=
          Table.eq_of_key_eq hjob (Table.mem_of_get? (hs.row c hc).1) hclaimable.1
        rw [if_pos hclaimable, hsame]
        exact .inr ⟨c, hc, executionID, rfl, hstage, rfl, rfl, fun other => mem_close.mp⟩
      · rename_i hother
        rw [if_neg hother]
        exact .inl ⟨job, hjob, hleased, rfl, rfl⟩
    · contradiction

/-! ## A claim that will lease has the monitor for itself -/

/-- What a claim that holds the advisory lock has read stays so: no leased job of its monitor has
a policy in `p`. -/
def Clear (p : ConcurrencyPolicy → Prop) (s : State) : Prop :=
  ∀ c ∈ s.claims, c.Restricted → c.WillLease → ∀ job ∈ s.queue.jobs, job.status = .leased →
    p job.payload.policy → job.payload.monitorId ≠ c.monitorId

theorem clear_initial (p : ConcurrencyPolicy → Prop) (now : Time) : Clear p (initial now) :=
  fun c hc => absurd hc (Table.not_mem_empty c)

/-- No job with policy `ALLOW` gets in: none is leased while a claim of its monitor with another
policy is between its `EXISTS`, which found nothing, and its commit. -/
def NoneGetsIn (s : State) : Action → Prop
  | .commit id _ =>
    ∀ c ∈ s.claims, c.id = id → c.stage = .written .lease → c.job.payload.policy = .allow →
      ∀ other ∈ s.claims, other.Restricted → other.WillLease → other.monitorId ≠ c.monitorId
  | _ => True

instance (s : State) (a : Action) : Decidable (NoneGetsIn s a) := by
  unfold NoneGetsIn
  split <;> infer_instance

/-- A claim that has read `active = FALSE` read that no other job of its monitor is leased; its own
is queued. -/
theorem not_leased_of_not_overlapping (hs : Locked hash s) (hc : c ∈ s.claims)
    (hnone : overlapping c.job s.queue.jobs = false)
    (hjob : job ∈ s.queue.jobs) (hleased : job.status = .leased) :
    job.payload.monitorId ≠ c.monitorId := by
  intro hmonitor
  obtain ⟨hrow, hqueued⟩ := hs.row c hc
  have hother : job.id ≠ c.job.id := by
    intro hid
    have hsame : job = c.job := Table.eq_of_key_eq hjob (Table.mem_of_get? hrow) hid
    rw [hsame, hqueued] at hleased
    contradiction
  have hactive : overlapping c.job s.queue.jobs = true :=
    Table.any_eq_true.mpr ⟨job, hjob, hother, hleased, hmonitor⟩
  rw [hnone] at hactive
  contradiction

theorem Advances.willLease (h : Advances hash s c stage)
    (hrestricted : c.Restricted) (hlease : ({ c with stage } : Claim).WillLease) :
    c.WillLease ∨ overlapping c.job s.queue.jobs = false := by
  cases h with
  | lock => exact absurd hlease (by rintro (hwritten | ⟨hchecked, -⟩) <;> contradiction)
  | check hlocked =>
    rcases hlease with hwritten | ⟨hchecked, -⟩
    · contradiction
    · exact .inr (Stage.checked.inj hchecked)
  | @write decision hdecision =>
    rcases hlease with hwritten | ⟨hchecked, -⟩
    · have hlease : decision = .lease := Stage.written.inj hwritten
      subst hlease
      unfold Claim.decision at hdecision
      split at hdecision
      · rw [if_pos hrestricted] at hdecision
        contradiction
      · split at hdecision <;> contradiction
      · rename_i hchecked
        split at hdecision
        · rename_i hcancel
          exact .inl (.inr ⟨hchecked, hcancel⟩)
        · contradiction
      · contradiction
    · contradiction

/-- **One step keeps it**, when `ALLOW` does not count or no such job gets in. -/
theorem Clear.step {p : ConcurrencyPolicy → Prop} (hclear : Clear p s) (hs : Locked hash s)
    (h : Moves hash s a s') (hguard : p .allow → NoneGetsIn s a) : Clear p s' := by
  intro c hc hrestricted hlease job' hjob' hleased hp hmonitor
  rcases leased_of_moves hs h hjob' hleased with
    ⟨job, hjob, hbefore, -, hpayload⟩ | ⟨d, hd, executionID, rfl, hstage, -, hpayload, hleft⟩
  · rw [← hpayload] at hp hmonitor
    have hkept : c ∈ s.claims → False :=
      fun hold => hclear c hold hrestricted hlease job hjob hbefore hp hmonitor
    cases h with
    | other => exact hkept hc
    | select hjob₀ hqueued hfree hinsert =>
      rcases Table.mem_insert hinsert hc with hold | rfl
      · exact hkept hold
      · exact hlease.stage_ne_selected rfl
    | @advance a d stage hd hadvances =>
      rcases mem_setStage hd hc with rfl | ⟨hold, -⟩
      · rcases hadvances.willLease hrestricted hlease with hbefore' | hnone
        · exact hclear d hd hrestricted hbefore' job hjob hbefore hp hmonitor
        · exact not_leased_of_not_overlapping hs hd hnone hjob hbefore hmonitor
      · exact hkept hold
    | close | commit => exact hkept (mem_close.mp hc).1
  · rw [hpayload] at hp hmonitor
    -- a job is leased: its claim has the advisory lock, or needs none
    have hc' := hleft c hc
    by_cases hallow : d.job.payload.policy = .allow
    · rw [hallow] at hp
      exact hguard hp d hd rfl hstage hallow c hc'.1 hrestricted hlease hmonitor.symm
    · have hheld : d.HoldsMonitor := ⟨hallow, by rw [hstage]; decide⟩
      have hheld' : c.HoldsMonitor := ⟨hrestricted, hlease.stage_ne_selected⟩
      have hsame := hs.alone c hc'.1 d hd hheld' hheld (congrArg hash hmonitor.symm)
      exact hc'.2 (congrArg Claim.id hsame)

/-! ## The policy holds -/

/-- At most one job of a monitor is leased among those whose policy is not `ALLOW`. -/
def Exclusive (jobs : JobTable) : Prop :=
  ∀ job ∈ jobs, ∀ other ∈ jobs, job.status = .leased → other.status = .leased →
    job.payload.policy ≠ .allow → other.payload.policy ≠ .allow →
    job.payload.monitorId = other.payload.monitorId → job = other

/-- A job whose policy is not `ALLOW` is moved to `LEASED` only while no other job of its monitor
is `LEASED`. -/
def LeasedAlone (jobs jobs' : JobTable) : Prop :=
  ∀ job' ∈ jobs', job'.status = .leased → job'.payload.policy ≠ .allow →
    (∀ job ∈ jobs, job.id = job'.id → job.status ≠ .leased) →
    ∀ other ∈ jobs, other.id ≠ job'.id → other.status = .leased →
      other.payload.monitorId ≠ job'.payload.monitorId

instance (jobs : JobTable) : Decidable (Exclusive jobs) := by
  unfold Exclusive
  infer_instance

instance (jobs jobs' : JobTable) : Decidable (LeasedAlone jobs jobs') := by
  unfold LeasedAlone
  infer_instance

theorem exclusive_step (hexclusive : Exclusive s.queue.jobs) (hs : Locked hash s)
    (hclear : Clear (· ≠ .allow) s) (h : Moves hash s a s') : Exclusive s'.queue.jobs := by
  intro job' hjob' other' hother' hleased hleased' hpolicy hpolicy' hmonitor
  -- the claim of one of the two, when the other was leased before
  have hmeets : ∀ c ∈ s.claims, c.stage = .written .lease → c.Restricted →
      ∀ job ∈ s.queue.jobs, job.status = .leased → job.payload.policy ≠ .allow →
        job.payload.monitorId = c.monitorId → False :=
    fun c hc hstage hrestricted job hjob hbefore hp hsame =>
      hclear c hc hrestricted (.inl hstage) job hjob hbefore hp hsame
  rcases leased_of_moves hs h hjob' hleased with
    ⟨job, hjob, hbefore, hid, hpayload⟩ | ⟨c, hc, executionID, ha, hstage, hid, hpayload, -⟩
  · rcases leased_of_moves hs h hother' hleased' with
      ⟨other, hother, hbefore', hid', hpayload'⟩ |
        ⟨d, hd, executionID', ha', hstage', hid', hpayload', -⟩
    · rw [← hpayload, ← hpayload'] at hmonitor
      rw [← hpayload] at hpolicy
      rw [← hpayload'] at hpolicy'
      have hsame := hexclusive job hjob other hother hbefore hbefore' hpolicy hpolicy' hmonitor
      exact Table.eq_of_key_eq hjob' hother' (hid.symm.trans (hsame ▸ hid'))
    · rw [hpayload'] at hpolicy' hmonitor
      rw [← hpayload] at hpolicy hmonitor
      exact (hmeets d hd hstage' hpolicy' job hjob hbefore hpolicy hmonitor).elim
  · rcases leased_of_moves hs h hother' hleased' with
      ⟨other, hother, hbefore', hid', hpayload'⟩ |
        ⟨d, hd, executionID', ha', hstage', hid', hpayload', -⟩
    · rw [hpayload] at hpolicy hmonitor
      rw [← hpayload'] at hpolicy' hmonitor
      exact (hmeets c hc hstage hpolicy other hother hbefore' hpolicy' hmonitor.symm).elim
    · rw [ha, Action.commit.injEq] at ha'
      have hsame : c = d := Table.eq_of_key_eq hc hd ha'.1
      exact Table.eq_of_key_eq hjob' hother' (hid.trans (hsame ▸ hid'.symm))

theorem leasedAlone_step (hs : Locked hash s) (hclear : Clear (fun _ => True) s)
    (h : Moves hash s a s') : LeasedAlone s.queue.jobs s'.queue.jobs := by
  intro job' hjob' hleased hpolicy hnew other hother hne hbefore hmonitor
  rcases leased_of_moves hs h hjob' hleased with
    ⟨job, hjob, hleased', hid, -⟩ | ⟨c, hc, executionID, -, hstage, hid, hpayload, -⟩
  · exact hnew job hjob hid hleased'
  · rw [hpayload] at hpolicy hmonitor
    exact hclear c hc hpolicy (.inl hstage) other hother hbefore trivial hmonitor

/-- **The jobs that restrict a monitor exclude each other**, in every run. -/
theorem exclusive_always (hash : MonitorId → Int) (now : Time) (as : List Action) :
    Along (step hash) (fun _ _ s' => Exclusive s'.queue.jobs) (initial now) as := by
  refine Along.of_invariant
    (I := fun s => Locked hash s ∧ Clear (· ≠ .allow) s ∧ Exclusive s.queue.jobs) ?_
    ⟨locked_initial now, clear_initial _ now, fun job hjob => absurd hjob (Table.not_mem_empty job)⟩
  rintro s a s' ⟨hs, hclear, hexclusive⟩ hstep
  have hmoves := step_moves hstep
  have hexclusive' := exclusive_step hexclusive hs hclear hmoves
  exact ⟨⟨hs.step hmoves, hclear.step hs hmoves fun hallow => absurd rfl hallow, hexclusive'⟩,
    hexclusive'⟩

/-- **The concurrency policy is exclusive.**  In a run in which no job with policy `ALLOW` gets in,
at most one restricting job of a monitor is leased at every moment, and each is leased while no
other job of its monitor is. -/
theorem policy_exclusive (hash : MonitorId → Int) (now : Time) (as : List Action)
    (h : Along (step hash) (fun s a _ => NoneGetsIn s a) (initial now) as) :
    Along (step hash)
      (fun s _ s' => Exclusive s'.queue.jobs ∧ LeasedAlone s.queue.jobs s'.queue.jobs)
      (initial now) as := by
  refine Along.of_guard
    (I := fun s => Locked hash s ∧ Clear (fun _ => True) s ∧ Exclusive s.queue.jobs) ?_
    ⟨locked_initial now, clear_initial _ now, fun job hjob => absurd hjob (Table.not_mem_empty job)⟩
    h
  rintro s a s' ⟨hs, hclear, hexclusive⟩ hstep hguard
  have hmoves := step_moves hstep
  have hrestricted : Clear (· ≠ .allow) s :=
    fun c hc hr hl job hjob hleased _ => hclear c hc hr hl job hjob hleased trivial
  have hexclusive' := exclusive_step hexclusive hs hrestricted hmoves
  exact ⟨⟨hs.step hmoves, hclear.step hs hmoves fun _ => hguard, hexclusive'⟩, hexclusive',
    leasedAlone_step hs hclear hmoves⟩

/-- Two workers at two restricting jobs of one monitor, then one at a job with policy `ALLOW`. -/
def sampleClaims : List Action :=
  [.other (.enqueue 1 1 { sampleRequest with concurrencyPolicy := some .queue }),
    .other (.enqueue 2 2 { sampleRequest with concurrencyPolicy := some .skipIfRunning }),
    .other (.enqueue 3 3 sampleRequest),
    .select 0 7 1 0, .lockMonitor 0, .select 1 8 2 0, .check 0, .write 0, .commit 0 0,
    .lockMonitor 1, .check 1, .write 1, .commit 1 1,
    .select 2 8 3 0, .write 2, .commit 2 2]

theorem policy_exclusive_sample :
    (runActions (step Int.ofNat) (initial 0) sampleClaims).isSome = true ∧
      Along (step Int.ofNat)
        (fun s _ s' => Exclusive s'.queue.jobs ∧ LeasedAlone s.queue.jobs s'.queue.jobs)
        (initial 0) sampleClaims :=
  ⟨by decide +kernel, policy_exclusive Int.ofNat 0 sampleClaims (by decide +kernel)⟩

/-- A job with policy `ALLOW` is leased between the `EXISTS` and the commit of a claim that
restricts its monitor. -/
theorem leased_beside_another :
    ¬ Along (step Int.ofNat)
        (fun s _ s' => Exclusive s'.queue.jobs ∧ LeasedAlone s.queue.jobs s'.queue.jobs)
        (initial 0)
        [.other (.enqueue 1 1 { sampleRequest with concurrencyPolicy := some .skipIfRunning }),
          .other (.enqueue 2 2 sampleRequest),
          .select 0 7 1 0, .lockMonitor 0, .check 0,
          .select 1 8 2 0, .write 1, .commit 1 1,
          .write 0, .commit 0 0] := by
  decide +kernel

end Rhythm.ExecutionJobs.Interleaved
