import Rhythm.ExecutionJobs.Service

/-!
# Rhythm.ExecutionJobs.Effects

What one step does to one row.  Each action is described by the row it leaves
for a job, a run and an execution — `jobEffect`, `runEffect`,
`executionEffect` — and by the row it adds.  `get?_step_jobs`,
`get?_step_runs` and `get?_step_executions` say that this is all a step does;
the invariants and the properties of the queue are proved from them and never
from the statements of a transaction.
-/

namespace Rhythm.ExecutionJobs

open Runs RunRepository

/-! ## The effect of a claim -/

/-- The branch that `claim` takes for a stored job. -/
inductive ClaimDecision where
  | refuse | skip | defer | lease
  deriving DecidableEq

/-- The branch that `claim` takes for the row `job`. -/
def claimDecision (now : Time) (jobs : JobTable) (job : ExecutionJob) : ClaimDecision :=
  if job.status ≠ .queued ∨ now < job.availableAt then .refuse
  else if job.payload.policy ≠ .allow ∧ overlapping job jobs = true then
    if job.payload.policy = .skipIfRunning then .skip else .defer
  else if job.cancelRequestedAt = none then .lease
  else .refuse

variable {now : Time} {job : ExecutionJob} {jobs : JobTable}

theorem status_of_claimDecision
    (h : claimDecision now jobs job ≠ .refuse) : job.status = .queued := by
  by_contra hstatus
  exact h (by simp [claimDecision, hstatus])

theorem cancelRequestedAt_of_lease
    (h : claimDecision now jobs job = .lease) : job.cancelRequestedAt = none := by
  by_contra hcancel
  unfold claimDecision at h
  grind

def claimedJob (now : Time) (workerID : WorkerId) (jobs : JobTable) (job : ExecutionJob) :
    ExecutionJob :=
  match claimDecision now jobs job with
  | .refuse => job
  | .skip => skipJob now job
  | .defer => deferJob now job
  | .lease => leaseJob now workerID job

variable {db : Database} {workerID : WorkerId} {jobID : JobId}

theorem claim_eq (hget : db.jobs.get? jobID = some job) :
    claim now workerID jobID db =
      match claimDecision now db.jobs job with
      | .refuse => (.unavailable, db)
      | .skip => (.handled, skipOverlapping now jobID job.runId db)
      | .defer => (.handled, deferOverlapping now jobID db)
      | .lease => (.ready job.runId job.payload,
          { db with jobs := db.jobs.update (Claimable jobID) (leaseJob now workerID) }) := by
  have hany : job.status = .queued →
      (db.jobs.any (Claimable jobID) = true ↔ job.cancelRequestedAt = none) := by
    intro hqueued
    rw [Table.any_eq_true]
    constructor
    · intro ⟨row, hrow, hid, _, hcancel⟩
      have hsame : row = job :=
        Table.eq_of_key_eq hrow (Table.mem_of_get? hget) (hid.trans (Table.key_of_get? hget).symm)
      exact hsame ▸ hcancel
    · intro hcancel
      exact ⟨job, Table.mem_of_get? hget, Table.key_of_get? hget, hqueued, hcancel⟩
  unfold claim claimDecision
  rw [hget]
  grind

theorem claim_of_none
    (hget : db.jobs.get? jobID = none) : claim now workerID jobID db = (.unavailable, db) := by
  unfold claim
  rw [hget]

theorem claim_ready_iff {runID : RunId} {request : QueueRequest} :
    (claim now workerID jobID db).1 = .ready runID request ↔
      ∃ job, db.jobs.get? jobID = some job ∧ claimDecision now db.jobs job = .lease ∧
        job.runId = runID ∧ job.payload = request := by
  cases hget : db.jobs.get? jobID with
  | none => simp [claim_of_none hget]
  | some job =>
    rw [claim_eq hget]
    cases hdecision : claimDecision now db.jobs job <;> simp [hdecision]

theorem get?_claim_jobs (k : JobId) :
    (claim now workerID jobID db).2.jobs.get? k = (db.jobs.get? k).map fun job =>
      if job.id = jobID then claimedJob now workerID db.jobs job else job := by
  rw [Table.map_get?_ite_key]
  by_cases hk : k = jobID
  · subst hk
    rw [if_pos rfl]
    cases hget : db.jobs.get? k with
    | none => rw [claim_of_none hget, hget, Option.map_none]
    | some job =>
      rw [claim_eq hget, Option.map_some, claimedJob]
      cases hdecision : claimDecision now db.jobs job with
      | refuse => exact hget
      | skip => simp [skipOverlapping, Table.get?_update_key, hget]
      | defer => simp [deferOverlapping, Table.get?_update_key, hget]
      | lease =>
        have hid : job.id = k := Table.key_of_get? hget
        have hqueued : job.status = .queued := status_of_claimDecision (by rw [hdecision]; decide)
        have hcancel := cancelRequestedAt_of_lease hdecision
        simp [Table.get?_update, hget, Claimable, hid, hqueued, hcancel]
  · rw [if_neg hk]
    cases hget : db.jobs.get? jobID with
    | none => rw [claim_of_none hget]
    | some job =>
      rw [claim_eq hget]
      cases hdecision : claimDecision now db.jobs job with
      | refuse => rfl
      | skip => simp [skipOverlapping, Table.get?_update_key, hk]
      | defer => simp [deferOverlapping, Table.get?_update_key, hk]
      | lease =>
        rw [Table.get?_update]
        exact Table.map_get?_eq_self fun row hrow =>
          if_neg fun h => hk ((Table.key_of_get? hrow).symm.trans h.1)

/-- The run row is skipped with its job by a claim of `jobID`. -/
def SkipsRun (now : Time) (jobID : JobId) (jobs : JobTable) (row : MonitorRun) : Prop :=
  match jobs.get? jobID with
  | none => False
  | some job =>
    claimDecision now jobs job = .skip ∧ row.id = job.runId ∧ row.status.isPending = true

instance (now : Time) (jobID : JobId) (jobs : JobTable) :
    DecidablePred (SkipsRun now jobID jobs) := fun row => by
  unfold SkipsRun
  split <;> infer_instance

theorem get?_claim_runs (k : RunId) :
    (claim now workerID jobID db).2.runs.get? k = (db.runs.get? k).map fun row =>
      if SkipsRun now jobID db.jobs row then skipRun now row else row := by
  cases hget : db.jobs.get? jobID with
  | none => simp [claim_of_none hget, SkipsRun, hget]
  | some job =>
    rw [claim_eq hget]
    cases hdecision : claimDecision now db.jobs job with
    | skip =>
      simp only [skipOverlapping, Table.get?_update]
      refine Table.map_get?_congr fun row _ => ?_
      simp only [SkipsRun, hget, hdecision, true_and]
    | refuse | defer | lease => simp [deferOverlapping, SkipsRun, hget, hdecision]

/-! ## The effect of a reclaim -/

/-- The job row that a reclaim leaves of an expired lease. -/
def reclaimJob (now : Time) (job : ExecutionJob) : ExecutionJob :=
  if job.payload.recoverySafe then requeueJob now job else failLostJob now job

/-- The run of an unsafe job among the items is aborted unless it is terminal. -/
def AbortsRun (items : List ExecutionJob) (row : MonitorRun) : Prop :=
  (∃ item ∈ items, item.payload.recoverySafe = false ∧ item.runId = row.id) ∧
    row.status.isTerminal = false

instance (items : List ExecutionJob) : DecidablePred (AbortsRun items) :=
  fun _ => inferInstanceAs (Decidable (_ ∧ _))

theorem get?_reclaimItem_jobs {item : ExecutionJob}
    (hitem : db.jobs.get? item.id = some item) (k : JobId) :
    (reclaimItem now db item).jobs.get? k =
      if k = item.id then some (reclaimJob now item) else db.jobs.get? k := by
  unfold reclaimItem reclaimJob
  by_cases hk : k = item.id
  · subst hk
    split <;> simp [Table.get?_update_key, hitem]
  · split <;> simp [Table.get?_update_key, hk]

theorem get?_reclaimItem_runs {item : ExecutionJob} (k : RunId) :
    (reclaimItem now db item).runs.get? k = (db.runs.get? k).map fun row =>
      if AbortsRun [item] row then abortRun now leaseExpiredReason row else row := by
  unfold reclaimItem
  split
  · rename_i hsafe
    simp [AbortsRun, hsafe]
  · rename_i hsafe
    rw [Table.get?_update]
    refine Table.map_get?_congr fun row _ => ?_
    have hrow : AbortsRun [item] row ↔ row.id = item.runId ∧ row.status.isTerminal = false := by
      unfold AbortsRun
      grind
    simp only [hrow]

/-- **The loop, job by job.**  Rows of distinct jobs are reclaimed one after the
other; each is read as it was locked. -/
theorem get?_reclaimItems_jobs (items : List ExecutionJob)
    (hnodup : (items.map ExecutionJob.id).Nodup)
    (hitems : ∀ item ∈ items, db.jobs.get? item.id = some item) (k : JobId) :
    (items.foldl (reclaimItem now) db).jobs.get? k = (db.jobs.get? k).map fun job =>
      if job ∈ items then reclaimJob now job else job := by
  induction items generalizing db with
  | nil => simp
  | cons item items ih =>
    rw [List.map_cons, List.nodup_cons] at hnodup
    obtain ⟨hfresh, hnodup⟩ := hnodup
    have hitem := hitems item List.mem_cons_self
    have hne : ∀ other ∈ items, other.id ≠ item.id := fun other hother hid =>
      hfresh (List.mem_map.mpr ⟨other, hother, hid⟩)
    rw [List.foldl_cons, ih hnodup]
    · rw [get?_reclaimItem_jobs hitem]
      by_cases hk : k = item.id
      · have hself : reclaimJob now item ∉ items := fun hmem =>
          hne _ hmem (by unfold reclaimJob; split <;> rfl)
        simp [hk, hitem, hself]
      · rw [if_neg hk]
        refine Table.map_get?_congr fun row hget => ?_
        have hrow : row ≠ item := fun h => hk (h ▸ (Table.key_of_get? hget).symm)
        simp [hrow]
    · intro other hother
      rw [get?_reclaimItem_jobs hitem, if_neg (hne other hother)]
      exact hitems other (List.mem_cons_of_mem _ hother)

/-- **The loop, run by run.** -/
theorem get?_reclaimItems_runs (items : List ExecutionJob) (k : RunId) :
    (items.foldl (reclaimItem now) db).runs.get? k = (db.runs.get? k).map fun row =>
      if AbortsRun items row then abortRun now leaseExpiredReason row else row := by
  induction items generalizing db with
  | nil => simp [AbortsRun]
  | cons item items ih =>
    rw [List.foldl_cons, ih, get?_reclaimItem_runs, Option.map_map]
    refine Table.map_get?_congr fun row _ => ?_
    by_cases hitem : AbortsRun [item] row
    · -- an aborted run is terminal, so the later items leave it alone
      have hcons : AbortsRun (item :: items) row := by
        obtain ⟨⟨other, hother, hunsafe⟩, hstatus⟩ := hitem
        rw [List.mem_singleton] at hother
        exact ⟨⟨other, hother ▸ List.mem_cons_self, hunsafe⟩, hstatus⟩
      have hdone : ¬ AbortsRun items (abortRun now leaseExpiredReason row) := fun h => by
        rw [AbortsRun, abortRun_status] at h
        exact absurd h.2 (by decide)
      simp [hitem, hcons, hdone]
    · grind [AbortsRun]

variable {locked : List JobId}

theorem mem_of_mem_expiredBatch (h : job ∈ expiredBatch now locked jobs) :
    job ∈ jobs ∧ Expired now job ∧ job.id ∉ locked := by
  have hmem := List.mem_of_mem_take h
  rw [List.mem_insertionSort, List.mem_filter, decide_eq_true_eq] at hmem
  exact hmem

theorem nodup_expiredBatch :
    ((expiredBatch now locked jobs).map ExecutionJob.id).Nodup := by
  have hfilter : ((jobs.rows.filter fun job =>
      Expired now job ∧ job.id ∉ locked).map ExecutionJob.id).Nodup :=
    jobs.nodup.sublist (List.filter_sublist.map _)
  have hsort := (List.perm_insertionSort
      (fun a b : ExecutionJob => a.leaseExpiresAt.getD 0 ≤ b.leaseExpiresAt.getD 0)
      (jobs.rows.filter fun job => Expired now job ∧ job.id ∉ locked)).map ExecutionJob.id
  exact (hsort.nodup_iff.mpr hfilter).sublist ((List.take_sublist _ _).map _)

theorem get?_reclaimExpiredBatch_jobs (k : JobId) :
    (reclaimExpiredBatch now locked db).jobs.get? k = (db.jobs.get? k).map fun job =>
      if job ∈ expiredBatch now locked db.jobs then reclaimJob now job else job :=
  get?_reclaimItems_jobs _ nodup_expiredBatch
    (fun _ hitem => Table.get?_of_mem (mem_of_mem_expiredBatch hitem).1) k

theorem get?_reclaimExpiredBatch_runs (k : RunId) :
    (reclaimExpiredBatch now locked db).runs.get? k = (db.runs.get? k).map fun row =>
      if AbortsRun (expiredBatch now locked db.jobs) row then
        abortRun now leaseExpiredReason row else row :=
  get?_reclaimItems_runs _ k

/-! ## What an accepted step says -/

section Accepted

variable {s s' : State} {executionID : ExecutionId}

theorem step_enqueue {jobID : JobId} {runID : RunId} {request : QueueRequest}
    (h : step s (.enqueue jobID runID request) = some s') :
    ∃ db, enqueue jobID (queuedRun runID request) request s.toDatabase = .ok db ∧
      s' = { s with toDatabase := db } := by
  grind [step, enqueue, queuedRun, Option.some.injEq]

theorem step_claim {workerID : WorkerId} {jobID : JobId}
    (h : step s (.claim workerID jobID executionID) = some s') :
    s'.toDatabase = (claim s.now workerID jobID s.toDatabase).2 ∧ s'.now = s.now ∧
      match (claim s.now workerID jobID s.toDatabase).1 with
      | .ready runID request =>
        s.executions.insert
          (startExecution s.now executionID workerID jobID runID request) = some s'.executions
      | _ => s'.executions = s.executions := by
  rw [step] at h
  generalize claim s.now workerID jobID s.toDatabase = result at h ⊢
  obtain ⟨outcome, db⟩ := result
  cases outcome with
  | ready runID request =>
    simp only [Option.map_eq_some_iff] at h
    obtain ⟨executions, hinsert, rfl⟩ := h
    exact ⟨rfl, rfl, hinsert⟩
  | unavailable | handled =>
    cases h
    exact ⟨rfl, rfl, rfl⟩

private theorem of_execution_move {found : Option Execution} {p : Execution → Prop}
    [DecidablePred p] {move : Execution → State}
    (h : (match found with
      | none => none
      | some e => if p e then some (move e) else none) = some s') :
    ∃ e, found = some e ∧ p e ∧ s' = move e := by
  grind

theorem step_settle {status : Status} {failureCategory failureReason : String}
    (h : step s (.settle executionID status failureCategory failureReason) = some s') :
    ∃ e, s.executions.get? executionID = some e ∧ e.phase = .executing ∧
      e.run.status = .running ∧ status.isWorkerOutcome = true ∧
      s' = s.setExecution executionID fun e =>
        { e with
          run := settleRun s.now status failureCategory failureReason e.run
          persisted := false } := by
  obtain ⟨e, he, ⟨hphase, hrunning, houtcome⟩, hs'⟩ := of_execution_move h
  exact ⟨e, he, hphase, hrunning, houtcome, hs'⟩

theorem step_save (h : step s (.save executionID) = some s') :
    ∃ e, s.executions.get? executionID = some e ∧ e.phase = .executing ∧
      s' = { s.setExecution executionID fun e => { e with persisted := true } with
        runs := save s.now e.run s.runs } :=
  of_execution_move h

theorem step_return {runErr : Bool} (h : step s (.return executionID runErr) = some s') :
    ∃ e, s.executions.get? executionID = some e ∧ e.phase = .executing ∧ e.MayReturn runErr ∧
      s' = s.setExecution executionID fun e => { e with phase := .returned runErr } := by
  obtain ⟨e, he, ⟨hphase, hmay⟩, hs'⟩ := of_execution_move h
  exact ⟨e, he, hphase, hmay, hs'⟩

theorem step_watchCancellation (h : step s (.watchCancellation executionID) = some s') :
    ∃ e, s.executions.get? executionID = some e ∧ e.phase = .executing ∧ e.cancelled = false ∧
      s' = { s.setExecution executionID fun row =>
          { row with cancelled := (watchCancellation s.now e.workerID e.jobId s.jobs).1 } with
        jobs := (watchCancellation s.now e.workerID e.jobId s.jobs).2 } := by
  obtain ⟨e, he, ⟨hphase, hcancelled⟩, hs'⟩ := of_execution_move h
  exact ⟨e, he, hphase, hcancelled, hs'⟩

theorem step_shutdown (h : step s (.shutdown executionID) = some s') :
    ∃ e, s.executions.get? executionID = some e ∧ e.phase = .executing ∧
      s' = s.setExecution executionID fun e => { e with cancelled := true } :=
  of_execution_move h

theorem step_complete (h : step s (.complete executionID) = some s') :
    ∃ e runErr, s.executions.get? executionID = some e ∧ e.phase = .returned runErr ∧
      s' = { s with
        toDatabase := complete s.now e.workerID e.jobId e.runId runErr e.cancelled s.toDatabase
        executions := s.executions.deleteWhere fun e => e.id = executionID } := by
  rw [step] at h
  cases he : s.executions.get? executionID with
  | none =>
    rw [he] at h
    contradiction
  | some e =>
    grind

theorem step_crash (h : step s (.crash executionID) = some s') :
    s' = { s with executions := s.executions.deleteWhere fun e => e.id = executionID } := by
  grind [step, Option.some.injEq]

end Accepted

/-! ## The effect of a step -/

def jobEffect (s : State) (a : Action) (job : ExecutionJob) : ExecutionJob :=
  match a with
  | .claim workerID jobID _ =>
    if job.id = jobID then claimedJob s.now workerID s.jobs job else job
  | .watchCancellation executionID =>
    match s.executions.get? executionID with
    | some e => if OwnLease e.workerID e.jobId job then renewLease s.now job else job
    | none => job
  | .complete executionID =>
    match s.executions.get? executionID with
    | some e =>
      if job.id = e.jobId ∧ job.leaseOwner = some e.workerID then
        completeJob s.now (completedStatus (e.phase = .returned true) e.cancelled) job
      else job
    | none => job
  | .requestCancel runID =>
    if (requestCancel s.now runID s.toDatabase).1 = true ∧ job.runId = runID ∧
        (job.status = .queued ∨ job.status = .leased) then
      cancelJob s.now job
    else job
  | .reclaimExpiredBatch locked =>
    if job ∈ expiredBatch s.now locked s.jobs then reclaimJob s.now job else job
  | _ => job

def runEffect (s : State) (a : Action) (row : MonitorRun) : MonitorRun :=
  match a with
  | .claim _ jobID _ => if SkipsRun s.now jobID s.jobs row then skipRun s.now row else row
  | .save executionID =>
    match s.executions.get? executionID with
    | some e => if row.id = e.run.id then savedRow s.now e.run row else row
    | none => row
  | .complete executionID =>
    match s.executions.get? executionID with
    | some e =>
      if e.phase = .returned true ∧ row.id = e.runId ∧ row.status.isTerminal = false then
        abortRun s.now "Execution stopped before a terminal result could be recorded." row
      else row
    | none => row
  | .requestCancel runID =>
    if row.id = runID ∧ row.status.isTerminal = false then cancelRun s.now row else row
  | .reclaimExpiredBatch locked =>
    if AbortsRun (expiredBatch s.now locked s.jobs) row then
      abortRun s.now leaseExpiredReason row
    else row
  | _ => row

/-- The job row a step adds under `k`. -/
def addedJob (a : Action) (k : JobId) : Option ExecutionJob :=
  match a with
  | .enqueue jobID runID request =>
    if jobID = k then some (queuedJob jobID runID request) else none
  | _ => none

/-- The run row a step adds under `k`. -/
def addedRun (a : Action) (k : RunId) : Option MonitorRun :=
  match a with
  | .enqueue _ runID request => if runID = k then some (queuedRun runID request) else none
  | _ => none

private theorem map_id_row {ρ : Type} (row : Option ρ) : row = (row.map fun r => r).or none := by
  cases row <;> rfl

variable {s s' : State}

/-- **All that a step does to the job table.** -/
theorem get?_step_jobs {a : Action} (h : step s a = some s') (k : JobId) :
    s'.jobs.get? k = ((s.jobs.get? k).map (jobEffect s a)).or (addedJob a k) := by
  cases a with
  | enqueue jobID runID request =>
    obtain ⟨db, henqueue, rfl⟩ := step_enqueue h
    obtain ⟨-, hjobs, -⟩ := enqueue_ok henqueue
    rw [Table.get?_insert hjobs]
    exact congrArg (Option.or · _) (Table.map_get?_eq_self fun _ _ => rfl).symm
  | claim workerID jobID executionID =>
    obtain ⟨hdb, -, -⟩ := step_claim h
    rw [hdb, get?_claim_jobs]
    exact (Option.or_none).symm
  | settle executionID status failureCategory failureReason =>
    obtain ⟨e, -, -, -, -, rfl⟩ := step_settle h
    exact map_id_row _
  | save executionID =>
    obtain ⟨e, -, -, rfl⟩ := step_save h
    exact map_id_row _
  | «return» executionID runErr =>
    obtain ⟨e, -, -, -, rfl⟩ := step_return h
    exact map_id_row _
  | watchCancellation executionID =>
    obtain ⟨e, he, -, -, rfl⟩ := step_watchCancellation h
    simp only [addedJob, Option.or_none, watchCancellation, Table.get?_update]
    exact Table.map_get?_congr fun job _ => by simp only [jobEffect, he]
  | shutdown executionID =>
    obtain ⟨e, -, -, rfl⟩ := step_shutdown h
    exact map_id_row _
  | complete executionID =>
    obtain ⟨e, runErr, he, hphase, rfl⟩ := step_complete h
    simp only [addedJob, Option.or_none, complete, Table.get?_update]
    refine Table.map_get?_congr fun job _ => ?_
    cases runErr <;> simp [jobEffect, he, hphase]
  | crash executionID =>
    rw [step_crash h]
    exact map_id_row _
  | tick elapsed =>
    cases h
    exact map_id_row _
  | requestCancel runID =>
    cases h
    simp only [addedJob, Option.or_none]
    cases haccepted : (requestCancel s.now runID s.toDatabase).1 with
    | true =>
      simp only [get?_requestCancel_jobs haccepted]
      exact Table.map_get?_congr fun job _ => by simp only [jobEffect, haccepted, true_and]
    | false =>
      rw [Table.map_get?_eq_self fun _ _ => by simp [jobEffect, haccepted]]
      exact congrArg (fun db : Database => db.jobs.get? k) (requestCancel_of_refused haccepted)
  | reclaimExpiredBatch locked =>
    cases h
    simp only [addedJob, Option.or_none]
    exact get?_reclaimExpiredBatch_jobs k

/-- **All that a step does to the run table**, when an execution's run is
stored. -/
theorem get?_step_runs {a : Action} (h : step s a = some s')
    (hstored : ∀ e ∈ s.executions, ∃ row, s.runs.get? e.run.id = some row) (k : RunId) :
    s'.runs.get? k = ((s.runs.get? k).map (runEffect s a)).or (addedRun a k) := by
  cases a with
  | enqueue jobID runID request =>
    obtain ⟨db, henqueue, rfl⟩ := step_enqueue h
    obtain ⟨hruns, -, -⟩ := enqueue_ok henqueue
    rw [Table.get?_insert hruns]
    exact congrArg (Option.or · _) (Table.map_get?_eq_self fun _ _ => rfl).symm
  | claim workerID jobID executionID =>
    obtain ⟨hdb, -, -⟩ := step_claim h
    rw [hdb, get?_claim_runs]
    exact (Option.or_none).symm
  | settle executionID status failureCategory failureReason =>
    obtain ⟨e, -, -, -, -, rfl⟩ := step_settle h
    exact map_id_row _
  | save executionID =>
    obtain ⟨e, he, -, rfl⟩ := step_save h
    obtain ⟨row, hrow⟩ := hstored e (Table.mem_of_get? he)
    have heffect : (s.runs.get? k).map (runEffect s (.save executionID)) =
        if k = e.run.id then (s.runs.get? k).map (savedRow s.now e.run) else s.runs.get? k := by
      rw [← Table.map_get?_ite_key]
      exact Table.map_get?_congr fun row _ => by simp only [runEffect, he]
    simp only [addedRun, Option.or_none, heffect, get?_save hrow]
    by_cases hk : k = e.run.id
    · rw [if_pos hk, if_pos hk, hk, hrow, Option.map_some]
    · rw [if_neg hk, if_neg hk]
  | «return» executionID runErr =>
    obtain ⟨e, -, -, -, rfl⟩ := step_return h
    exact map_id_row _
  | watchCancellation executionID =>
    obtain ⟨e, -, -, -, rfl⟩ := step_watchCancellation h
    exact map_id_row _
  | shutdown executionID =>
    obtain ⟨e, -, -, rfl⟩ := step_shutdown h
    exact map_id_row _
  | complete executionID =>
    obtain ⟨e, runErr, he, hphase, rfl⟩ := step_complete h
    simp only [addedRun, Option.or_none, complete]
    cases runErr with
    | false =>
      rw [Table.map_get?_eq_self fun row _ => by simp [runEffect, he, hphase]]
      rfl
    | true =>
      simp only [if_true, Table.get?_update]
      exact Table.map_get?_congr fun row _ => by simp only [runEffect, he, hphase, true_and]
  | crash executionID =>
    rw [step_crash h]
    exact map_id_row _
  | tick elapsed =>
    cases h
    exact map_id_row _
  | requestCancel runID =>
    cases h
    simp only [addedRun, Option.or_none]
    exact get?_requestCancel_runs k
  | reclaimExpiredBatch locked =>
    cases h
    simp only [addedRun, Option.or_none]
    exact get?_reclaimExpiredBatch_runs k

/-! ## The effect on an execution -/

/-- What a step leaves of an execution; `none` when it ends. -/
def executionEffect (s : State) (a : Action) (e : Execution) : Option Execution :=
  match a with
  | .settle executionID status failureCategory failureReason =>
    some (if e.id = executionID then
      { e with
        run := settleRun s.now status failureCategory failureReason e.run
        persisted := false }
      else e)
  | .save executionID => some (if e.id = executionID then { e with persisted := true } else e)
  | .return executionID runErr =>
    some (if e.id = executionID then { e with phase := .returned runErr } else e)
  | .watchCancellation executionID =>
    some (if e.id = executionID then
      { e with cancelled := (watchCancellation s.now e.workerID e.jobId s.jobs).1 } else e)
  | .shutdown executionID =>
    some (if e.id = executionID then { e with cancelled := true } else e)
  | .complete executionID => if e.id = executionID then none else some e
  | .crash executionID => if e.id = executionID then none else some e
  | .reclaimExpiredBatch locked =>
    some (if e.jobId ∈ s.reclaimedIds locked then { e with leaseLost := true } else e)
  | _ => some e

/-- The execution a step starts under `k`. -/
def startedExecution (s : State) (a : Action) (k : ExecutionId) : Option Execution :=
  match a with
  | .claim workerID jobID executionID =>
    match (claim s.now workerID jobID s.toDatabase).1 with
    | .ready runID request =>
      if executionID = k then
        some (startExecution s.now executionID workerID jobID runID request)
      else none
    | _ => none
  | _ => none

/-- **All that a step does to the executions.** -/
theorem get?_step_executions {a : Action} (h : step s a = some s') (k : ExecutionId) :
    s'.executions.get? k =
      ((s.executions.get? k).bind (executionEffect s a)).or (startedExecution s a k) := by
  have hsame : ∀ r : Option Execution, r = (r.bind some).or none := fun r => by
    cases r <;> rfl
  have hset : ∀ (id : ExecutionId) (f : Execution → Execution) (hf : Table.KeepsKey Execution.id f),
      (s.setExecution id f hf).executions.get? k =
        (s.executions.get? k).bind fun e => some (if e.id = id then f e else e) := by
    intro id f hf
    rw [State.setExecution, Table.get?_update, Option.map_eq_bind]
    rfl
  cases a with
  | enqueue jobID runID request =>
    obtain ⟨db, -, rfl⟩ := step_enqueue h
    exact hsame _
  | claim workerID jobID executionID =>
    obtain ⟨-, -, hexecutions⟩ := step_claim h
    simp only [startedExecution]
    cases hclaim : (claim s.now workerID jobID s.toDatabase).1 with
    | ready runID request =>
      rw [hclaim] at hexecutions
      rw [Table.get?_insert hexecutions]
      cases s.executions.get? k <;> rfl
    | unavailable | handled =>
      rw [hclaim] at hexecutions
      rw [hexecutions]
      exact hsame _
  | settle executionID status failureCategory failureReason =>
    obtain ⟨e, -, -, -, -, rfl⟩ := step_settle h
    simp only [startedExecution, Option.or_none, hset]
    rfl
  | save executionID =>
    obtain ⟨e, -, -, rfl⟩ := step_save h
    simp only [startedExecution, Option.or_none]
    exact hset _ _ _
  | «return» executionID runErr =>
    obtain ⟨e, -, -, -, rfl⟩ := step_return h
    simp only [startedExecution, Option.or_none, hset]
    rfl
  | watchCancellation executionID =>
    obtain ⟨e, he, -, -, rfl⟩ := step_watchCancellation h
    simp only [startedExecution, Option.or_none]
    refine (hset _ _ _).trans ?_
    cases hrow : s.executions.get? k with
    | none => rfl
    | some row =>
      by_cases hid : row.id = executionID
      · -- the watched execution is the row itself, so both read the same lease
        grind [Table.eq_of_key_eq, Table.mem_of_get?, Table.key_of_get?, executionEffect]
      · simp [executionEffect, hid]
  | shutdown executionID =>
    obtain ⟨e, -, -, rfl⟩ := step_shutdown h
    simp only [startedExecution, Option.or_none, hset]
    rfl
  | complete executionID =>
    obtain ⟨e, runErr, -, -, rfl⟩ := step_complete h
    simp only [startedExecution, Option.or_none, Table.get?_deleteWhere]
    rfl
  | crash executionID =>
    rw [step_crash h]
    simp only [startedExecution, Option.or_none, Table.get?_deleteWhere]
    rfl
  | tick elapsed | requestCancel runID =>
    cases h
    exact hsame _
  | reclaimExpiredBatch locked =>
    cases h
    simp only [startedExecution, Option.or_none, Table.get?_update, Option.map_eq_bind]
    rfl

end Rhythm.ExecutionJobs
