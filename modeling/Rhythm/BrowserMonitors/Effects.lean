import Rhythm.BrowserMonitors.Queue

/-!
# Rhythm.BrowserMonitors.Effects

What a step of the browser queue does, row by row: `runEffect`, `jobEffect` and
`workerEffect`, what a step adds to each table, and the rows of the next state
in terms of these.
-/

namespace Rhythm.BrowserMonitors

open Suites (WorkflowJob WorkflowJobTable queuedWorkflowJob leaseWorkflowJob completeWorkflowJob
  cancelWorkflowJobs workflowCancelRequested WorkflowLeaseExpired reapWorkflowJobs
  get?_reapWorkflowJobs)

section Effects

variable {s s' : State} {a : Action}

/-! ## One run, one job and one worker in a step -/

def State.write? (s : State) (executionID : ExecutionId) (move : Move) :
    Option (RunId × RunWrite) :=
  (s.workers.get? executionID).bind fun w => (w.write? move).map fun write => (w.runId, write)

def runEffect (s : State) (a : Action) (row : BrowserRun) : BrowserRun :=
  match a with
  | .execute executionID move =>
    match s.write? executionID move with
    | some (runID, write) => if row.id = runID then write.apply s.now row else row
    | none => row
  | .cancelRun runID =>
    if row.id = runID ∧ terminal row.status = false then cancelRow s.now row else row
  | .reapExpiredBrowserJobs locked =>
    if ∃ item ∈ expiredBrowserJobs s.now locked s.jobs,
        row.id = item.runId ∧ terminal row.status = false then
      reapRow s.now row
    else row
  | _ => row

def jobEffect (s : State) (a : Action) (job : WorkflowJob) : WorkflowJob :=
  match a with
  | .claimBrowserJob workerID jobID _ =>
    if job.id = jobID then leaseBrowserJob s.now workerID job else job
  | .watchBrowserJob executionID =>
    match s.workers.get? executionID with
    | none => job
    | some w =>
      if some job.id = w.jobId ∧ job.status = .leased ∧ job.leaseOwner = some w.workerID then
        { job with leaseExpiresAt := some (s.now + browserLeaseDuration) }
      else job
  | .completeBrowserJob executionID =>
    match s.workers.get? executionID with
    | none => job
    | some w =>
      if some job.id = w.jobId ∧ job.leaseOwner = some w.workerID then
        { job with
          status :=
            if w.stage = .completing then .failed
            else if w.cancelRequested then .cancelled else .succeeded
          completedAt := some s.now
          leaseOwner := none
          leaseExpiresAt := none }
      else job
  | .cancelRun runID =>
    if job.runId = runID ∧ (job.status = .queued ∨ job.status = .leased) then
      { job with
        cancelRequestedAt := some s.now
        status := if job.status = .queued then .cancelled else job.status
        completedAt := if job.status = .queued then some s.now else job.completedAt }
    else job
  | .reapExpiredBrowserJobs locked =>
    if ∃ item ∈ expiredBrowserJobs s.now locked s.jobs, job.id = item.id then
      { job with
        status := .failed, completedAt := some s.now, leaseOwner := none, leaseExpiresAt := none }
    else job
  | _ => job

def workerEffect (s : State) (a : Action) (w : Worker) : Option Worker :=
  match a with
  | .insertRun executionID =>
    if w.id = executionID then some { w with stage := .loaded } else some w
  | .load executionID succeeds =>
    if w.id = executionID then
      match (s.runs.get? w.runId).bind fun run => s.monitors.get? run.monitorId with
      | some monitor =>
        if succeeds then some { w with monitor := some monitor, stage := .loaded }
        else some { w with stage := .loadFailed }
      | none => some { w with stage := .loadFailed }
    else some w
  | .execute executionID move =>
    if w.id = executionID then (w.next move).map fun stage => { w with stage := stage } else some w
  | .watchBrowserJob executionID =>
    if w.id = executionID then
      w.jobId.map fun jobID =>
        let requested := workflowCancelRequested w.workerID jobID s.jobs
        let stopped := requested || !holdsLease w.workerID jobID s.jobs
        { w with
          cancelRequested := w.cancelRequested || requested
          contextCancelled := w.contextCancelled || stopped }
    else some w
  | .cancelContext executionID =>
    if w.id = executionID then some { w with contextCancelled := true } else some w
  | .completeBrowserJob executionID | .crash executionID =>
    if w.id = executionID then none else some w
  | _ => some w

def addedRun (s : State) (a : Action) : Option BrowserRun :=
  match a with
  | .startRun monitorID runID _ => some (queuedRun runID monitorID)
  | .insertRun executionID =>
    (s.workers.get? executionID).bind fun w =>
      w.monitor.map fun monitor => queuedRun w.runId monitor.id
  | _ => none

def addedJob (a : Action) : Option WorkflowJob :=
  match a with
  | .startRun _ runID jobID => some (queuedWorkflowJob jobID runID)
  | _ => none

def startedWorker (s : State) (a : Action) : Option Worker :=
  match a with
  | .getMonitor executionID workerID monitorID runID =>
    (s.monitors.get? monitorID).map fun monitor =>
      ⟨executionID, none, runID, workerID, some monitor, .inserting, false, false⟩
  | .claimBrowserJob workerID jobID executionID =>
    (s.jobs.get? jobID).map fun job =>
      ⟨executionID, some jobID, job.runId, workerID, none, .claimed, false, false⟩
  | _ => none

/-! ## What the guards of a step found -/

theorem step_startRun {monitorID : MonitorId} {runID : RunId} {jobID : JobId}
    (h : step s (.startRun monitorID runID jobID) = some s') :
    s.runs.insert (queuedRun runID monitorID) = some s'.runs ∧
      s.jobs.insert (queuedWorkflowJob jobID runID) = some s'.jobs ∧ s'.workers = s.workers := by
  simp only [step] at h
  split at h
  · rename_i monitor runs jobs _ hruns hjobs
    cases h
    exact ⟨hruns, hjobs, rfl⟩
  · contradiction

variable {executionID : ExecutionId}

theorem step_getMonitor {workerID : WorkerId} {monitorID : MonitorId}
    {runID : RunId} (h : step s (.getMonitor executionID workerID monitorID runID) = some s') :
    ∃ monitor, s.monitors.get? monitorID = some monitor ∧
      s.workers.insert
          ⟨executionID, none, runID, workerID, some monitor, .inserting, false, false⟩ =
        some s'.workers ∧ s'.runs = s.runs ∧ s'.jobs = s.jobs := by
  simp only [step] at h
  split at h
  · contradiction
  · rename_i monitor hmonitor
    obtain ⟨workers, hworkers, rfl⟩ := Option.map_eq_some_iff.mp h
    exact ⟨monitor, hmonitor, hworkers, rfl, rfl⟩

theorem step_insertRun (h : step s (.insertRun executionID) = some s') :
    ∃ w monitor, s.workers.get? executionID = some w ∧ w.stage = .inserting ∧
      w.monitor = some monitor ∧ s.runs.insert (queuedRun w.runId monitor.id) = some s'.runs ∧
      s'.jobs = s.jobs ∧
      s'.workers = (s.setWorker executionID fun w => { w with stage := .loaded }).workers := by
  simp only [step] at h
  split at h
  · contradiction
  · rename_i w hw
    split at h
    · rename_i monitor hstage hmonitor
      obtain ⟨runs, hruns, rfl⟩ := Option.map_eq_some_iff.mp h
      exact ⟨w, monitor, hw, hstage, hmonitor, hruns, rfl, rfl⟩
    · contradiction

theorem step_claim {workerID : WorkerId} {jobID : JobId}
    (h : step s (.claimBrowserJob workerID jobID executionID) = some s') :
    ∃ job, s.jobs.get? jobID = some job ∧ job.status = .queued ∧ s'.runs = s.runs ∧
      s'.jobs = s.jobs.update (fun row => row.id = jobID) (leaseBrowserJob s.now workerID) ∧
      s.workers.insert
          ⟨executionID, some jobID, job.runId, workerID, none, .claimed, false, false⟩ =
        some s'.workers := by
  simp only [step] at h
  split at h
  · contradiction
  · rename_i job hjob
    split at h
    · rename_i hqueued
      obtain ⟨workers, hworkers, rfl⟩ := Option.map_eq_some_iff.mp h
      exact ⟨job, hjob, hqueued.1, rfl, rfl, hworkers⟩
    · contradiction

theorem step_execute {move : Move} (h : step s (.execute executionID move) = some s') :
    ∃ w stage, s.workers.get? executionID = some w ∧ w.next move = some stage ∧
      w.bookkeeping s.now move s.monitors s.alerts = some (s'.monitors, s'.alerts) ∧
      s'.runs = writeRun s.now w.runId (w.write? move) s.runs ∧ s'.jobs = s.jobs ∧
      s'.workers = (s.setWorker executionID fun w => { w with stage := stage }).workers := by
  simp only [step] at h
  split at h
  · contradiction
  · rename_i w hw
    split at h
    · rename_i stage monitors alerts hnext hbooks
      cases h
      exact ⟨w, stage, hw, hnext, hbooks, rfl, rfl, rfl⟩
    · contradiction

theorem step_complete (h : step s (.completeBrowserJob executionID) = some s') :
    ∃ w, s.workers.get? executionID = some w ∧ w.mayComplete = true ∧ s'.runs = s.runs := by
  grind [step]

/-! ## The next state -/

/-- **The runs of the next state.** -/
theorem runs_step (h : step s a = some s') :
    Table.Becomes s.runs s'.runs (fun row => some (runEffect s a row)) (addedRun s a) := by
  cases a with
  | startRun monitorID runID jobID =>
    obtain ⟨hruns, -, -⟩ := step_startRun h
    exact Table.becomes_insert hruns
  | insertRun executionID =>
    obtain ⟨w, monitor, hw, -, hmonitor, hruns, -⟩ := step_insertRun h
    have hadded : addedRun s (.insertRun executionID) = some (queuedRun w.runId monitor.id) := by
      simp [addedRun, hw, hmonitor]
    rw [hadded]
    exact Table.becomes_insert hruns
  | execute executionID move =>
    obtain ⟨w, stage, hw, -, -, hruns, -⟩ := step_execute h
    rw [hruns]
    cases hwrite : w.write? move with
    | none =>
      refine (Table.becomes_self _).congr fun row _ => ?_
      simp only [runEffect, State.write?, hw, hwrite, Option.bind_some, Option.map_none]
    | some write =>
      refine Table.becomes_of_map fun k => ?_
      simp only [writeRun, Table.get?_update]
      exact Table.map_get?_congr fun row _ => by
        simp only [runEffect, State.write?, hw, hwrite, Option.bind_some, Option.map_some]
  | cancelRun runID =>
    simp only [step] at h
    split at h
    · cases h
      refine Table.becomes_of_map fun k => ?_
      simp only [Table.get?_update]
      rfl
    · contradiction
  | reapExpiredBrowserJobs locked =>
    cases h
    refine Table.becomes_of_map fun k => ?_
    rw [Table.get?_foldl_update_of_stable fun _ row hmet => absurd hmet.2 (by
      simp [reapRow, terminal])]
    rfl
  | getMonitor executionID workerID monitorID runID =>
    obtain ⟨monitor, -, -, hruns, -⟩ := step_getMonitor h
    rw [hruns]
    exact Table.becomes_self _
  | claimBrowserJob workerID jobID executionID =>
    obtain ⟨job, -, -, hruns, -⟩ := step_claim h
    rw [hruns]
    exact Table.becomes_self _
  | _ =>
    have hkept : s'.runs = s.runs := by
      simp only [step, Option.map_eq_some_iff] at h
      grind [State.setWorker]
    rw [hkept]
    exact Table.becomes_self _

/-- **The jobs of the next state.** -/
theorem jobs_step (h : step s a = some s') :
    Table.Becomes s.jobs s'.jobs (fun job => some (jobEffect s a job)) (addedJob a) := by
  cases a with
  | startRun monitorID runID jobID =>
    obtain ⟨-, hjobs, -⟩ := step_startRun h
    exact Table.becomes_insert hjobs
  | claimBrowserJob workerID jobID executionID =>
    obtain ⟨job, -, -, -, hjobs, -⟩ := step_claim h
    refine Table.becomes_of_map fun k => ?_
    rw [hjobs, Table.get?_update]
    rfl
  | watchBrowserJob executionID =>
    simp only [step] at h
    split at h
    · contradiction
    · rename_i w hw
      split at h
      · contradiction
      · rename_i jobID hjobID
        cases h
        refine Table.becomes_of_map fun k => ?_
        simp only [renewBrowserLease, Table.get?_update]
        exact Table.map_get?_congr fun job _ => by
          simp only [jobEffect, hw, hjobID, Option.some.injEq]
  | completeBrowserJob executionID =>
    simp only [step] at h
    split at h
    · contradiction
    · rename_i w hw
      split at h
      · cases h
        cases hjobID : w.jobId with
        | none =>
          refine (Table.becomes_self _).congr fun job _ => ?_
          simp [jobEffect, hw, hjobID]
        | some jobID =>
          refine Table.becomes_of_map fun k => ?_
          simp only [completeWorkflowJob, Table.get?_update]
          refine Table.map_get?_congr fun job _ => ?_
          by_cases hcompleting : w.stage = .completing <;> simp [jobEffect, hw, hjobID, hcompleting]
      · contradiction
  | cancelRun runID =>
    simp only [step] at h
    split at h
    · cases h
      refine Table.becomes_of_map fun k => ?_
      simp only [cancelWorkflowJobs, Table.get?_update]
      rfl
    · contradiction
  | reapExpiredBrowserJobs locked =>
    cases h
    exact Table.becomes_of_map fun k => get?_reapWorkflowJobs ..
  | getMonitor executionID workerID monitorID runID =>
    obtain ⟨monitor, -, -, -, hjobs⟩ := step_getMonitor h
    rw [hjobs]
    exact Table.becomes_self _
  | insertRun executionID =>
    obtain ⟨w, monitor, -, -, -, -, hjobs, -⟩ := step_insertRun h
    rw [hjobs]
    exact Table.becomes_self _
  | _ =>
    have hkept : s'.jobs = s.jobs := by
      simp only [step, Option.map_eq_some_iff] at h
      grind [State.setWorker]
    rw [hkept]
    exact Table.becomes_self _

theorem becomes_setWorker {f : Worker → Worker} {hf : Table.KeepsKey Worker.id f}
    (heffect : ∀ w, s.workers.get? executionID = some w → workerEffect s a w = some (f w))
    (hother : ∀ w, w.id ≠ executionID → workerEffect s a w = some w) :
    Table.Becomes s.workers (s.setWorker executionID f hf).workers (workerEffect s a) none := by
  have hmap : Table.Becomes s.workers (s.setWorker executionID f hf).workers
      (fun w => some (if w.id = executionID then f w else w)) none :=
    Table.becomes_of_map fun k => by simp only [State.setWorker, Table.get?_update]
  refine hmap.congr fun w hw => ?_
  by_cases hid : w.id = executionID
  · rw [if_pos hid, heffect w (hid ▸ Table.get?_of_mem hw)]
  · rw [if_neg hid, hother w hid]

/-- **The workers of the next state.** -/
theorem workers_step (h : step s a = some s') :
    Table.Becomes s.workers s'.workers (workerEffect s a) (startedWorker s a) := by
  cases a with
  | startRun monitorID runID jobID =>
    obtain ⟨-, -, hworkers⟩ := step_startRun h
    rw [hworkers]
    exact Table.becomes_self _
  | getMonitor executionID workerID monitorID runID =>
    obtain ⟨monitor, hmonitor, hworkers, -⟩ := step_getMonitor h
    rw [startedWorker, hmonitor]
    exact Table.becomes_insert hworkers
  | insertRun executionID =>
    obtain ⟨w, monitor, hw, -, -, -, -, hworkers⟩ := step_insertRun h
    rw [hworkers]
    refine becomes_setWorker (fun w hw => ?_) fun w hid => if_neg hid
    exact if_pos (Table.key_of_get? hw)
  | claimBrowserJob workerID jobID executionID =>
    obtain ⟨job, hjob, -, -, -, hworkers⟩ := step_claim h
    rw [startedWorker, hjob]
    exact Table.becomes_insert hworkers
  | load executionID succeeds =>
    simp only [step] at h
    split at h
    · contradiction
    · rename_i w hw
      split at h
      · have hread : ∀ w', s.workers.get? executionID = some w' → w' = w := fun w' hw' =>
          Option.some.inj (hw'.symm.trans hw)
        have hid := Table.key_of_get? hw
        split at h
        · rename_i monitor hmonitor
          split at h
          · rename_i hsucceeds
            cases h
            refine becomes_setWorker (fun w' hw' => ?_) fun w hid => if_neg hid
            obtain rfl := hread w' hw'
            simp [workerEffect, hid, hmonitor, hsucceeds]
          · rename_i hsucceeds
            cases h
            refine becomes_setWorker (fun w' hw' => ?_) fun w hid => if_neg hid
            obtain rfl := hread w' hw'
            simp [workerEffect, hid, hmonitor, hsucceeds]
        · rename_i hmonitor
          cases h
          refine becomes_setWorker (fun w' hw' => ?_) fun w hid => if_neg hid
          obtain rfl := hread w' hw'
          simp [workerEffect, hid, hmonitor]
      · contradiction
  | execute executionID move =>
    obtain ⟨w, stage, hw, hnext, -, -, -, hworkers⟩ := step_execute h
    rw [hworkers]
    refine becomes_setWorker (fun w' hw' => ?_) fun w hid => if_neg hid
    obtain rfl : w' = w := Option.some.inj (hw'.symm.trans hw)
    simp [workerEffect, Table.key_of_get? hw, hnext]
  | watchBrowserJob executionID =>
    simp only [step] at h
    split at h
    · contradiction
    · rename_i w hw
      split at h
      · contradiction
      · rename_i jobID hjobID
        cases h
        show Table.Becomes s.workers (s.setWorker executionID _).workers _ _
        refine becomes_setWorker (fun w' hw' => ?_) fun w hid => if_neg hid
        obtain rfl : w' = w := Option.some.inj (hw'.symm.trans hw)
        simp [workerEffect, Table.key_of_get? hw, hjobID]
  | cancelContext executionID =>
    cases h
    exact becomes_setWorker (fun w hw => if_pos (Table.key_of_get? hw)) fun w hid => if_neg hid
  | completeBrowserJob executionID =>
    simp only [step] at h
    split at h
    · contradiction
    · split at h
      · cases h
        exact Table.becomes_deleteWhere
      · contradiction
  | crash executionID =>
    cases h
    exact Table.becomes_deleteWhere
  | _ =>
    have hkept : s'.workers = s.workers := by
      simp only [step, Option.map_eq_some_iff] at h
      grind
    rw [hkept]
    exact Table.becomes_self _

/-! ## What the effects keep -/

theorem runEffect_ids (row : BrowserRun) :
    (runEffect s a row).id = row.id ∧ (runEffect s a row).monitorId = row.monitorId := by
  cases a with
  | reapExpiredBrowserJobs locked =>
    simp only [runEffect]
    split <;> exact ⟨rfl, rfl⟩
  | execute executionID move =>
    simp only [runEffect]
    split
    · split <;> simp
    · exact ⟨rfl, rfl⟩
  | cancelRun runID =>
    simp only [runEffect, cancelRow]
    grind
  | _ => exact ⟨rfl, rfl⟩

theorem jobEffect_ids (job : WorkflowJob) :
    (jobEffect s a job).id = job.id ∧ (jobEffect s a job).runId = job.runId := by
  cases a with
  | reapExpiredBrowserJobs locked =>
    simp only [jobEffect]
    split <;> exact ⟨rfl, rfl⟩
  | _ =>
    simp only [jobEffect]
    grind [leaseBrowserJob, leaseWorkflowJob]

theorem workerEffect_ids {w w' : Worker} (h : workerEffect s a w = some w') :
    w'.id = w.id ∧ w'.jobId = w.jobId ∧ w'.runId = w.runId := by
  cases a with
  | execute executionID move =>
    simp only [workerEffect] at h
    split at h
    · obtain ⟨stage, -, rfl⟩ := Option.map_eq_some_iff.mp h
      exact ⟨rfl, rfl, rfl⟩
    · cases h
      exact ⟨rfl, rfl, rfl⟩
  | watchBrowserJob executionID =>
    simp only [workerEffect] at h
    split at h
    · obtain ⟨jobID, -, rfl⟩ := Option.map_eq_some_iff.mp h
      exact ⟨rfl, rfl, rfl⟩
    · cases h
      exact ⟨rfl, rfl, rfl⟩
  | _ =>
    simp only [workerEffect] at h
    grind

theorem mem_runEffect (h : step s a = some s') {row : BrowserRun} (hrow : row ∈ s.runs) :
    runEffect s a row ∈ s'.runs :=
  (runs_step h).mem hrow rfl

theorem mem_jobEffect (h : step s a = some s') {job : WorkflowJob} (hjob : job ∈ s.jobs) :
    jobEffect s a job ∈ s'.jobs :=
  (jobs_step h).mem hjob rfl

theorem job_cases (h : step s a = some s') {job' : WorkflowJob} (hjob' : job' ∈ s'.jobs) :
    (∃ job ∈ s.jobs, jobEffect s a job = job') ∨
      ∃ monitorID runID jobID, a = .startRun monitorID runID jobID ∧
        job' = queuedWorkflowJob jobID runID := by
  rcases (jobs_step h).cases hjob' with ⟨job, hjob, heffect⟩ | hadded
  · exact .inl ⟨job, hjob, Option.some.inj heffect⟩
  · cases a with
    | startRun monitorID runID jobID =>
      exact .inr ⟨monitorID, runID, jobID, rfl, (Option.some.inj hadded).symm⟩
    | _ => simp [addedJob] at hadded

theorem worker_cases (h : step s a = some s') {w' : Worker} (hw' : w' ∈ s'.workers) :
    (∃ w ∈ s.workers, workerEffect s a w = some w') ∨
      (w'.stage = .inserting ∧ w'.jobId = none) ∨
      ∃ workerID executionID job, job ∈ s.jobs ∧
        a = .claimBrowserJob workerID job.id executionID ∧
        w' = ⟨executionID, some job.id, job.runId, workerID, none, .claimed, false, false⟩ := by
  rcases (workers_step h).cases hw' with hold | hadded
  · exact .inl hold
  · cases a with
    | getMonitor executionID workerID monitorID runID =>
      obtain ⟨monitor, -, rfl⟩ := Option.map_eq_some_iff.mp hadded
      exact .inr (.inl ⟨rfl, rfl⟩)
    | claimBrowserJob workerID jobID executionID =>
      obtain ⟨job, hjob, rfl⟩ := Option.map_eq_some_iff.mp hadded
      obtain ⟨hmem, rfl⟩ := Table.get?_eq_some_iff.mp hjob
      exact .inr (.inr ⟨workerID, executionID, job, hmem, rfl, rfl⟩)
    | _ => simp [startedWorker] at hadded

theorem stage_of_write {w : Worker} {move : Move} {write : RunWrite}
    (h : w.write? move = some write) : w.stage ≠ .inserting := by
  intro hstage
  cases move <;> simp only [Worker.write?, hstage] at h <;> grind

theorem inserting_of_workerEffect (h : step s a = some s') {w w' : Worker} (hw : w ∈ s.workers)
    (heffect : workerEffect s a w = some w') (hstarted : w'.stage ≠ .inserting) :
    w.stage ≠ .inserting ∨ a = .insertRun w.id := by
  by_cases hstage : w.stage = .inserting
  · refine .inr ?_
    cases a with
    | insertRun executionID =>
      grind [workerEffect]
    | load executionID succeeds =>
      grind [Table.get?_of_mem, step, workerEffect, Option.some.injEq]
    | execute executionID move =>
      by_cases hid : w.id = executionID
      · rw [workerEffect, if_pos hid] at heffect
        have hnext : w.next move = none := by
          cases move <;> simp [Worker.next, hstage]
        simp [hnext] at heffect
      · rw [workerEffect, if_neg hid, Option.some.injEq] at heffect
        exact absurd (heffect ▸ hstage) hstarted
    | watchBrowserJob executionID =>
      simp only [workerEffect] at heffect
      split at heffect
      · obtain ⟨jobID, -, rfl⟩ := Option.map_eq_some_iff.mp heffect
        exact absurd hstage hstarted
      · cases heffect
        exact absurd hstage hstarted
    | _ =>
      simp only [workerEffect] at heffect
      grind
  · exact .inl hstage

theorem next_ne_inserting {w : Worker} {move : Move} : w.next move ≠ some .inserting := by
  cases move with
  | prepare preparation =>
    cases preparation <;> cases hstage : w.stage <;>
      simp [Worker.next, hstage, Preparation.failure?]
  | runnerExecute result =>
    cases result <;> cases hstage : w.stage <;> simp [Worker.next, hstage]
  | persistResult newAlertID committed =>
    cases committed <;> cases hstage : w.stage <;> simp [Worker.next, hstage]
  | _ => cases hstage : w.stage <;> simp [Worker.next, hstage]

end Effects

end Rhythm.BrowserMonitors
