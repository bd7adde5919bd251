import Rhythm.ExecutionJobs.Invariant

/-!
# Rhythm.ExecutionJobs.Processing

Is every finished run processed exactly once?  The terminal processing of a run (its alert
evaluation, hourly rollup and current health) is done by the `save` that claims it, in the same
transaction.  But `RequestCancel`, `skipOverlapping`, `complete` and `reclaimExpiredBatch` end runs
too, and process none.

`processed_nodup_of_reachable`: no run is processed twice.  `processedOnce_along_iff`: every
finished run has been processed exactly when those four end none that has not been.

Some runs are executed by the request that asks for them (`Run`), outside the queue.
-/

namespace Rhythm.ExecutionJobs

open Runs RunRepository

/-! ## Runs outside the queue -/

/-- The queue, and the runs that `Run` calls hold in memory. -/
structure Runner extends State where
  direct : RunTable

inductive Move where
  | queue (action : Action)
  /-- `Run` starts under a new id. -/
  | start (runID : RunId) (request : QueueRequest)
  /-- Its workflow reaches a result, in memory. -/
  | settle (runID : RunId) (status : Status) (failureCategory failureReason : String)
  /-- A save of it that commits. -/
  | save (runID : RunId)
  /-- `Run` returns. -/
  | finish (runID : RunId)

def DrawsNew (direct : RunTable) : Action → Prop
  | .enqueue _ runID _ => direct.get? runID = none
  | _ => True

instance (direct : RunTable) : DecidablePred (DrawsNew direct) := fun a => by
  unfold DrawsNew
  split <;> infer_instance

/-- **One step of the queue, or of a run outside it.** -/
def move (x : Runner) : Move → Option Runner
  | .queue action =>
    if DrawsNew x.direct action then
      (step x.toState action).map fun s => { x with toState := s }
    else none
  | .start runID request =>
    if x.runs.get? runID = none then
      (x.direct.insert (startedRun x.now runID request)).map fun direct => { x with direct }
    else none
  | .settle runID status failureCategory failureReason =>
    match x.direct.get? runID with
    | none => none
    | some run =>
      if run.status = .running ∧ status.isWorkerOutcome = true then
        some { x with
          direct := x.direct.update (fun run => run.id = runID)
            (settleRun x.now status failureCategory failureReason) }
      else none
  | .save runID =>
    (x.direct.get? runID).map fun run => { x with runs := save x.now run x.runs }
  | .finish runID => some { x with direct := x.direct.deleteWhere fun run => run.id = runID }

def idle (now : Time) : Runner := ⟨initial now, .empty⟩

/-! ## What has been processed -/

def savedRun? (x : Runner) : Move → Option MonitorRun
  | .queue (.save executionID) => (x.executions.get? executionID).map Execution.run
  | .save runID => x.direct.get? runID
  | _ => none

def origin (run : MonitorRun) : TriggerType × MonitorId × Time :=
  (run.triggerType, run.monitorId, run.createdAt)

/-- The `save` processes the run: it is the first one that finds it terminal. -/
def Processes (runs : RunTable) (run : MonitorRun) : Prop :=
  run.triggerType ≠ .manualDraft ∧ run.status.isTerminal = true ∧
    ∀ row ∈ runs.get? run.id, row.terminalProcessedAt = none

instance (runs : RunTable) (run : MonitorRun) : Decidable (Processes runs run) :=
  inferInstanceAs (Decidable (_ ∧ _ ∧ _))

def processings (x : Runner) (m : Move) (_ : Runner) (processed : List RunId) : List RunId :=
  match savedRun? x m with
  | some run => if Processes x.runs run then run.id :: processed else processed
  | none => processed

/-- The steps, with the runs that have been processed. -/
abbrev processingMove : Runner × List RunId → Move → Option (Runner × List RunId) :=
  recording move processings

/-- No run has been processed twice, and every finished one has been. -/
def ProcessedOnce (x : Runner × List RunId) : Prop :=
  x.2.Nodup ∧ ∀ row ∈ x.1.runs, row.triggerType ≠ .manualDraft → row.status.isFinal = true →
    x.2.count row.id = 1

instance (x : Runner × List RunId) : Decidable (ProcessedOnce x) :=
  inferInstanceAs (Decidable (_ ∧ ∀ row ∈ x.1.runs, _))

/-- A statement of the queue, other than a save, ends the run. -/
def Ends (s : State) (row : MonitorRun) : Action → Prop
  | .claim _ jobID _ => SkipsRun s.now jobID s.jobs row
  | .complete executionID => ∃ e ∈ s.executions.get? executionID,
    e.phase = .returned true ∧ row.id = e.runId ∧ row.status.isTerminal = false
  | .requestCancel runID => row.id = runID ∧ row.status.isPending = true
  | .reclaimExpiredBatch locked => AbortsRun (expiredBatch s.now locked s.jobs) row
  | _ => False

/-- **The condition on a step.**  Only a save ends a run that is not a draft run and has not been
processed. -/
def EndsBySave (x : Runner × List RunId) (m : Move) (_ : Runner × List RunId) : Prop :=
  match m with
  | .queue action => ∀ row ∈ x.1.runs, row.triggerType ≠ .manualDraft →
    row.terminalProcessedAt = none → ¬ Ends x.1.toState row action
  | _ => True

/-! ## What a step does to a run -/

section Step

variable {x x' : Runner} {m : Move} {s s' : State} {a : Action} {row : MonitorRun}

theorem move_queue (h : move x (.queue a) = some x') :
    DrawsNew x.direct a ∧ step x.toState a = some x'.toState ∧ x'.direct = x.direct := by
  rw [move, Option.ite_none_right_eq_some, Option.map_eq_some_iff] at h
  obtain ⟨hnew, s', hstep, rfl⟩ := h
  exact ⟨hnew, hstep, rfl⟩

theorem runEffect_of_not_save (hsave : savedRun? x (.queue a) = none)
    (hstep : step x.toState a = some s') :
    (runEffect x.toState a row).triggerType = row.triggerType ∧
      (runEffect x.toState a row).terminalProcessedAt = row.terminalProcessedAt := by
  cases a with
  | save executionID =>
    obtain ⟨e, he, -⟩ := step_save hstep
    rw [savedRun?, he] at hsave
    contradiction
  | complete executionID =>
    simp only [runEffect]
    split
    · split <;> exact ⟨rfl, rfl⟩
    · exact ⟨rfl, rfl⟩
  | claim | requestCancel | reclaimExpiredBatch =>
    simp only [runEffect]
    split <;> exact ⟨rfl, rfl⟩
  | _ => exact ⟨rfl, rfl⟩

/-- **It ends the runs it ends, and no other.** -/
theorem isFinal_runEffect_iff (hsave : savedRun? x (.queue a) = none)
    (hstep : step x.toState a = some s') (hopen : row.status.isFinal = false) :
    (runEffect x.toState a row).status.isFinal = true ↔ Ends x.toState row a := by
  have hsame : row.status.isFinal = true ↔ False := by simp [hopen]
  cases a with
  | save executionID =>
    obtain ⟨e, he, -⟩ := step_save hstep
    rw [savedRun?, he] at hsave
    contradiction
  | claim workerID jobID executionID =>
    grind [runEffect, Ends, skipRun, Status.isFinal]
  | complete executionID | reclaimExpiredBatch locked =>
    grind [runEffect, Ends, abortRun, Status.isFinal, Status.isTerminal]
  | requestCancel runID =>
    grind [runEffect, Ends, cancelRun, Status.isFinal, Status.isTerminal]
  | _ => exact hsame

/-! ## The runs after a step -/

theorem runs_of_move (h : move x m = some x') :
    (∃ run, savedRun? x m = some run ∧ x'.runs = save x.now run x.runs) ∨
      (savedRun? x m = none ∧ ((∃ action, m = .queue action) ∨
        (∀ action, m ≠ .queue action) ∧ x'.runs = x.runs)) := by
  cases m with
  | queue action =>
    obtain ⟨-, hstep, -⟩ := move_queue h
    cases action with
    | save executionID =>
      obtain ⟨e, he, -, hs⟩ := step_save hstep
      refine .inl ⟨e.run, by rw [savedRun?, he]; rfl, ?_⟩
      rw [hs]
    | _ => exact .inr ⟨rfl, .inl ⟨_, rfl⟩⟩
  | start runID request =>
    rw [move, Option.ite_none_right_eq_some, Option.map_eq_some_iff] at h
    obtain ⟨-, direct, -, rfl⟩ := h
    exact .inr ⟨rfl, .inr ⟨nofun, rfl⟩⟩
  | settle runID status failureCategory failureReason =>
    rw [move] at h
    split at h
    · contradiction
    · rw [guarded_eq_some_iff] at h
      exact .inr ⟨rfl, .inr ⟨nofun, by rw [← h.2]⟩⟩
  | save runID =>
    obtain ⟨run, hrun, rfl⟩ := Option.map_eq_some_iff.mp h
    exact .inl ⟨run, hrun, rfl⟩
  | finish runID =>
    cases h
    exact .inr ⟨rfl, .inr ⟨nofun, rfl⟩⟩

theorem origin_runEffect : origin (runEffect s a row) = origin row := by
  cases a with
  | save | complete =>
    simp only [runEffect]
    split
    · split <;> rfl
    · rfl
  | claim | requestCancel | reclaimExpiredBatch =>
    simp only [runEffect]
    split <;> rfl
  | _ => rfl

theorem run_executionEffect {e e' : Execution} (h : executionEffect s a e = some e') :
    e'.run.id = e.run.id ∧ origin e'.run = origin e.run := by
  cases a <;> simp only [executionEffect, Option.some.injEq, Option.ite_none_left_eq_some] at h <;>
    grind [settleRun, origin]

variable {run : MonitorRun}

theorem origin_storedRow {now : Time} {old : Option MonitorRun}
    (h : ∀ row ∈ old, origin row = origin run) :
    origin (storedRow now run old) = origin run := by
  cases old with
  | none => rfl
  | some row => exact h row rfl

theorem terminalProcessedAt_storedRow {now : Time} {old : Option MonitorRun} :
    (storedRow now run old).terminalProcessedAt.isSome = true ↔
      (run.triggerType ≠ .manualDraft ∧ run.status.isTerminal = true) ∨
        ∃ row ∈ old, row.terminalProcessedAt.isSome = true := by
  cases old with
  | none =>
    simp only [storedRow, insertedRow, claimTerminalProcessing]
    split
    · rename_i h
      simp [h.1, h.2]
    · rename_i h
      simp [h]
  | some row =>
    grind [storedRow, savedRow, claimTerminalProcessing, overwrite]

/-- The origin of the run that a worker holds is the one of the stored run, and a run outside the
queue has no job. -/
structure Origins (x : Runner) : Prop where
  queue : Invariant x.toState
  job : ∀ job ∈ x.jobs, ∀ row ∈ x.runs.get? job.runId,
    origin row = origin (queuedRun job.runId job.payload)
  execution : ∀ e ∈ x.executions, ∀ row ∈ x.runs.get? e.run.id, origin row = origin e.run
  direct : ∀ run ∈ x.direct, (∀ job ∈ x.jobs, job.runId ≠ run.id) ∧
    (∀ row ∈ x.runs.get? run.id, origin row = origin run) ∧
    (run.status = .running ∨ run.status.isWorkerOutcome = true)

/-- The processed runs are the claimed ones. -/
structure Claims (runs : RunTable) (processed : List RunId) : Prop where
  claimed : ∀ id, id ∈ processed ↔
    ∃ row ∈ runs.get? id, row.terminalProcessedAt.isSome = true
  once : processed.Nodup

theorem origins_idle (now : Time) : Origins (idle now) where
  queue := invariant_initial now
  job := fun job hjob => absurd hjob (Table.not_mem_empty job)
  execution := fun e he => absurd he (Table.not_mem_empty e)
  direct := fun run hrun => absurd hrun (Table.not_mem_empty run)

theorem claims_idle (now : Time) : Claims (idle now).runs [] where
  claimed := by simp [idle, initial]
  once := List.nodup_nil

theorem origin_of_step (hI : Invariant s) (hstep : step s a = some s') {k : RunId}
    (hstored : ∃ row, s.runs.get? k = some row) {o : TriggerType × MonitorId × Time}
    (h : ∀ row ∈ s.runs.get? k, origin row = o) :
    ∀ row ∈ s'.runs.get? k, origin row = o := by
  obtain ⟨old, hold⟩ := hstored
  intro row hrow
  rw [get?_runEffect hstep hI.runStored hold, Option.mem_some_iff] at hrow
  rw [← hrow, origin_runEffect]
  exact h old hold

theorem Origins.queue_step (h : Origins x) (hmove : move x (.queue a) = some x') :
    Origins x' := by
  obtain ⟨hnew, hstep, hdirect⟩ := move_queue hmove
  have hI := h.queue
  constructor
  · exact invariant_step hI hstep
  · intro job' hjob'
    obtain ⟨job, hjob, rfl⟩ | ⟨jobID, runID, request, rfl, rfl⟩ := job_of_step hstep hjob'
    · obtain ⟨-, hrunId, hpayload⟩ := sameJob_jobEffect x.toState a job
      rw [hrunId, hpayload]
      exact origin_of_step hI hstep (hI.runOfJob job hjob) (h.job job hjob)
    · intro row hrow
      have hrunId : (queuedJob jobID runID request).runId = runID := rfl
      rw [hrunId, get?_enqueued hI hstep, Option.mem_some_iff] at hrow
      rw [← hrow]
      rfl
  · intro e' he'
    obtain ⟨e, he, heffect⟩ | ⟨workerID, executionID, job, hjob, -, -, rfl⟩ :=
      execution_of_step hstep he'
    · obtain ⟨hid, horigin⟩ := run_executionEffect heffect
      rw [hid, horigin]
      exact origin_of_step hI hstep (hI.runStored e he) (h.execution e he)
    · exact origin_of_step hI hstep (hI.runOfJob job hjob) (h.job job hjob)
  · intro run hrun
    rw [hdirect] at hrun
    obtain ⟨hjobs, horigin, hstatus⟩ := h.direct run hrun
    have hdrawn : ∀ jobID request, a ≠ .enqueue jobID run.id request := by
      rintro jobID request rfl
      exact absurd (Table.get?_of_mem hrun) (by rw [hnew]; nofun)
    refine ⟨?_, ?_, hstatus⟩
    · intro job' hjob'
      obtain ⟨job, hjob, rfl⟩ | ⟨jobID, runID, request, rfl, rfl⟩ := job_of_step hstep hjob'
      · rw [(sameJob_jobEffect x.toState a job).runId_eq]
        exact hjobs job hjob
      · rintro rfl
        exact hdrawn jobID request rfl
    · intro row hrow
      rw [Option.mem_def, get?_step_runs hstep hI.runStored, Option.or_eq_some_iff] at hrow
      obtain hold | ⟨-, hadded⟩ := hrow
      · obtain ⟨old, hstored, rfl⟩ := Option.map_eq_some_iff.mp hold
        rw [origin_runEffect]
        exact horigin old hstored
      · cases a with
        | enqueue jobID runID request =>
          rw [addedRun, Option.ite_none_right_eq_some] at hadded
          exact absurd rfl (hadded.1 ▸ hdrawn jobID request)
        | _ => contradiction

theorem Origins.queue_of_save (h : Origins x) (hjobs : ∀ job ∈ x.jobs, job.runId ≠ run.id) :
    Invariant { x.toState with runs := save x.now run x.runs } := by
  have hI := h.queue
  have hget : ∀ job ∈ x.jobs, (save x.now run x.runs).get? job.runId = x.runs.get? job.runId :=
    fun job hjob => by rw [get?_save_run, if_neg (hjobs job hjob)]
  constructor
  · intro job hjob
    rw [hget job hjob]
    exact hI.runOfJob job hjob
  · exact hI.jobOfRun
  · exact hI.jobOfExecution
  · exact hI.runOfExecution
  · exact hI.statusOfExecution
  · exact hI.leasedOfOwner
  · intro job hjob
    rw [hget job hjob]
    exact hI.terminalOfSkipped job hjob

theorem Origins.save_direct (h : Origins x) {runID : RunId}
    (hmove : move x (.save runID) = some x') : Origins x' := by
  obtain ⟨run, hrun, rfl⟩ := Option.map_eq_some_iff.mp hmove
  have hmem := Table.mem_of_get? hrun
  obtain ⟨hjobs, horigin, -⟩ := h.direct run hmem
  constructor
  · exact h.queue_of_save hjobs
  · intro job hjob
    rw [get?_save_run, if_neg (hjobs job hjob)]
    exact h.job job hjob
  · intro e he
    obtain ⟨job, hjob, -, hrunId⟩ := h.queue.jobOfExecution e he
    have hne : e.run.id ≠ run.id := by
      rw [h.queue.runOfExecution e he, ← hrunId]
      exact hjobs job hjob
    rw [get?_save_run, if_neg hne]
    exact h.execution e he
  · intro other hother
    obtain ⟨hotherJobs, hotherOrigin, hstatus⟩ := h.direct other hother
    refine ⟨hotherJobs, ?_, hstatus⟩
    rw [get?_save_run]
    split
    · rename_i hid
      have hsame : other = run := Table.eq_of_key_eq hother hmem hid
      intro row hrow
      rw [Option.mem_some_iff] at hrow
      rw [← hrow, hsame]
      exact origin_storedRow horigin
    · exact hotherOrigin

theorem origins_move (h : Origins x) (hmove : move x m = some x') : Origins x' := by
  cases m with
  | queue action => exact h.queue_step hmove
  | save runID => exact h.save_direct hmove
  | start runID request =>
    rw [move, Option.ite_none_right_eq_some, Option.map_eq_some_iff] at hmove
    obtain ⟨hnew, direct, hinsert, rfl⟩ := hmove
    refine ⟨h.queue, h.job, h.execution, fun run hrun => ?_⟩
    obtain hrun | rfl := Table.mem_insert hinsert hrun
    · exact h.direct run hrun
    · have hid : (startedRun x.now runID request).id = runID := rfl
      rw [hid]
      refine ⟨?_, ?_, .inl rfl⟩
      · rintro job hjob rfl
        obtain ⟨row, hrow⟩ := h.queue.runOfJob job hjob
        rw [hnew] at hrow
        contradiction
      · intro row hrow
        rw [Option.mem_def, hnew] at hrow
        contradiction
  | settle runID status failureCategory failureReason =>
    rw [move] at hmove
    split at hmove
    · contradiction
    · rw [guarded_eq_some_iff] at hmove
      obtain ⟨⟨-, houtcome⟩, rfl⟩ := hmove
      refine ⟨h.queue, h.job, h.execution, fun run hrun => ?_⟩
      dsimp only at hrun
      rw [Table.mem_update] at hrun
      obtain ⟨old, hold, rfl⟩ := hrun
      obtain ⟨hjobs, horigin, hstatus⟩ := h.direct old hold
      split
      · exact ⟨hjobs, horigin, .inr houtcome⟩
      · exact ⟨hjobs, horigin, hstatus⟩
  | finish runID =>
    cases hmove
    exact ⟨h.queue, h.job, h.execution, fun run hrun => h.direct run (List.mem_filter.mp hrun).1⟩

/-! ## At most once -/

variable {processed : List RunId}

theorem processings_of_save (hsaved : savedRun? x m = some run) :
    processings x m x' processed =
      if Processes x.runs run then run.id :: processed else processed := by
  rw [processings, hsaved]

theorem processings_of_not_save (hsaved : savedRun? x m = none) :
    processings x m x' processed = processed := by
  rw [processings, hsaved]

theorem Claims.save {runs : RunTable} (h : Claims runs processed) (now : Time) (run : MonitorRun) :
    Claims (save now run runs)
      (if Processes runs run then run.id :: processed else processed) := by
  have hclaimed : (∃ row ∈ runs.get? run.id, row.terminalProcessedAt.isSome = true) ↔
      run.id ∈ processed := (h.claimed run.id).symm
  constructor
  · intro id
    rw [get?_save_run]
    by_cases hid : id = run.id
    · subst hid
      simp only [if_true, Option.mem_some_iff, exists_eq_left', terminalProcessedAt_storedRow,
        hclaimed]
      split
      · rename_i hprocesses
        simp [hprocesses.1, hprocesses.2.1]
      · rename_i hprocesses
        refine (or_iff_right_of_imp fun hterminal => ?_).symm
        by_contra hnot
        refine hprocesses ⟨hterminal.1, hterminal.2, fun row hrow => ?_⟩
        rw [← Option.not_isSome_iff_eq_none]
        exact fun hsome => hnot (hclaimed.mp ⟨row, hrow, hsome⟩)
    · rw [if_neg hid, ← h.claimed id]
      split
      · exact List.mem_cons.trans (or_iff_right hid)
      · exact Iff.rfl
  · split
    · rename_i hprocesses
      refine List.nodup_cons.mpr ⟨fun hmem => ?_, h.once⟩
      obtain ⟨row, hrow, hsome⟩ := hclaimed.mpr hmem
      rw [hprocesses.2.2 row hrow] at hsome
      contradiction
    · exact h.once

theorem Claims.queue_step (h : Claims x.runs processed)
    (hI : Invariant x.toState) (hsaved : savedRun? x (.queue a) = none)
    (hstep : step x.toState a = some s') : Claims s'.runs processed := by
  refine ⟨fun id => (h.claimed id).trans ?_, h.once⟩
  rw [get?_step_runs hstep hI.runStored]
  have hkeeps : ∀ row, (runEffect x.toState a row).terminalProcessedAt = row.terminalProcessedAt :=
    fun row => (runEffect_of_not_save hsaved hstep).2
  cases hrow : x.runs.get? id with
  | some row => simp [hkeeps row]
  | none =>
    cases a with
    | enqueue jobID runID request =>
      simp only [Option.map_none, Option.none_or, addedRun]
      split <;> simp [queuedRun]
    | _ => simp [addedRun]

theorem claims_move (horigins : Origins x)
    (h : Claims x.runs processed) (hmove : move x m = some x') :
    Claims x'.runs (processings x m x' processed) := by
  obtain ⟨run, hsaved, hruns⟩ | ⟨hsaved, ⟨action, rfl⟩ | ⟨-, hruns⟩⟩ :=
    runs_of_move hmove
  · rw [processings_of_save hsaved, hruns]
    exact h.save x.now run
  · rw [processings_of_not_save hsaved]
    obtain ⟨-, hstep, -⟩ := move_queue hmove
    exact h.queue_step horigins.queue hsaved hstep
  · rw [processings_of_not_save hsaved, hruns]
    exact h

/-! ## At least once -/

def Settled (runs : RunTable) : Prop :=
  ∀ row ∈ runs, row.triggerType ≠ .manualDraft → row.status.isFinal = true →
    row.terminalProcessedAt.isSome = true

theorem Claims.processedOnce_iff (h : Claims x.runs processed) :
    ProcessedOnce (x, processed) ↔ Settled x.runs := by
  refine (and_iff_right h.once).trans (forall₂_congr fun row hrow => ?_)
  refine forall₂_congr fun _ _ => ?_
  have hcount : processed.count row.id = 1 ↔ row.id ∈ processed :=
    ⟨fun hone => List.count_pos_iff.mp (by omega), List.count_eq_one_of_mem h.once⟩
  rw [hcount, h.claimed row.id, Table.get?_of_mem hrow]
  simp

theorem Origins.saved (h : Origins x) (hsaved : savedRun? x m = some run) :
    (∀ row ∈ x.runs.get? run.id, origin row = origin run) ∧
      (run.status = .running ∨ run.status.isWorkerOutcome = true) := by
  cases m with
  | queue action =>
    cases action with
    | save executionID =>
      obtain ⟨e, he, rfl⟩ := Option.map_eq_some_iff.mp hsaved
      have hmem := Table.mem_of_get? he
      exact ⟨h.execution e hmem, h.queue.statusOfExecution e hmem⟩
    | _ => contradiction
  | save runID =>
    obtain ⟨-, horigin, hstatus⟩ := h.direct run (Table.mem_of_get? hsaved)
    exact ⟨horigin, hstatus⟩
  | _ => contradiction

theorem isTerminal_of_isFinal {status : Status}
    (h : status = .running ∨ status.isWorkerOutcome = true) (hfinal : status.isFinal = true) :
    status.isTerminal = true := by
  obtain rfl | houtcome := h
  · contradiction
  · cases status <;> first | rfl | contradiction

theorem Settled.save (h : Settled x.runs)
    (horigin : ∀ row ∈ x.runs.get? run.id, origin row = origin run)
    (hstatus : run.status = .running ∨ run.status.isWorkerOutcome = true) :
    Settled (save x.now run x.runs) := by
  intro row hrow hdraft hfinal
  have hget := Table.get?_of_mem hrow
  rw [get?_save_run] at hget
  split at hget
  · rw [Option.some.injEq] at hget
    subst hget
    have htrigger : (storedRow x.now run (x.runs.get? run.id)).triggerType = run.triggerType :=
      congrArg Prod.fst (origin_storedRow horigin)
    rw [htrigger] at hdraft
    have hrun : (storedRow x.now run (x.runs.get? run.id)).status = run.status := by
      cases x.runs.get? run.id <;> rfl
    rw [hrun] at hfinal
    exact terminalProcessedAt_storedRow.mpr (.inl ⟨hdraft, isTerminal_of_isFinal hstatus hfinal⟩)
  · exact h row (Table.mem_of_get? hget) hdraft hfinal

/-- A queue action that saves nothing leaves every finished run claimed exactly when it ends none
that is not. -/
theorem Settled.queue_step_iff (h : Settled x.runs) (hI : Invariant x.toState)
    (hsaved : savedRun? x (.queue a) = none) (hstep : step x.toState a = some s') :
    Settled s'.runs ↔ ∀ row ∈ x.runs, row.triggerType ≠ .manualDraft →
      row.terminalProcessedAt = none → ¬ Ends x.toState row a := by
  have heffect : ∀ row ∈ x.runs, runEffect x.toState a row ∈ s'.runs := fun row hrow =>
    Table.mem_of_get? (get?_runEffect hstep hI.runStored (Table.get?_of_mem hrow))
  constructor
  · intro hsettled row hrow hdraft hclaim hends
    obtain ⟨htrigger, hkeeps⟩ : (runEffect x.toState a row).triggerType = row.triggerType ∧
        (runEffect x.toState a row).terminalProcessedAt = row.terminalProcessedAt :=
      runEffect_of_not_save hsaved hstep
    have hopen : row.status.isFinal = false := by
      rw [← Bool.not_eq_true]
      intro hfinal
      have hsome := h row hrow hdraft hfinal
      rw [hclaim] at hsome
      contradiction
    have hsome := hsettled _ (heffect row hrow) (htrigger.symm ▸ hdraft)
      ((isFinal_runEffect_iff hsaved hstep hopen).mpr hends)
    rw [hkeeps, hclaim] at hsome
    contradiction
  · intro hends row' hrow' hdraft hfinal
    have hget := Table.get?_of_mem hrow'
    rw [get?_step_runs hstep hI.runStored, Option.or_eq_some_iff] at hget
    obtain hold | ⟨-, hadded⟩ := hget
    · obtain ⟨row, hrow, rfl⟩ := Option.map_eq_some_iff.mp hold
      obtain ⟨htrigger, hkeeps⟩ : (runEffect x.toState a row).triggerType = row.triggerType ∧
          (runEffect x.toState a row).terminalProcessedAt = row.terminalProcessedAt :=
        runEffect_of_not_save hsaved hstep
      rw [htrigger] at hdraft
      rw [hkeeps]
      have hmem := Table.mem_of_get? hrow
      cases hopen : row.status.isFinal with
      | true => exact h row hmem hdraft hopen
      | false =>
        rw [← Option.ne_none_iff_isSome]
        intro hclaim
        exact hends row hmem hdraft hclaim ((isFinal_runEffect_iff hsaved hstep hopen).mp hfinal)
    · cases a with
      | enqueue jobID runID request =>
        rw [addedRun, guarded_eq_some_iff] at hadded
        rw [← hadded.2] at hfinal
        contradiction
      | _ => contradiction

theorem settled_move_iff (horigins : Origins x) (h : Settled x.runs)
    (hmove : move x m = some x') {y : Runner × List RunId} :
    Settled x'.runs ↔ EndsBySave (x, processed) m y := by
  obtain ⟨run, hsaved, hruns⟩ | ⟨hsaved, ⟨action, rfl⟩ | ⟨hother, hruns⟩⟩ := runs_of_move hmove
  · obtain ⟨horigin, hstatus⟩ := horigins.saved hsaved
    rw [hruns]
    refine iff_of_true (h.save horigin hstatus) ?_
    cases m with
    | queue action =>
      cases action with
      | save executionID => exact fun row _ _ _ => id
      | _ => contradiction
    | _ => trivial
  · obtain ⟨-, hstep, -⟩ := move_queue hmove
    exact h.queue_step_iff horigins.queue hsaved hstep
  · rw [hruns]
    refine iff_of_true h ?_
    cases m with
    | queue action => exact absurd rfl (hother action)
    | _ => trivial

end Step

/-- **No run is processed twice.** -/
theorem processed_nodup_of_reachable {now : Time} {x : Runner × List RunId}
    (h : Reachable processingMove (idle now, []) x) : x.2.Nodup := by
  have hinvariant : Origins x.1 ∧ Claims x.1.runs x.2 := by
    refine h.invariant (I := fun x => Origins x.1 ∧ Claims x.1.runs x.2)
      (fun x m x' hx hstep => ?_) ⟨origins_idle now, claims_idle now⟩
    obtain ⟨hmove, hrecord⟩ := recording_eq_some_iff.mp hstep
    rw [hrecord]
    exact ⟨origins_move hx.1 hmove, claims_move hx.1 hx.2 hmove⟩
  exact hinvariant.2.once

/-- The run is claimed, succeeds and is saved. -/
def savedOnce : List Move :=
  [.queue (.enqueue 1 1 sampleRequest), .queue (.claim 7 1 1),
    .queue (.settle 1 .success "" ""), .queue (.save 1)]

theorem processed_nodup_savedOnce : ∃ x, runActions processingMove (idle 0, []) savedOnce = some x ∧
    x.2 = [1] ∧ x.2.Nodup := by
  obtain ⟨x, hrun, hrecord⟩ : ∃ x, runActions processingMove (idle 0, []) savedOnce = some x ∧
      x.2 = [1] := ⟨_, rfl, rfl⟩
  exact ⟨x, hrun, hrecord, processed_nodup_of_reachable ⟨_, hrun⟩⟩

/-- **Every finished run is processed exactly once**, exactly when only saves end the runs that
have not been. -/
theorem processedOnce_along_iff (now : Time) (moves : List Move) :
    Along processingMove (fun _ _ x' => ProcessedOnce x') (idle now, []) moves ↔
      Along processingMove EndsBySave (idle now, []) moves := by
  have hidle : ProcessedOnce (idle now, []) :=
    ⟨List.nodup_nil, fun row hrow => absurd hrow (Table.not_mem_empty row)⟩
  refine along_state_iff_along (I := fun x => Origins x.1 ∧ Claims x.1.runs x.2)
    (fun x m x' hx hstep => ?_) (fun x m x' hx hlaw hstep => ?_)
    ⟨origins_idle now, claims_idle now⟩ hidle
  · obtain ⟨hmove, hrecord⟩ := recording_eq_some_iff.mp hstep
    rw [hrecord]
    exact ⟨origins_move hx.1 hmove, claims_move hx.1 hx.2 hmove⟩
  · obtain ⟨hmove, hrecord⟩ := recording_eq_some_iff.mp hstep
    have hclaims := claims_move hx.1 hx.2 hmove
    rw [← hrecord] at hclaims
    exact hclaims.processedOnce_iff.trans
      (settled_move_iff hx.1 (hx.2.processedOnce_iff.mp hlaw) hmove)

/-- A published run that is cancelled while it is queued is never processed. -/
theorem cancelled_not_processed :
    ¬ ∀ now moves,
      Along processingMove (fun _ _ x' => ProcessedOnce x') (idle now, []) moves := by
  intro h
  have hrun := h 0 [.queue (.enqueue 1 1 sampleRequest), .queue (.requestCancel 1)]
  revert hrun
  decide

end Rhythm.ExecutionJobs
