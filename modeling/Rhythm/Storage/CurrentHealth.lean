import Mathlib.Algebra.GroupWithZero.Nat
import Rhythm.ExecutionJobs.Processing
import Rhythm.Storage.Rollups

/-!
# Rhythm.Storage.CurrentHealth

The current health of a monitor (`monitor_current_health`): one row, which the `save` that processes
the end of a run overwrites.  The upsert does not compare, so the row shows the run that was
processed last.  Runs of one monitor overlap, and the newest of them need not end last.

`showsNewest_along_iff`: the row shows the newest processed run in every state exactly when the runs
are processed in the order they were created, and the shown run is not saved again with another
status.
-/

namespace Rhythm.Storage

open Runs RunRepository ExecutionJobs

/-! ## The row -/

/-- The values of `operational_status` that a run leads to. -/
inductive OperationalStatus where
  | healthy | degraded | failing | noSignal
  deriving DecidableEq

/-- A row of `monitor_current_health`. -/
structure CurrentHealth where
  monitorId : MonitorId
  operationalStatus : OperationalStatus
  statusReason : String
  lastRunId : RunId
  lastRunStatus : Status
  lastRunAt : Time
  lastDurationMs : Nat
  lastApiResponseTimeMs : Option Int
  successCount24h : Nat
  runCount24h : Nat
  successRate24h : Option Rat
  activeAlertCount : Nat
  nextRunAt : Option Time
  updatedAt : Time
  deriving DecidableEq

/-- `monitor_current_health`. -/
abbrev HealthTable := Table CurrentHealth CurrentHealth.monitorId

/-- What the save of a run reads beside the run: its response time, and what the subqueries of the
upsert answer. -/
structure HealthReads where
  apiResponse : Option Int
  /-- The rollups of the monitor. -/
  rollups : List HourlyRollup
  activeAlertCount : Nat
  nextRunAt : Option Time

/-- `operational_status` and `status_reason`. -/
def statusAndReason : Status → OperationalStatus × String
  | .success => (.healthy, "The latest execution succeeded.")
  | .successWithWarnings => (.degraded, "The latest execution completed with warnings.")
  | .cancelled => (.noSignal, "The latest execution was cancelled.")
  | _ => (.failing, "The latest execution requires attention.")

def HealthReads.recent (reads : HealthReads) (now : Time) : List HourlyRollup :=
  reads.rollups.filter fun rollup => truncHour (now - 86400000) ≤ rollup.bucketStart

def healthOf (now : Time) (reads : HealthReads) (run : MonitorRun) : CurrentHealth :=
  let successCount := ((reads.recent now).map HourlyRollup.successCount).sum
  let runCount := ((reads.recent now).map HourlyRollup.sampleCount).sum
  { monitorId := run.monitorId
    operationalStatus := (statusAndReason run.status).1
    statusReason := (statusAndReason run.status).2
    lastRunId := run.id
    lastRunStatus := run.status
    lastRunAt := run.createdAt
    lastDurationMs := run.durationMs
    lastApiResponseTimeMs := reads.apiResponse
    successCount24h := successCount
    runCount24h := runCount
    successRate24h := if runCount = 0 then none else some (100 * successCount / runCount)
    activeAlertCount := reads.activeAlertCount
    nextRunAt := reads.nextRunAt
    updatedAt := now }

/-- `ON CONFLICT (monitor_id) DO UPDATE`: every other column is the `EXCLUDED` one. -/
def replaceHealth (excluded row : CurrentHealth) : CurrentHealth :=
  { excluded with monitorId := row.monitorId }

theorem replaceHealth_keepsKey (excluded : CurrentHealth) :
    Table.KeepsKey CurrentHealth.monitorId (replaceHealth excluded) :=
  ⟨fun _ => rfl⟩

/-- `updateCurrentHealth`. -/
def updateCurrentHealth (now : Time) (reads : HealthReads) (run : MonitorRun)
    (health : HealthTable) : HealthTable :=
  health.upsert replaceHealth replaceHealth_keepsKey (healthOf now reads run)

/-- **The row is overwritten**, whatever it showed. -/
theorem get?_updateCurrentHealth {now : Time} {reads : HealthReads} {run : MonitorRun}
    {health : HealthTable} (k : MonitorId) :
    (updateCurrentHealth now reads run health).get? k =
      if k = run.monitorId then some (healthOf now reads run) else health.get? k := by
  have hmem : ∀ row, row ∈ updateCurrentHealth now reads run health ↔
      row = healthOf now reads run ∨ row ∈ health ∧ row.monitorId ≠ run.monitorId := by
    refine fun row => Table.mem_upsert fun old _ hkey => ?_
    simp only [replaceHealth, hkey]
  ext row
  rw [Table.get?_eq_some_iff, hmem]
  split
  · rename_i hk
    rw [Option.some.injEq]
    constructor
    · rintro ⟨rfl | ⟨-, hne⟩, hkey⟩
      · rfl
      · exact absurd (hkey.trans hk) hne
    · rintro rfl
      exact ⟨.inl rfl, hk.symm⟩
  · rename_i hk
    rw [Table.get?_eq_some_iff]
    constructor
    · rintro ⟨rfl | ⟨hold, -⟩, hkey⟩
      · exact absurd hkey.symm hk
      · exact ⟨hold, hkey⟩
    · rintro ⟨hold, hkey⟩
      exact ⟨.inr ⟨hold, fun h => hk (hkey.symm.trans h)⟩, hkey⟩

/-! ## The health along a run -/

/-- The health after a move: the save that processes a run updates it. -/
def healthAfter (x : Runner) (a : Move × HealthReads) (_ : Runner) (health : HealthTable) :
    HealthTable :=
  match savedRun? x a.1 with
  | some run =>
    if Processes x.runs run then updateCurrentHealth x.now a.2 run health else health
  | none => health

/-- The moves, with the health of the monitors. -/
abbrev healthMove : Runner × HealthTable → Move × HealthReads → Option (Runner × HealthTable) :=
  recording (fun x a => move x a.1) healthAfter

def Processed (row : MonitorRun) : Prop := row.terminalProcessedAt.isSome = true

instance : DecidablePred Processed := fun row =>
  inferInstanceAs (Decidable (row.terminalProcessedAt.isSome = true))

def Newest (runs : RunTable) (monitorId : MonitorId) (createdAt : Time) : Prop :=
  ∀ other ∈ runs, other.monitorId = monitorId → Processed other → other.createdAt ≤ createdAt

instance (runs : RunTable) (monitorId : MonitorId) (createdAt : Time) :
    Decidable (Newest runs monitorId createdAt) :=
  inferInstanceAs (Decidable (∀ other ∈ runs, _))

/-- The row shows the newest processed run of its monitor, with the status of it. -/
def ShowsRun (runs : RunTable) (monitorId : MonitorId) (health : CurrentHealth) : Prop :=
  ∃ newest ∈ runs.get? health.lastRunId, newest.monitorId = monitorId ∧ Processed newest ∧
    health.lastRunStatus = newest.status ∧ Newest runs monitorId newest.createdAt

instance (runs : RunTable) (monitorId : MonitorId) (health : CurrentHealth) :
    Decidable (ShowsRun runs monitorId health) :=
  inferInstanceAs (Decidable (∃ newest ∈ runs.get? health.lastRunId, _))

/-- **The law**: a monitor with a processed run has a row that shows the newest one. -/
def ShowsNewest (x : Runner × HealthTable) : Prop :=
  ∀ row ∈ x.1.runs, Processed row →
    ∃ health ∈ x.2.get? row.monitorId, ShowsRun x.1.runs row.monitorId health

instance : DecidablePred ShowsNewest := fun x =>
  inferInstanceAs (Decidable (∀ row ∈ x.1.runs, _))

/-- **The condition on a step.**  A run is processed when no processed run of its monitor was
created later, and the run that is shown is saved again with the status that is shown only. -/
def InOrder (x : Runner × HealthTable) (a : Move × HealthReads) (_ : Runner × HealthTable) : Prop :=
  ∀ run ∈ savedRun? x.1 a.1,
    if Processes x.1.runs run then Newest x.1.runs run.monitorId run.createdAt
    else ∀ health ∈ x.2.get? run.monitorId, health.lastRunId = run.id →
      health.lastRunStatus = run.status

/-! ## Rows that are rewritten -/

section Rewriting

variable {u : MonitorRun → MonitorRun} {runs runs' : RunTable} {health : HealthTable}

/-- The processed runs of `runs'` are those of `runs`, rewritten. -/
structure Rewrites (u : MonitorRun → MonitorRun) (runs runs' : RunTable) : Prop where
  origin : ∀ row, origin (u row) = origin row
  rows : ∀ k row', (row' ∈ runs'.get? k ∧ Processed row') ↔
    ∃ row ∈ runs.get? k, Processed row ∧ u row = row'

theorem Rewrites.monitorId (h : Rewrites u runs runs') (row : MonitorRun) :
    (u row).monitorId = row.monitorId :=
  congrArg (fun o => o.2.1) (h.origin row)

theorem Rewrites.createdAt (h : Rewrites u runs runs') (row : MonitorRun) :
    (u row).createdAt = row.createdAt :=
  congrArg (fun o => o.2.2) (h.origin row)

theorem Rewrites.forall_processed (h : Rewrites u runs runs') {P : MonitorRun → Prop} :
    (∀ row' ∈ runs', Processed row' → P row') ↔ ∀ row ∈ runs, Processed row → P (u row) := by
  constructor
  · intro hP row hrow hprocessed
    obtain ⟨hrow', hprocessed'⟩ :=
      (h.rows row.id (u row)).mpr ⟨row, Table.get?_of_mem hrow, hprocessed, rfl⟩
    exact hP _ (Table.mem_of_get? hrow') hprocessed'
  · intro hP row' hrow' hprocessed'
    obtain ⟨row, hrow, hprocessed, rfl⟩ :=
      (h.rows row'.id row').mp ⟨Table.get?_of_mem hrow', hprocessed'⟩
    exact hP row (Table.mem_of_get? hrow) hprocessed

theorem Rewrites.newest_iff (h : Rewrites u runs runs') {m : MonitorId} {t : Time} :
    Newest runs' m t ↔ Newest runs m t := by
  have hswap : ∀ runs : RunTable, Newest runs m t ↔
      ∀ other ∈ runs, Processed other → other.monitorId = m → other.createdAt ≤ t :=
    fun runs => ⟨fun h other ho hp hm => h other ho hm hp, fun h other ho hm hp => h other ho hp hm⟩
  rw [hswap, hswap, h.forall_processed]
  simp only [h.monitorId, h.createdAt]

/-- **Only the status of a shown run matters** for a step that processes no run. -/
theorem showsNewest_iff_of_rewrites {x x' : Runner} (hu : Rewrites u x.runs x'.runs)
    (h : ShowsNewest (x, health)) :
    ShowsNewest (x', health) ↔ ∀ row ∈ x.runs, Processed row →
      ∀ shown ∈ health.get? row.monitorId, ∀ last ∈ x.runs.get? shown.lastRunId,
        (u last).status = last.status := by
  refine hu.forall_processed.trans (forall₃_congr fun row hrow hprocessed => ?_)
  obtain ⟨shown, hshown, newest, hnewest, hmonitor, hlast, hstatus, hall⟩ := h row hrow hprocessed
  rw [Option.mem_def] at hshown hnewest
  simp only [hu.monitorId, hshown, Option.mem_some_iff, exists_eq_left', forall_eq', hnewest]
  constructor
  · rintro ⟨row', hrow', -, hprocessed', hstatus', -⟩
    obtain ⟨old, hold, -, rfl⟩ := (hu.rows _ row').mp ⟨hrow', hprocessed'⟩
    rw [hnewest, Option.mem_some_iff] at hold
    rw [hold, ← hstatus', hstatus, hold]
  · intro hsame
    obtain ⟨hrow', hprocessed'⟩ := (hu.rows _ _).mpr ⟨newest, hnewest, hlast, rfl⟩
    refine ⟨u newest, hrow', (hu.monitorId newest).trans hmonitor, hprocessed', ?_, ?_⟩
    · rw [hstatus, hsame]
    · rw [hu.createdAt]
      exact hu.newest_iff.mpr hall

end Rewriting

/-! ## The steps -/

section Step

variable {x x' : Runner} {m : Move} {run : MonitorRun} {health : HealthTable}

theorem rewrites_runEffect {s' : State} {a : Action} (hI : Invariant x.toState)
    (hsaved : savedRun? x (.queue a) = none) (hstep : step x.toState a = some s') :
    Rewrites (runEffect x.toState a) x.runs s'.runs where
  origin := fun row => origin_runEffect
  rows := by
    intro k row'
    have hkeeps : ∀ row, Processed (runEffect x.toState a row) ↔ Processed row := fun row => by
      rw [Processed, (runEffect_of_not_save hsaved hstep).2, Processed]
    rw [Option.mem_def, get?_step_runs hstep hI.runStored]
    cases hrow : x.runs.get? k with
    | some row =>
      grind
    | none =>
      have hnone : ∀ row ∈ addedRun a k, ¬ Processed row := by
        intro row hadded
        cases a with
        | enqueue jobID runID request =>
          rw [addedRun, Option.mem_def, guarded_eq_some_iff] at hadded
          rw [← hadded.2]
          exact Bool.false_ne_true
        | _ => contradiction
      simp only [Option.map_none, Option.none_or, Option.mem_def, reduceCtorEq, false_and,
        exists_false, iff_false, not_and]
      exact hnone row'

theorem status_runEffect_of_isTerminal {s' : State} {a : Action}
    (hsaved : savedRun? x (.queue a) = none) (hstep : step x.toState a = some s')
    {row : MonitorRun} (hterminal : row.status.isTerminal = true) :
    (runEffect x.toState a row).status = row.status := by
  have hpending : row.status.isPending = false := by
    cases hstatus : row.status <;> simp_all [Status.isTerminal, Status.isPending]
  cases a with
  | save executionID =>
    obtain ⟨e, he, -⟩ := step_save hstep
    rw [savedRun?, he] at hsaved
    contradiction
  | claim workerID jobID executionID =>
    grind [runEffect, SkipsRun]
  | complete executionID =>
    simp only [runEffect, hterminal]
    split
    · rw [if_neg fun h => Bool.false_ne_true h.2.2.symm]
    · rfl
  | requestCancel runID =>
    rw [runEffect, if_neg fun h => Bool.false_ne_true (h.2.symm.trans hterminal)]
  | reclaimExpiredBatch locked =>
    rw [runEffect, if_neg]
    intro haborts
    simp [AbortsRun, hterminal] at haborts
  | _ => rfl

variable {runs : RunTable}

theorem processed_storedRow_iff (now : Time) (hprocesses : ¬ Processes runs run) :
    Processed (storedRow now run (runs.get? run.id)) ↔
      ∃ row ∈ runs.get? run.id, Processed row := by
  refine terminalProcessedAt_storedRow.trans (or_iff_right_of_imp fun hterminal => ?_)
  by_contra hnot
  refine hprocesses ⟨hterminal.1, hterminal.2, fun row hrow => ?_⟩
  rw [← Option.not_isSome_iff_eq_none]
  exact fun hsome => hnot ⟨row, hrow, hsome⟩

theorem rewrites_save (hprocesses : ¬ Processes x.runs run) :
    Rewrites (fun row => if row.id = run.id then savedRow x.now run row else row) x.runs
      (save x.now run x.runs) where
  origin := by
    intro row
    split <;> rfl
  rows := by
    intro k row'
    rw [get?_save_run]
    split
    · rename_i hk
      subst hk
      have hid : ∀ row ∈ x.runs.get? run.id, row.id = run.id := fun row => Table.key_of_get?
      have hclaimed := processed_storedRow_iff x.now hprocesses
      revert hid hclaimed
      cases x.runs.get? run.id with
      | none =>
        grind
      | some row =>
        intro hid hclaimed
        simp only [Option.mem_some_iff, exists_eq_left'] at hclaimed ⊢
        rw [if_pos (hid row rfl)]
        constructor
        · rintro ⟨rfl, hprocessed⟩
          exact ⟨hclaimed.mp hprocessed, rfl⟩
        · rintro ⟨hprocessed, rfl⟩
          exact ⟨rfl, hclaimed.mpr hprocessed⟩
    · rename_i hk
      have hother : ∀ row ∈ x.runs.get? k, row.id ≠ run.id := fun row hrow h =>
        hk ((Table.key_of_get? hrow).symm.trans h)
      constructor
      · rintro ⟨hrow, hprocessed⟩
        exact ⟨row', hrow, hprocessed, if_neg (hother row' hrow)⟩
      · rintro ⟨row, hrow, hprocessed, rfl⟩
        rw [if_neg (hother row hrow)]
        exact ⟨hrow, hprocessed⟩

variable {now : Time}

theorem origin_of_mem_save {stored : MonitorRun}
    (horigin : ∀ row ∈ runs.get? run.id, origin row = origin run)
    (hstored : storedRow now run (runs.get? run.id) = stored) :
    stored.id = run.id ∧ stored.monitorId = run.monitorId ∧ stored.createdAt = run.createdAt ∧
      stored.status = run.status := by
  have hsame : origin stored = origin run := hstored ▸ origin_storedRow horigin
  refine ⟨?_, congrArg (fun o => o.2.1) hsame, congrArg (fun o => o.2.2) hsame, ?_⟩
  · rw [← hstored]
    cases hold : runs.get? run.id with
    | none => rfl
    | some row => exact (Table.key_of_get? hold : row.id = run.id)
  · rw [← hstored]
    cases runs.get? run.id <;> rfl

theorem id_ne_of_processes (h : Processes runs run) {row : MonitorRun}
    (hrow : row ∈ runs) (hprocessed : Processed row) : row.id ≠ run.id := by
  intro hid
  have hget := Table.get?_of_mem hrow
  rw [hid] at hget
  rw [Processed, h.2.2 row hget] at hprocessed
  contradiction

theorem processed_of_processes {stored : MonitorRun}
    (hprocesses : Processes runs run) (hstored : storedRow now run (runs.get? run.id) = stored)
    (row : MonitorRun) :
    (row ∈ save now run runs ∧ Processed row) ↔ row = stored ∨ row ∈ runs ∧ Processed row := by
  have hprocessed : Processed stored := by
    rw [← hstored]
    exact terminalProcessedAt_storedRow.mpr (.inl ⟨hprocesses.1, hprocesses.2.1⟩)
  have hget : (save now run runs).get? run.id = some stored := by
    rw [get?_save_run, if_pos rfl, hstored]
  constructor
  · grind [Table.mem_iff_get?, get?_save_run, Option.some.injEq, Table.mem_of_get?]
  · rintro (rfl | ⟨hrow, hp⟩)
    · exact ⟨Table.mem_of_get? hget, hprocessed⟩
    · refine ⟨?_, hp⟩
      rw [Table.mem_iff_get?, get?_save_run, if_neg (id_ne_of_processes hprocesses hrow hp)]
      exact Table.get?_of_mem hrow

/-- **The save that processes a run** shows it: it has to be the newest one. -/
theorem showsNewest_of_processes_iff {reads : HealthReads}
    (horigin : ∀ row ∈ x.runs.get? run.id, origin row = origin run)
    (hprocesses : Processes x.runs run) (hruns : x'.runs = save now run x.runs)
    (h : ShowsNewest (x, health)) :
    ShowsNewest (x', updateCurrentHealth now reads run health) ↔
      Newest x.runs run.monitorId run.createdAt := by
  obtain ⟨stored, hstored⟩ : ∃ stored, storedRow now run (x.runs.get? run.id) = stored := ⟨_, rfl⟩
  obtain ⟨hid, hmonitor, hcreated, hstatus⟩ := origin_of_mem_save horigin hstored
  have hmem : ∀ row, (row ∈ x'.runs ∧ Processed row) ↔
      row = stored ∨ row ∈ x.runs ∧ Processed row :=
    hruns ▸ processed_of_processes hprocesses hstored
  obtain ⟨hstoredMem, hprocessed⟩ := (hmem stored).mpr (.inl rfl)
  have hget : x'.runs.get? (healthOf now reads run).lastRunId = some stored := by
    have hkey := Table.get?_of_mem hstoredMem
    rwa [hid] at hkey
  have hnewest : ∀ m t, Newest x'.runs m t ↔
      (m = run.monitorId → run.createdAt ≤ t) ∧ Newest x.runs m t := by
    intro m t
    constructor
    · intro hall
      refine ⟨fun hm => ?_, fun other hother hm hp => ?_⟩
      · rw [← hcreated]
        exact hall stored hstoredMem (hmonitor.trans hm.symm) hprocessed
      · exact hall other ((hmem other).mpr (.inr ⟨hother, hp⟩)).1 hm hp
    · rintro ⟨hrun, hall⟩ other hother hm hp
      obtain rfl | ⟨hother, -⟩ := (hmem other).mp ⟨hother, hp⟩
      · rw [hcreated]
        exact hrun (hm.symm.trans hmonitor)
      · exact hall other hother hm hp
  constructor
  · intro hshows
    obtain ⟨shown, hshown, newest, hnewestGet, -, -, -, hall⟩ :=
      hshows stored hstoredMem hprocessed
    dsimp only at hshown hnewestGet hall
    rw [get?_updateCurrentHealth, if_pos hmonitor, Option.mem_some_iff] at hshown
    subst hshown
    rw [hget, Option.mem_some_iff] at hnewestGet
    subst hnewestGet
    rw [hmonitor, hcreated] at hall
    exact ((hnewest _ _).mp hall).2
  · intro hall row hrow hp
    dsimp only at hrow ⊢
    rw [get?_updateCurrentHealth]
    split
    · rename_i hm
      refine ⟨_, rfl, stored, hget, ?_, hprocessed, hstatus.symm, ?_⟩
      · rw [hmonitor, hm]
      · rw [hm, hcreated]
        exact (hnewest _ _).mpr ⟨fun _ => le_refl _, hall⟩
    · rename_i hm
      obtain rfl | ⟨hold, -⟩ := (hmem row).mp ⟨hrow, hp⟩
      · exact absurd hmonitor hm
      · obtain ⟨shown, hshown, newest, hnewestGet, hnm, hnp, hns, hnewer⟩ := h row hold hp
        refine ⟨shown, hshown, newest, ?_, hnm, hnp, hns, ?_⟩
        · obtain ⟨hnewestMem, hkey⟩ := Table.get?_eq_some_iff.mp hnewestGet
          exact Table.get?_eq_some_iff.mpr ⟨((hmem newest).mpr (.inr ⟨hnewestMem, hnp⟩)).1, hkey⟩
        · exact (hnewest _ _).mpr ⟨fun h => absurd h hm, hnewer⟩

/-- What a row shows: a run of its monitor that was processed, at a terminal status. -/
def ShowsProcessed (runs : RunTable) (health : HealthTable) : Prop :=
  ∀ shown ∈ health, shown.lastRunStatus.isTerminal = true ∧
    ∃ last ∈ runs.get? shown.lastRunId, last.monitorId = shown.monitorId ∧ Processed last

theorem move_cases (horigins : Origins x) (hmove : move x m = some x') :
    (∃ run, savedRun? x m = some run ∧ x'.runs = save x.now run x.runs) ∨
      savedRun? x m = none ∧ ∃ u, Rewrites u x.runs x'.runs ∧
        ∀ row, row.status.isTerminal = true → (u row).status = row.status := by
  obtain ⟨run, hsaved, hruns⟩ | ⟨hsaved, ⟨action, rfl⟩ | ⟨-, hruns⟩⟩ := runs_of_move hmove
  · exact .inl ⟨run, hsaved, hruns⟩
  · obtain ⟨-, hstep, -⟩ := move_queue hmove
    exact .inr ⟨hsaved, _, rewrites_runEffect horigins.queue hsaved hstep,
      fun row => status_runEffect_of_isTerminal hsaved hstep⟩
  · refine .inr ⟨hsaved, id, ?_, fun _ _ => rfl⟩
    rw [hruns]
    exact ⟨fun _ => rfl, by simp⟩

theorem ShowsProcessed.rewrite {u : MonitorRun → MonitorRun} {runs runs' : RunTable}
    (h : ShowsProcessed runs health) (hu : Rewrites u runs runs') :
    ShowsProcessed runs' health := by
  intro shown hshown
  obtain ⟨hterminal, last, hlast, hmonitor, hprocessed⟩ := h shown hshown
  obtain ⟨hlast', hprocessed'⟩ := (hu.rows _ _).mpr ⟨last, hlast, hprocessed, rfl⟩
  exact ⟨hterminal, u last, hlast', (hu.monitorId last).trans hmonitor, hprocessed'⟩

theorem ShowsProcessed.process {reads : HealthReads} (h : ShowsProcessed runs health)
    (horigin : ∀ row ∈ runs.get? run.id, origin row = origin run)
    (hprocesses : Processes runs run) :
    ShowsProcessed (save now run runs) (updateCurrentHealth now reads run health) := by
  obtain ⟨stored, hstored⟩ : ∃ stored, storedRow now run (runs.get? run.id) = stored := ⟨_, rfl⟩
  obtain ⟨hid, hmonitor, -, -⟩ := origin_of_mem_save horigin hstored
  have hmem := processed_of_processes hprocesses hstored
  intro shown hshown
  have hget := Table.get?_of_mem hshown
  rw [get?_updateCurrentHealth] at hget
  split at hget
  · cases hget
    obtain ⟨hstoredMem, hprocessed⟩ := (hmem stored).mpr (.inl rfl)
    have hkey := Table.get?_of_mem hstoredMem
    rw [hid] at hkey
    exact ⟨hprocesses.2.1, stored, hkey, hmonitor, hprocessed⟩
  · obtain ⟨hterminal, last, hlast, hlastMonitor, hprocessed⟩ := h shown (Table.mem_of_get? hget)
    obtain ⟨hlastMem, hkey⟩ := Table.get?_eq_some_iff.mp hlast
    obtain ⟨hlastMem', -⟩ := (hmem last).mpr (.inr ⟨hlastMem, hprocessed⟩)
    exact ⟨hterminal, last, Table.get?_eq_some_iff.mpr ⟨hlastMem', hkey⟩, hlastMonitor, hprocessed⟩

theorem showsProcessed_move {a : Move × HealthReads} (horigins : Origins x)
    (h : ShowsProcessed x.runs health) (hmove : move x a.1 = some x') :
    ShowsProcessed x'.runs (healthAfter x a x' health) := by
  rw [healthAfter]
  obtain ⟨run, hsaved, hruns⟩ | ⟨hsaved, u, hu, -⟩ := move_cases horigins hmove
  · rw [hsaved, hruns]
    dsimp only
    split
    · rename_i hprocesses
      exact h.process (horigins.saved hsaved).1 hprocesses
    · rename_i hprocesses
      exact h.rewrite (rewrites_save hprocesses)
  · rw [hsaved]
    exact h.rewrite hu

/-- **One step.** -/
theorem showsNewest_move_iff {a : Move × HealthReads} {y : Runner × HealthTable}
    (horigins : Origins x) (hshown : ShowsProcessed x.runs health) (h : ShowsNewest (x, health))
    (hmove : move x a.1 = some x') :
    ShowsNewest (x', healthAfter x a x' health) ↔ InOrder (x, health) a y := by
  rw [healthAfter, InOrder]
  obtain ⟨run, hsaved, hruns⟩ | ⟨hsaved, u, hu, hkeeps⟩ := move_cases horigins hmove
  · obtain ⟨horigin, -⟩ := horigins.saved hsaved
    simp only [hsaved, Option.mem_some_iff, forall_eq']
    split
    · rename_i hprocesses
      exact showsNewest_of_processes_iff horigin hprocesses hruns h
    · rename_i hprocesses
      have hu := rewrites_save hprocesses
      rw [← hruns] at hu
      rw [showsNewest_iff_of_rewrites hu h]
      constructor
      · intro hsame shown hget hlastId
        obtain ⟨-, last, hlast, hmonitor, hprocessed⟩ := hshown shown (Table.mem_of_get? hget)
        rw [Table.key_of_get? hget] at hmonitor
        have hlastMem := Table.mem_of_get? hlast
        have hmet : shown ∈ health.get? last.monitorId := hmonitor ▸ hget
        obtain ⟨shown', hget', newest, hnewest, -, -, hstatus, -⟩ := h last hlastMem hprocessed
        cases Option.mem_unique hmet hget'
        cases Option.mem_unique hlast hnewest
        have hu := hsame last hlastMem hprocessed shown hmet last hlast
        rw [if_pos ((Table.key_of_get? hlast).trans hlastId), savedRow_status] at hu
        rw [hstatus, hu]
      · intro hsaves row hrow hprocessed shown hget last hlast
        split
        · rename_i hid
          obtain ⟨shown', hget', newest, hnewest, hmonitor, -, hstatus, -⟩ := h row hrow hprocessed
          cases Option.mem_unique hget hget'
          cases Option.mem_unique hlast hnewest
          have hlastOrigin := horigin last (hid ▸ Table.get?_of_mem (Table.mem_of_get? hlast))
          have hsameMonitor : last.monitorId = run.monitorId :=
            congrArg (fun o => o.2.1) hlastOrigin
          rw [← hmonitor, hsameMonitor] at hget
          have hlastId : shown.lastRunId = run.id := (Table.key_of_get? hlast).symm.trans hid
          rw [savedRow_status, ← hsaves shown hget hlastId, hstatus]
        · rfl
  · simp only [hsaved, Option.mem_def, reduceCtorEq, false_implies, implies_true, iff_true]
    rw [showsNewest_iff_of_rewrites hu h]
    intro row hrow hprocessed shown hget last hlast
    obtain ⟨shown', hget', newest, hnewest, -, -, hstatus, -⟩ := h row hrow hprocessed
    cases Option.mem_unique hget hget'
    cases Option.mem_unique hlast hnewest
    refine hkeeps last ?_
    rw [← hstatus]
    exact (hshown shown (Table.mem_of_get? hget)).1

end Step

/-- **The health shows the newest processed run** in every state, exactly when runs are processed in
the order of their creation and a shown run keeps its status. -/
theorem showsNewest_along_iff (now : Time) (actions : List (Move × HealthReads)) :
    Along healthMove (fun _ _ x' => ShowsNewest x') (idle now, .empty) actions ↔
      Along healthMove InOrder (idle now, .empty) actions := by
  have hidle : ShowsNewest (idle now, .empty) :=
    fun row hrow => absurd hrow (Table.not_mem_empty row)
  refine along_state_iff_along (I := fun x => Origins x.1 ∧ ShowsProcessed x.1.runs x.2)
    (fun x a x' hx hstep => ?_) (fun x a x' hx hlaw hstep => ?_)
    ⟨origins_idle now, fun shown hshown => absurd hshown (Table.not_mem_empty shown)⟩ hidle
  · obtain ⟨hmove, hrecord⟩ := recording_eq_some_iff.mp hstep
    rw [hrecord]
    exact ⟨origins_move hx.1 hmove, showsProcessed_move hx.1 hx.2 hmove⟩
  · obtain ⟨hmove, hrecord⟩ := recording_eq_some_iff.mp hstep
    have hiff := showsNewest_move_iff (y := x') hx.1 hx.2 hlaw hmove
    rwa [← hrecord] at hiff

def noReads : HealthReads := ⟨none, [], 0, none⟩

/-- Two published runs of monitor 1 overlap: the newer one ends first. -/
def overlappingRuns : List (Move × HealthReads) :=
  [.queue (.enqueue 1 1 sampleRequest), .queue (.tick 5),
    .queue (.enqueue 2 2 { sampleRequest with queuedAt := 5 }), .queue (.claim 1 1 1),
    .queue (.claim 2 2 2), .queue (.settle 2 .failed "HTTP_ERROR" ""), .queue (.save 2),
    .queue (.settle 1 .success "" ""), .queue (.save 1)].map fun m => (m, noReads)

/-- The older run, which is processed last, is shown. -/
theorem older_run_shown :
    ¬ ∀ now actions,
      Along healthMove (fun _ _ x' => ShowsNewest x') (idle now, .empty) actions := by
  intro h
  have hrun := h 0 overlappingRuns
  revert hrun
  decide

end Rhythm.Storage
