import Mathlib.Logic.Function.Basic
import Rhythm.Retention.Evidence
import Rhythm.Transition

/-!
# Rhythm.Retention.System

The evidence of runs under everything that writes it: saves of runs, retention
workers that archive and that expire archives, the deletion of old runs, and the
permanent deletion of monitors.

`archiveRun` is not one transaction.  It reads the run with one statement after
another, uploads the object, and then replaces the rows by a manifest; so is the
expiry of an archive, which deletes the object before it marks the manifest.
Each statement, upload and transaction is one step of the system, any two steps
of one worker may have steps of others between them, and a worker may fail or
stop after every step.

Ids of steps are unique among all runs, so the evidence tables are kept run by
run.
-/

namespace Rhythm.Retention

open Runs

/-! ## The evidence of one run -/

/-- The steps, attempts and events of a run. -/
structure Evidence where
  steps : List Step
  events : List EventRow
  deriving DecidableEq

def Run.evidence (run : Run) : Evidence := ⟨run.steps, run.events⟩

/-- The rows of one run in the evidence tables. -/
structure RunTables where
  steps : Table StepRow fun row => row.id
  attempts : Table AttemptRow AttemptRow.key
  events : Table EventRow EventRow.key

namespace RunTables

def empty : RunTables := ⟨.empty, .empty, .empty⟩

/-- The steps, in the order that `Get` reads them in. -/
def stepRows (tables : RunTables) : List StepRow := sortedBy StepRow.stepOrder tables.steps.rows

/-- The steps with the attempts that the tables have for them. -/
def withAttempts (tables : RunTables) (rows : List StepRow) : List Step :=
  rows.map fun row =>
    ⟨row, sortedBy AttemptRow.attemptNumber
      (tables.attempts.rows.filter fun attempt => attempt.stepRunId = row.id)⟩

/-- The events, in the order that `Get` reads them in. -/
def eventRows (tables : RunTables) : List EventRow :=
  sortedBy EventRow.sequence tables.events.rows

def evidence (tables : RunTables) : Evidence :=
  ⟨tables.withAttempts tables.stepRows, tables.eventRows⟩

end RunTables

/-! ## Saving -/

/-- The columns of a run that `ON CONFLICT` writes. -/
def RunRow.update (new old : RunRow) : RunRow :=
  { old with
    status := new.status
    failureCategory := new.failureCategory
    queueDelayMs := new.queueDelayMs
    warningCount := new.warningCount
    durationMs := new.durationMs
    document := new.document }

/-- The columns of a step that `ON CONFLICT` writes. -/
def StepRow.update (new old : StepRow) : StepRow :=
  { old with
    status := new.status
    attemptCount := new.attemptCount
    durationMs := new.durationMs
    timing := new.timing
    document := new.document }

def AttemptRow.update (new old : AttemptRow) : AttemptRow := { old with document := new.document }

def EventRow.update (new old : EventRow) : EventRow :=
  { old with stepRunId := new.stepRunId, document := new.document }

theorem RunRow.keepsKey_update (new : RunRow) :
    Table.KeepsKey (fun row : RunRow => row.id) new.update := ⟨fun _ => rfl⟩

theorem StepRow.keepsKey_update (new : StepRow) :
    Table.KeepsKey (fun row : StepRow => row.id) new.update := ⟨fun _ => rfl⟩

theorem AttemptRow.keepsKey_update (new : AttemptRow) :
    Table.KeepsKey AttemptRow.key new.update := ⟨fun _ => rfl⟩

theorem EventRow.keepsKey_update (new : EventRow) :
    Table.KeepsKey EventRow.key new.update := ⟨fun _ => rfl⟩

/-- What a save changes: all steps and events for `Save`, some of them for `SaveDelta`. -/
structure RunChanges where
  steps : List Step
  events : List EventRow
  deriving DecidableEq

def RunTables.saveStep (runID : RunId) (tables : RunTables) (step : Step) : RunTables :=
  { tables with
    steps := tables.steps.upsert StepRow.update StepRow.keepsKey_update
      { step.row with
        monitorRunId := runID
        attemptCount := max step.row.attemptCount 1 }
    attempts := tables.attempts.upsertAll AttemptRow.update AttemptRow.keepsKey_update
      (step.attempts.map fun attempt => { attempt with stepRunId := step.row.id }) }

/-- The evidence that `save` writes. -/
def RunTables.save (runID : RunId) (tables : RunTables) (changes : RunChanges) : RunTables :=
  let saved := changes.steps.foldl (RunTables.saveStep runID) tables
  { saved with
    events := saved.events.upsertAll EventRow.update EventRow.keepsKey_update
      (changes.events.map fun event => { event with monitorRunId := runID }) }

/-- The foreign key of the events: the tables have the steps that they name. -/
def RunTables.References (tables : RunTables) : Prop :=
  ∀ event ∈ tables.events, ∀ stepRunID ∈ event.stepRunId, ∃ step ∈ tables.steps, step.id = stepRunID

instance (tables : RunTables) : Decidable tables.References :=
  inferInstanceAs (Decidable (∀ event ∈ tables.events, ∀ stepRunID ∈ event.stepRunId,
    ∃ step ∈ tables.steps, step.id = stepRunID))

/-! ## Workers -/

/-- How far `archiveRun` is with a run: the statements of `Get`, the upload, and the
transaction. -/
inductive Stage where
  | started
  | gotRow (row : RunRow)
  | gotSteps (row : RunRow) (rows : List StepRow)
  | gotAttempts (row : RunRow) (steps : List Step)
  | gotEvents (run : Run)
  | gotManifest (key : ObjectKey)
  | gotRun (run : Run)
  | uploaded (run : Run)
  deriving DecidableEq

/-- What a retention worker is doing. -/
inductive Work where
  | idle
  /-- `archiveRun` of a run, and the runs of the batch that are left. -/
  | archiving (runID : RunId) (stage : Stage) (rest : List RunId)
  /-- The expiry of an archive, its object being deleted or not, and the archives that are left. -/
  | expiring (item : Manifest) (deleted : Bool) (rest : List Manifest)
  deriving DecidableEq

/-- The loop of `archiveBatch`. -/
def Work.archive : List RunId → Work
  | [] => .idle
  | runID :: rest => .archiving runID .started rest

/-- `archiveRun` has come to a stage, or has ended. -/
def Work.afterStatement (runID : RunId) (rest : List RunId) : Option Stage → Work
  | none => .archive rest
  | some stage => .archiving runID stage rest

/-- The loop of `expireEvidence`. -/
def Work.expire : List Manifest → Work
  | [] => .idle
  | item :: rest => .expiring item false rest

/-! ## States -/

/-- The database, the store and the workers.  `saved` is what the evidence tables would hold, had
nothing been archived. -/
structure State where
  now : Time
  runs : Table RunRow fun row => row.id
  tables : RunId → RunTables
  manifests : Table Manifest fun row => row.runId
  store : ObjectStore
  deletedMonitors : List MonitorId
  workers : WorkerId → Work
  saved : RunId → RunTables

def initial (now : Time) : State where
  now := now
  runs := .empty
  tables _ := .empty
  manifests := .empty
  store := .empty
  deletedMonitors := []
  workers _ := .idle
  saved _ := .empty

def State.withWork (s : State) (workerID : WorkerId) (work : Work) : State :=
  { s with workers := Function.update s.workers workerID work }

/-- `save`; the monitor of a new run must be there, and the steps of its events. -/
def State.save (s : State) (run : RunRow) (changes : RunChanges) : Option State :=
  let tables := (s.tables run.id).save run.id changes
  if s.runs.get? run.id = none ∧ run.monitorId ∈ s.deletedMonitors then none
  else if tables.References then
    some { s with
      runs := s.runs.upsert RunRow.update RunRow.keepsKey_update run
      tables := Function.update s.tables run.id tables
      saved := Function.update s.saved run.id ((s.saved run.id).save run.id changes) }
  else none

/-! ### Archiving -/

def archiveAge : Time := 7 * 24 * 3600000

/-- A run that `archiveBatch` selects. -/
def State.Archivable (s : State) (row : RunRow) : Prop :=
  row.createdAt + archiveAge < s.now ∧ s.now ≤ row.createdAt + retention ∧
    row.status.isTerminal = true ∧ s.manifests.get? row.id = none ∧
    (s.tables row.id).steps.rows ≠ []

instance (s : State) (row : RunRow) : Decidable (s.Archivable row) :=
  inferInstanceAs (Decidable (_ ∧ _ ∧ _ ∧ _ ∧ _))

def batchSize : Nat := 500

/-- The query of `archiveBatch`. -/
def State.batch (s : State) : List RunId :=
  (((s.runs.rows.filter fun row => s.Archivable row).insertionSort
    fun a b => a.createdAt ≤ b.createdAt).take batchSize).map fun row => row.id

/-- The transaction of `archiveRun`; it fails when the run is gone. -/
def State.commitArchive (encoding : Encoding) (s : State) (runID : RunId) (run : Run) : State :=
  if s.runs.get? runID = none then s
  else
    { s with
      manifests := s.manifests.insertIgnore (manifestOf encoding runID run)
      tables := Function.update s.tables runID .empty }

/-- The state after the next statement of `archiveRun`. -/
def State.archiveStep (encoding : Encoding) (s : State) (runID : RunId) : Stage → State
  | .gotRun run => { s with store := s.store.put ⟨runID⟩ run }
  | .uploaded run => s.commitArchive encoding runID run
  | _ => s

/-- The stage after the next statement of `archiveRun`, if it has not ended. -/
def State.nextStage (encoding : Encoding) (s : State) (runID : RunId) : Stage → Option Stage
  | .started => (s.runs.get? runID).map .gotRow
  | .gotRow row =>
    -- without steps, there is no query of attempts
    match (s.tables runID).stepRows with
    | [] => some (.gotAttempts row [])
    | rows => some (.gotSteps row rows)
  | .gotSteps row rows => some (.gotAttempts row ((s.tables runID).withAttempts rows))
  | .gotAttempts row steps =>
    let run : Run := ⟨row, steps, (s.tables runID).eventRows⟩
    if steps = [] then some (.gotEvents run) else some (.gotRun run)
  | .gotEvents run =>
    match (s.manifests.get? runID).filter fun manifest => manifest.Restorable s.now with
    | none => some (.gotRun run)
    | some manifest => some (.gotManifest manifest.objectKey)
  | .gotManifest key =>
    match s.store.get? key with
    | none => none
    | some object =>
      if encoding.size object.content ≤ restoreLimit then some (.gotRun object.content) else none
  | .gotRun run => some (.uploaded run)
  | .uploaded _ => none

/-! ### Expiry and deletion -/

/-- An archive that `expireEvidence` selects. -/
def State.Expirable (s : State) (manifest : Manifest) : Prop :=
  manifest.expiresAt < s.now ∧ manifest.restoreState = .available

instance (s : State) (manifest : Manifest) : Decidable (s.Expirable manifest) :=
  inferInstanceAs (Decidable (_ ∧ _))

/-- The query of `expireEvidence`. -/
def State.expired (s : State) : List Manifest :=
  (s.manifests.rows.filter fun manifest => s.Expirable manifest).take batchSize

def Manifest.expire (manifest : Manifest) : Manifest := { manifest with restoreState := .expired }

theorem Manifest.keepsKey_expire :
    Table.KeepsKey (fun row : Manifest => row.runId) Manifest.expire := ⟨fun _ => rfl⟩

/-- The state after the next statement for an archive of `expireEvidence`. -/
def State.expireStep (s : State) (item : Manifest) : Bool → State
  | false => { s with store := s.store.deleteWhere fun object => object.key = item.objectKey }
  | true =>
    { s with
      manifests := s.manifests.update (fun row => row.runId = item.runId) Manifest.expire
        Manifest.keepsKey_expire }

/-- A run that `expireOldRunSummaries` selects. -/
def State.Old (s : State) (row : RunRow) : Prop :=
  row.createdAt + retention < s.now ∧ row.status.isTerminal = true ∧
    ∀ manifest ∈ s.manifests.get? row.id, manifest.restoreState ≠ .available

instance (s : State) (row : RunRow) : Decidable (s.Old row) :=
  inferInstanceAs (Decidable (_ ∧ _ ∧ ∀ manifest ∈ s.manifests.get? row.id,
    manifest.restoreState ≠ .available))

/-- The query of `expireOldRunSummaries`. -/
def State.oldRuns (s : State) : List RunId :=
  (((s.runs.rows.filter fun row => s.Old row).insertionSort
    fun a b => a.createdAt ≤ b.createdAt).take 2000).map fun row => row.id

def State.runsOf (s : State) (monitorIDs : List MonitorId) : List RunId :=
  (s.runs.rows.filter fun row => row.monitorId ∈ monitorIDs).map fun row => row.id

/-- `DELETE FROM monitor_runs`, which takes with it the evidence rows and the manifests. -/
def State.deleteRuns (s : State) (runIDs : List RunId) : State :=
  { s with
    runs := s.runs.deleteWhere fun row => row.id ∈ runIDs
    tables := fun runID => if runID ∈ runIDs then .empty else s.tables runID
    manifests := s.manifests.deleteWhere fun manifest => manifest.runId ∈ runIDs
    saved := fun runID => if runID ∈ runIDs then .empty else s.saved runID }

inductive Action where
  | wait (elapsed : Time)
  | save (run : RunRow) (changes : RunChanges)
  | archiveBatch (workerID : WorkerId)
  | expireEvidence (workerID : WorkerId)
  /-- The next statement of what the worker is doing. -/
  | proceed (workerID : WorkerId)
  /-- The next statement fails. -/
  | fail (workerID : WorkerId)
  /-- The process of the worker ends. -/
  | stop (workerID : WorkerId)
  | expireOldRunSummaries
  | permanentDelete (monitorIDs : List MonitorId)
  deriving DecidableEq

/-- The creation times of runs that are all created at time 0. -/
def createdAtStart (_ : RunId) : Time := 0

variable (encoding : Encoding) (created : RunId → Time)

def State.proceed (s : State) (workerID : WorkerId) : Option State :=
  match s.workers workerID with
  | .idle => none
  | .archiving runID stage rest =>
    some ((s.archiveStep encoding runID stage).withWork workerID
      (.afterStatement runID rest (s.nextStage encoding runID stage)))
  | .expiring item deleted rest =>
    some ((s.expireStep item deleted).withWork workerID
      (if deleted then .expire rest else .expiring item true rest))

/-- A worker gives up what it is doing, for the next run or archive. -/
def State.fail (s : State) (workerID : WorkerId) : Option State :=
  match s.workers workerID with
  | .idle => none
  | .archiving _ _ rest => some (s.withWork workerID (.archive rest))
  | .expiring _ _ rest => some (s.withWork workerID (.expire rest))

/-- One step of the system.  A run has one creation time, which every save of it carries. -/
def step (s : State) : Action → Option State
  | .wait elapsed => some { s with now := s.now + elapsed }
  | .save run changes => if run.createdAt = created run.id then s.save run changes else none
  | .archiveBatch workerID =>
    if s.workers workerID = .idle then some (s.withWork workerID (.archive s.batch)) else none
  | .expireEvidence workerID =>
    if s.workers workerID = .idle then some (s.withWork workerID (.expire s.expired)) else none
  | .proceed workerID => s.proceed encoding workerID
  | .fail workerID => s.fail workerID
  | .stop workerID => some (s.withWork workerID .idle)
  | .expireOldRunSummaries => some (s.deleteRuns s.oldRuns)
  | .permanentDelete monitorIDs =>
    if monitorIDs.any fun monitorID => monitorID ∈ s.deletedMonitors then none
    else
      some { s.deleteRuns (s.runsOf monitorIDs) with
        deletedMonitors := monitorIDs ++ s.deletedMonitors }

/-! ## What a step leaves -/

section Inversion

variable {encoding : Encoding} {s s' : State} {workerID : WorkerId}

theorem save_eq_some {run : RunRow} {changes : RunChanges} (h : s.save run changes = some s') :
    s' = { s with
      runs := s.runs.upsert RunRow.update RunRow.keepsKey_update run
      tables := Function.update s.tables run.id ((s.tables run.id).save run.id changes)
      saved := Function.update s.saved run.id ((s.saved run.id).save run.id changes) } := by
  obtain ⟨-, hsome⟩ := Option.ite_none_left_eq_some.mp h
  exact (Option.some.inj (Option.ite_none_right_eq_some.mp hsome).2).symm

theorem proceed_cases (h : s.proceed encoding workerID = some s') :
    (∃ runID stage rest, s.workers workerID = .archiving runID stage rest ∧
      s' = (s.archiveStep encoding runID stage).withWork workerID
        (.afterStatement runID rest (s.nextStage encoding runID stage))) ∨
    ∃ item deleted rest, s.workers workerID = .expiring item deleted rest ∧
      s' = (s.expireStep item deleted).withWork workerID
        (if deleted then .expire rest else .expiring item true rest) := by
  grind [State.proceed, Option.some.inj]

theorem fail_cases (h : s.fail workerID = some s') :
    (∃ runID stage rest, s.workers workerID = .archiving runID stage rest ∧
      s' = s.withWork workerID (.archive rest)) ∨
    ∃ item deleted rest, s.workers workerID = .expiring item deleted rest ∧
      s' = s.withWork workerID (.expire rest) := by
  grind [State.fail, Option.some.inj]

end Inversion

/-! ## Regular states -/

def Manifest.Regular (manifest : Manifest) : Prop :=
  manifest.objectKey = ⟨manifest.runId⟩ ∧ manifest.expiresAt = created manifest.runId + retention

/-- What `archiveRun` has read is of the run. -/
def Stage.Regular (runID : RunId) : Stage → Prop
  | .started => True
  | .gotRow row | .gotSteps row _ | .gotAttempts row _ => row.createdAt = created runID
  | .gotEvents run | .gotRun run | .uploaded run => run.row.createdAt = created runID
  | .gotManifest key => key = ⟨runID⟩

/-- A worker archives what it has read of a run, and expires what has expired. -/
def Work.Regular (now : Time) : Work → Prop
  | .idle => True
  | .archiving runID stage _ => stage.Regular created runID
  | .expiring item _ rest =>
    ∀ manifest ∈ item :: rest, manifest.Regular created ∧ manifest.expiresAt < now

/-- **Regular states.**  Every row, object and manifest of a run carries the creation time of the
run, and every manifest names the object of its own run. -/
structure Regular (s : State) : Prop where
  run : ∀ row ∈ s.runs, row.createdAt = created row.id
  object : ∀ object ∈ s.store, object.content.row.createdAt = created object.key.runId
  manifest : ∀ manifest ∈ s.manifests, manifest.Regular created
  work : ∀ workerID, (s.workers workerID).Regular created s.now

variable {encoding created} {s s' : State} {workerID : WorkerId} {runID : RunId}

theorem regular_initial (now : Time) : Regular created (initial now) where
  run row h := absurd h (Table.not_mem_empty row)
  object object h := absurd h (Table.not_mem_empty object)
  manifest manifest h := absurd h (Table.not_mem_empty manifest)
  work _ := trivial

theorem workers_withWork {work : Work} {other : WorkerId} :
    (s.withWork workerID work).workers other =
      if other = workerID then work else s.workers other :=
  Function.update_apply ..

theorem Work.Regular.mono {work : Work} {now later : Time} (h : work.Regular created now)
    (hle : now ≤ later) : work.Regular created later := by
  cases work with
  | idle => trivial
  | archiving runID stage rest => exact h
  | expiring item deleted rest =>
    intro manifest hmem
    obtain ⟨hregular, hexpired⟩ := h manifest hmem
    exact ⟨hregular, Nat.lt_of_lt_of_le hexpired hle⟩

theorem regular_archive (runIDs : List RunId) (now : Time) :
    (Work.archive runIDs).Regular created now := by
  cases runIDs with
  | nil | cons runID rest => trivial

theorem regular_expire {items : List Manifest} {now : Time}
    (h : ∀ manifest ∈ items, manifest.Regular created ∧ manifest.expiresAt < now) :
    (Work.expire items).Regular created now := by
  cases items with
  | nil => trivial
  | cons item rest => exact h

theorem Regular.withWork (h : Regular created s) {work : Work}
    (hwork : work.Regular created s.now) : Regular created (s.withWork workerID work) := by
  refine ⟨h.run, h.object, h.manifest, fun other => ?_⟩
  rw [workers_withWork]
  by_cases hother : other = workerID
  · rw [if_pos hother]
    exact hwork
  · rw [if_neg hother]
    exact h.work other

/-! ### Each operation -/

theorem Regular.save {run : RunRow} {changes : RunChanges} (h : Regular created s)
    (hcreated : run.createdAt = created run.id) (hsave : s.save run changes = some s') :
    Regular created s' := by
  obtain rfl := save_eq_some hsave
  refine ⟨?_, h.object, h.manifest, h.work⟩
  exact Table.forall_mem_upsert h.run hcreated fun old _ _ hold => hold

theorem get?_manifests_deleteRuns (runIDs : List RunId) (runID : RunId) :
    (s.deleteRuns runIDs).manifests.get? runID =
      if runID ∈ runIDs then none else s.manifests.get? runID := by
  rw [State.deleteRuns, Table.get?_deleteWhere]
  cases hmanifest : s.manifests.get? runID with
  | none => simp
  | some manifest =>
    have hid : manifest.runId = runID := Table.key_of_get? hmanifest
    rw [Option.bind_some, hid]

theorem Regular.deleteRuns (h : Regular created s) (runIDs : List RunId) :
    Regular created (s.deleteRuns runIDs) :=
  ⟨fun row hrow => h.run row (Table.mem_deleteWhere.mp hrow).1, h.object,
    fun manifest hmem => h.manifest manifest (Table.mem_deleteWhere.mp hmem).1, h.work⟩

theorem mem_expired {manifest : Manifest} (h : manifest ∈ s.expired) :
    manifest ∈ s.manifests ∧ manifest.expiresAt < s.now := by
  have hmem := List.mem_filter.mp (List.mem_of_mem_take h)
  exact ⟨hmem.1, (decide_eq_true_eq.mp hmem.2).1⟩

theorem regular_nextStage (h : Regular created s) {stage next : Stage}
    (hstage : stage.Regular created runID) (hnext : s.nextStage encoding runID stage = some next) :
    next.Regular created runID := by
  cases stage with
  | started =>
    obtain ⟨row, hrow, rfl⟩ := Option.map_eq_some_iff.mp hnext
    have hid : row.id = runID := Table.key_of_get? hrow
    rw [← hid]
    exact h.run row (Table.mem_of_get? hrow)
  | gotRow row | gotAttempts row steps =>
    simp only [State.nextStage] at hnext
    split at hnext
    · obtain rfl := Option.some.inj hnext
      exact hstage
    · obtain rfl := Option.some.inj hnext
      exact hstage
  | gotSteps row rows | gotRun run =>
    obtain rfl := Option.some.inj hnext
    exact hstage
  | gotEvents run =>
    simp only [State.nextStage] at hnext
    split at hnext
    · obtain rfl := Option.some.inj hnext
      exact hstage
    · rename_i manifest hfound
      obtain rfl := Option.some.inj hnext
      have hget := (Option.filter_eq_some_iff.mp hfound).1
      have hrun : manifest.runId = runID := Table.key_of_get? hget
      rw [← hrun]
      exact (h.manifest manifest (Table.mem_of_get? hget)).1
  | gotManifest key =>
    have hkey : key = ⟨runID⟩ := hstage
    simp only [State.nextStage] at hnext
    split at hnext
    · exact absurd hnext (by simp)
    · rename_i object hget
      split at hnext
      · obtain rfl := Option.some.inj hnext
        have hcontent := h.object object (Table.mem_of_get? hget)
        rw [Table.key_of_get? hget, hkey] at hcontent
        exact hcontent
      · exact absurd hnext (by simp)
  | uploaded run => exact absurd hnext (by simp [State.nextStage])

theorem mem_manifests_commitArchive {run : Run} {manifest : Manifest}
    (h : manifest ∈ (s.commitArchive encoding runID run).manifests) :
    manifest ∈ s.manifests ∨ manifest = manifestOf encoding runID run := by
  unfold State.commitArchive at h
  split at h
  · exact .inl h
  · obtain hold | ⟨-, hnew⟩ := Table.mem_insertIgnore.mp h
    · exact .inl hold
    · exact .inr hnew

theorem archiveStep_eq (stage : Stage) : ∃ store manifests tables,
    s.archiveStep encoding runID stage =
      { s with store := store, manifests := manifests, tables := tables } := by
  cases stage with
  | uploaded run =>
    simp only [State.archiveStep, State.commitArchive]
    split <;> exact ⟨_, _, _, rfl⟩
  | _ => exact ⟨_, _, _, rfl⟩

variable {stage : Stage}

@[simp] theorem now_archiveStep :
    (s.archiveStep encoding runID stage).now = s.now := by
  obtain ⟨store, manifests, tables, h⟩ := archiveStep_eq stage
  rw [h]

@[simp] theorem workers_archiveStep :
    (s.archiveStep encoding runID stage).workers = s.workers := by
  obtain ⟨store, manifests, tables, h⟩ := archiveStep_eq stage
  rw [h]

@[simp] theorem runs_archiveStep :
    (s.archiveStep encoding runID stage).runs = s.runs := by
  obtain ⟨store, manifests, tables, h⟩ := archiveStep_eq stage
  rw [h]

theorem Regular.archiveStep (h : Regular created s) (hstage : stage.Regular created runID) :
    Regular created (s.archiveStep encoding runID stage) := by
  cases stage with
  | gotRun run =>
    refine ⟨h.run, fun object hobject => ?_, h.manifest, h.work⟩
    obtain rfl | ⟨hold, -⟩ := ObjectStore.mem_put.mp hobject
    · exact hstage
    · exact h.object object hold
  | uploaded run =>
    refine ⟨?_, ?_, fun manifest hmem => ?_, ?_⟩
    · rw [runs_archiveStep]
      exact h.run
    · rw [State.archiveStep, State.commitArchive]
      split <;> exact h.object
    · obtain hold | rfl := mem_manifests_commitArchive hmem
      · exact h.manifest manifest hold
      · exact ⟨rfl, congrArg (· + retention) hstage⟩
    · rw [workers_archiveStep, now_archiveStep]
      exact h.work
  | _ => exact h

theorem Regular.expireStep (h : Regular created s) (item : Manifest) (deleted : Bool) :
    Regular created (s.expireStep item deleted) := by
  cases deleted with
  | false =>
    exact ⟨h.run, fun object hobject => h.object object (Table.mem_deleteWhere.mp hobject).1,
      h.manifest, h.work⟩
  | true =>
    refine ⟨h.run, h.object, fun manifest hmem => ?_, h.work⟩
    rw [State.expireStep, Table.mem_update] at hmem
    obtain ⟨old, hold, rfl⟩ := hmem
    split <;> exact h.manifest old hold

theorem Regular.proceed (h : Regular created s) (hproceed : s.proceed encoding workerID = some s') :
    Regular created s' := by
  have hwork := h.work workerID
  obtain ⟨runID, stage, rest, hworker, rfl⟩ | ⟨item, deleted, rest, hworker, rfl⟩ :=
    proceed_cases hproceed
  · rw [hworker] at hwork
    refine (h.archiveStep hwork).withWork ?_
    rw [now_archiveStep]
    cases hnext : s.nextStage encoding runID stage with
    | none => exact regular_archive rest s.now
    | some next => exact regular_nextStage h hwork hnext
  · rw [hworker] at hwork
    refine (h.expireStep item deleted).withWork ?_
    cases deleted with
    | false => exact hwork
    | true => exact regular_expire fun manifest hmem => hwork manifest (List.mem_cons_of_mem _ hmem)

theorem Regular.fail (h : Regular created s) (hfail : s.fail workerID = some s') :
    Regular created s' := by
  have hwork := h.work workerID
  obtain ⟨runID, stage, rest, hworker, rfl⟩ | ⟨item, deleted, rest, hworker, rfl⟩ :=
    fail_cases hfail
  · exact h.withWork (regular_archive rest s.now)
  · rw [hworker] at hwork
    refine h.withWork (regular_expire fun manifest hmem => ?_)
    exact hwork manifest (List.mem_cons_of_mem _ hmem)

/-- **Regular states.**  Every step keeps them. -/
theorem Regular.step {a : Action} (h : Regular created s)
    (hstep : step encoding created s a = some s') : Regular created s' := by
  cases a with
  | wait elapsed =>
    obtain rfl := Option.some.inj hstep
    exact ⟨h.run, h.object, h.manifest,
      fun workerID => (h.work workerID).mono (Nat.le_add_right _ _)⟩
  | save run changes =>
    obtain ⟨hcreated, hsave⟩ := Option.ite_none_right_eq_some.mp hstep
    exact h.save hcreated hsave
  | archiveBatch workerID =>
    obtain ⟨-, hsome⟩ := Option.ite_none_right_eq_some.mp hstep
    obtain rfl := Option.some.inj hsome
    exact h.withWork (regular_archive s.batch s.now)
  | expireEvidence workerID =>
    obtain ⟨-, hsome⟩ := Option.ite_none_right_eq_some.mp hstep
    obtain rfl := Option.some.inj hsome
    refine h.withWork (regular_expire fun manifest hmem => ?_)
    obtain ⟨hmanifest, hexpired⟩ := mem_expired hmem
    exact ⟨h.manifest manifest hmanifest, hexpired⟩
  | proceed workerID => exact h.proceed hstep
  | fail workerID => exact h.fail hstep
  | stop workerID =>
    obtain rfl := Option.some.inj hstep
    exact h.withWork trivial
  | expireOldRunSummaries =>
    obtain rfl := Option.some.inj hstep
    exact h.deleteRuns s.oldRuns
  | permanentDelete monitorIDs =>
    obtain ⟨-, hsome⟩ := Option.ite_none_left_eq_some.mp hstep
    obtain rfl := Option.some.inj hsome
    have hdeleted := h.deleteRuns (s.runsOf monitorIDs)
    exact ⟨hdeleted.run, hdeleted.object, hdeleted.manifest, hdeleted.work⟩

end Rhythm.Retention
