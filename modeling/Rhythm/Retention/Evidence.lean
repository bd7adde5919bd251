import Mathlib.Data.List.Sort
import Rhythm.Runs.Timing
import Rhythm.Table

/-!
# Rhythm.Retention.Evidence

The evidence of a run: its steps with their attempts, and its events, in the
tables that `save` writes; the manifests of archived runs, and the objects that
hold their evidence.  Over them, the four readers of the run repository: `Get`,
which falls back to the archive, `GetStep`, `ListEvents` and
`GetDiagnosticsSummary`.

The columns that a reader only carries along are one `document`.
-/

namespace Rhythm.Retention

open Runs

abbrev StepRunId := Nat

/-! ## Tables -/

/-- A row of `monitor_runs`. -/
structure RunRow where
  id : RunId
  monitorId : MonitorId
  revisionId : RevisionId
  status : Status
  failureCategory : String
  queueDelayMs : Int
  warningCount : Int
  durationMs : Int
  createdAt : Time
  document : String
  deriving DecidableEq

/-- A row of `monitor_step_runs`. -/
structure StepRow where
  id : StepRunId
  monitorRunId : RunId
  stepDefinitionId : String
  stepOrder : Int
  stepName : String
  stepType : String
  status : Status
  attemptCount : Int
  durationMs : Int
  timing : List (String × Json)
  document : String
  deriving DecidableEq

/-- A row of `step_attempts`. -/
structure AttemptRow where
  stepRunId : StepRunId
  attemptNumber : Int
  document : String
  deriving DecidableEq

def AttemptRow.key (row : AttemptRow) : StepRunId × Int := (row.stepRunId, row.attemptNumber)

/-- A row of `run_events`. -/
structure EventRow where
  monitorRunId : RunId
  stepRunId : Option StepRunId
  sequence : Int
  document : String
  deriving DecidableEq

def EventRow.key (row : EventRow) : RunId × Int := (row.monitorRunId, row.sequence)

/-- `restore_state`. -/
inductive RestoreState where
  | available | restoring | expired | policyBlocked
  deriving DecidableEq

/-- The key `warm-runs/<runID>.json.gz`. -/
structure ObjectKey where
  runId : RunId
  deriving DecidableEq

/-- A row of `warm_evidence_manifests`. -/
structure Manifest where
  runId : RunId
  objectKey : ObjectKey
  checksum : String
  expiresAt : Time
  restoreState : RestoreState
  deriving DecidableEq

/-- A manifest that `restoreWarmEvidence` reads. -/
def Manifest.Restorable (manifest : Manifest) (now : Time) : Prop :=
  manifest.restoreState = .available ∧ now < manifest.expiresAt

instance (manifest : Manifest) (now : Time) : Decidable (manifest.Restorable now) :=
  inferInstanceAs (Decidable (manifest.restoreState = .available ∧ now < manifest.expiresAt))

/-- The tables that hold runs and their evidence. -/
structure Database where
  runs : Table RunRow fun row => row.id
  steps : Table StepRow fun row => row.id
  attempts : Table AttemptRow AttemptRow.key
  events : Table EventRow EventRow.key
  manifests : Table Manifest fun row => row.runId

/-! ## Runs with their evidence -/

/-- A step with its attempts. -/
structure Step where
  row : StepRow
  attempts : List AttemptRow
  deriving DecidableEq

/-- A run as `Get` returns it, and as the archive stores it. -/
structure Run where
  row : RunRow
  steps : List Step
  events : List EventRow
  deriving DecidableEq

/-- The order of `ORDER BY step_order`, and likewise for attempts and events. -/
def sortedBy {α : Type} (key : α → Int) (rows : List α) : List α :=
  rows.insertionSort fun a b => key a ≤ key b

/-- `SELECT … FROM monitor_step_runs WHERE monitor_run_id=$1 ORDER BY step_order`. -/
def stepRows (db : Database) (runID : RunId) : List StepRow :=
  sortedBy StepRow.stepOrder (db.steps.rows.filter fun row => row.monitorRunId = runID)

/-- `SELECT … FROM step_attempts WHERE step_run_id=$1 ORDER BY attempt_number`. -/
def attemptRows (db : Database) (stepRunID : StepRunId) : List AttemptRow :=
  sortedBy AttemptRow.attemptNumber (db.attempts.rows.filter fun row => row.stepRunId = stepRunID)

/-- The steps with the attempts that the database has for them. -/
def withAttempts (db : Database) (rows : List StepRow) : List Step :=
  rows.map fun row => ⟨row, attemptRows db row.id⟩

/-- `SELECT … FROM run_events WHERE monitor_run_id=$1 ORDER BY sequence`. -/
def eventRows (db : Database) (runID : RunId) : List EventRow :=
  sortedBy EventRow.sequence (db.events.rows.filter fun row => row.monitorRunId = runID)

/-! ## The archive -/

/-- An evidence object: the run that was encoded. -/
structure Object where
  key : ObjectKey
  content : Run
  deriving DecidableEq

/-- The evidence objects of the store. -/
abbrev ObjectStore := Table Object fun object => object.key

def Object.replaceWith (new old : Object) : Object := { old with content := new.content }

theorem Object.keepsKey_replaceWith (new : Object) :
    Table.KeepsKey (fun object : Object => object.key) new.replaceWith := ⟨fun _ => rfl⟩

/-- `Put`: the object under the key is replaced. -/
def ObjectStore.put (store : ObjectStore) (key : ObjectKey) (content : Run) : ObjectStore :=
  store.upsert Object.replaceWith Object.keepsKey_replaceWith ⟨key, content⟩

theorem ObjectStore.mem_put {store : ObjectStore} {key : ObjectKey} {content : Run}
    {object : Object} :
    object ∈ store.put key content ↔
      object = ⟨key, content⟩ ∨ object ∈ store ∧ object.key ≠ key := by
  unfold ObjectStore.put
  refine Table.mem_upsert fun old _ hkey => ?_
  rw [Object.replaceWith, hkey]

@[simp] theorem ObjectStore.get?_put_self {store : ObjectStore} {key : ObjectKey} {content : Run} :
    (store.put key content).get? key = some ⟨key, content⟩ :=
  Table.get?_eq_some_iff.mpr ⟨mem_put.mpr (Or.inl rfl), rfl⟩

/-- How a run becomes an object.  JSON and gzip lose nothing, so an object stands for the run that
was encoded; what is left of the encoding are its sizes and its checksum. -/
structure Encoding where
  /-- The bytes of `json.Marshal`. -/
  size : Run → Nat
  /-- The SHA-256 of the compressed bytes. -/
  checksum : Run → String

/-- `io.LimitReader(compressed, 32<<20)`. -/
def restoreLimit : Nat := 32 * 1024 * 1024

/-! ## Readers -/

inductive ReadError where
  | notFound
  | failed (message : String)
  deriving DecidableEq

/-- `restoreWarmEvidence`; a text that was cut off does not decode. -/
def restoreWarmEvidence (encoding : Encoding) (db : Database) (store : ObjectStore) (now : Time)
    (runID : RunId) : Except ReadError (Option Run) :=
  match (db.manifests.get? runID).filter fun manifest => manifest.Restorable now with
  | none => .ok none
  | some manifest =>
    match store.get? manifest.objectKey with
    | none => .error (.failed "open warm run evidence")
    | some object =>
      if encoding.size object.content ≤ restoreLimit then .ok (some object.content)
      else .error (.failed "decode warm run evidence")

/-- `Get`; `store` is the warm store of the repository, if it has one. -/
def get (encoding : Encoding) (store : Option ObjectStore) (db : Database) (now : Time)
    (runID : RunId) : Except ReadError Run :=
  match db.runs.get? runID with
  | none => .error .notFound
  | some row =>
    let run : Run := ⟨row, withAttempts db (stepRows db runID), eventRows db runID⟩
    match store with
    | none => .ok run
    | some store =>
      if stepRows db runID = [] then
        match restoreWarmEvidence encoding db store now runID with
        | .error error => .error error
        | .ok (some restored) => .ok restored
        | .ok none => .ok run
      else .ok run

/-- `GetStep`. -/
def getStep (db : Database) (runID : RunId) (stepRunID : StepRunId) : Except ReadError Step :=
  match (db.steps.get? stepRunID).filter fun row => row.monitorRunId = runID with
  | none => .error .notFound
  | some row => .ok ⟨row, attemptRows db stepRunID⟩

/-- A page of events: the events, their total, and whether there are more. -/
structure EventPage where
  events : List EventRow
  total : Nat
  hasMore : Bool
  deriving DecidableEq

/-- `ListEvents`. -/
def listEvents (db : Database) (runID : RunId) (afterSequence : Int) (limit : Nat) :
    Except ReadError EventPage :=
  let total := (db.events.rows.filter fun row => row.monitorRunId = runID).length
  if total = 0 ∧ db.runs.get? runID = none then .error .notFound
  else
    let events := ((eventRows db runID).filter fun row => row.sequence > afterSequence).take
      (limit + 1)
    .ok ⟨events.take limit, total, limit < events.length⟩

/-! ### The diagnostics summary -/

/-- `RunAnalysis`. -/
structure RunAnalysis where
  stepTimeMs : Int := 0
  overheadMs : Int := 0
  apiResponseTimeMs : Int := 0
  networkTimeMs : Int := 0
  preparationTimeMs : Int := 0
  postProcessingMs : Int := 0
  retryCount : Int := 0
  retryTimeMs : Int := 0
  slowestStepId : String := ""
  slowestStepName : String := ""
  slowestStepMs : Int := 0
  slowestPhase : String := ""
  slowestPhaseMs : Int := 0
  completedSteps : Nat := 0
  failedSteps : Nat := 0
  skippedSteps : Nat := 0
  deriving DecidableEq

/-- `RecordedPreparationMS`. -/
def recordedPreparationMS (timing : List (String × Json)) : Option Int :=
  if (timing.lookup "preparationMs").isSome then some (timingMilliseconds timing "preparationMs")
  else if (timing.lookup "preRequestScriptMs").isSome then
    some (timingMilliseconds timing "preRequestScriptMs")
  else none

/-- `projectedSlowestTimingPhase`: the phase and its time. -/
def projectedSlowestTimingPhase (timing : List (String × Json)) : String × Int :=
  apiResponsePhaseKeys.foldl
    (fun slowest key =>
      if timingMilliseconds timing key > slowest.2 then (key, timingMilliseconds timing key)
      else slowest)
    ("", 0)

def RunAnalysis.countStep (analysis : RunAnalysis) : Status → RunAnalysis
  | .failed | .timedOut | .aborted => { analysis with failedSteps := analysis.failedSteps + 1 }
  | .skippedCondition => { analysis with skippedSteps := analysis.skippedSteps + 1 }
  | _ => { analysis with completedSteps := analysis.completedSteps + 1 }

/-- The body of the loop of `GetDiagnosticsSummary`. -/
def RunAnalysis.addStep (analysis : RunAnalysis) (step : StepRow) : RunAnalysis :=
  let apiResponseMs := (recordedAPIResponseMS step.timing).getD 0
  let phase := projectedSlowestTimingPhase step.timing
  let counted := { analysis with
    stepTimeMs := analysis.stepTimeMs + step.durationMs
    apiResponseTimeMs := analysis.apiResponseTimeMs + apiResponseMs
    networkTimeMs := analysis.networkTimeMs + timingMilliseconds step.timing "networkTotalMs"
    preparationTimeMs := analysis.preparationTimeMs + (recordedPreparationMS step.timing).getD 0
    postProcessingMs :=
      analysis.postProcessingMs + timingMilliseconds step.timing "postProcessingMs"
    retryTimeMs := analysis.retryTimeMs + timingMilliseconds step.timing "retryBackoffMs"
    retryCount := analysis.retryCount + max 0 (step.attemptCount - 1) }.countStep step.status
  let slowestStep :=
    if apiResponseMs > counted.slowestStepMs then
      { counted with
        slowestStepId := step.stepDefinitionId
        slowestStepName := step.stepName
        slowestStepMs := apiResponseMs }
    else counted
  if phase.2 > slowestStep.slowestPhaseMs then
    { slowestStep with
      slowestPhase := phase.1
      slowestPhaseMs := phase.2 }
  else slowestStep

/-- A run without its evidence, its API response time, and its analysis. -/
structure DiagnosticsSummary where
  row : RunRow
  apiResponseTimeMs : Option Int
  analysis : RunAnalysis
  deriving DecidableEq

/-- `GetDiagnosticsSummary`. -/
def getDiagnosticsSummary (db : Database) (runID : RunId) :
    Except ReadError DiagnosticsSummary :=
  match db.runs.get? runID with
  | none => .error .notFound
  | some row =>
    let steps := stepRows db runID
    let analysis := steps.foldl RunAnalysis.addStep {}
    .ok
      { row := row
        apiResponseTimeMs :=
          if steps.any fun step => (recordedAPIResponseMS step.timing).isSome then
            some analysis.apiResponseTimeMs
          else none
        analysis := { analysis with overheadMs := max 0 (row.durationMs - analysis.stepTimeMs) } }

/-! ## Archiving -/

/-- The two `DELETE` statements of `archiveRun`; the attempts of a step go with it. -/
def Database.deleteEvidence (db : Database) (runID : RunId) : Database :=
  { db with
    events := db.events.deleteWhere fun row => row.monitorRunId = runID
    steps := db.steps.deleteWhere fun row => row.monitorRunId = runID
    attempts := db.attempts.deleteWhere fun row =>
      ∃ step ∈ db.steps, step.monitorRunId = runID ∧ step.id = row.stepRunId }

def retention : Time := 30 * 24 * 3600000

/-- The manifest that `archiveRun` inserts for a run. -/
def manifestOf (encoding : Encoding) (runID : RunId) (run : Run) : Manifest where
  runId := runID
  objectKey := ⟨runID⟩
  checksum := encoding.checksum run
  expiresAt := run.row.createdAt + retention
  restoreState := .available

/-- The transaction of `archiveRun`: refused when the run is gone. -/
def Database.commitArchive (db : Database) (encoding : Encoding) (runID : RunId) (run : Run) :
    Option Database :=
  if db.runs.get? runID = none then none
  else some ({ db with
    manifests := db.manifests.insertIgnore (manifestOf encoding runID run) }.deleteEvidence runID)

/-- `archiveRun`: read, upload, and replace the rows by a manifest. -/
def archiveRun (encoding : Encoding) (db : Database) (store : ObjectStore) (now : Time)
    (runID : RunId) : Except ReadError (Database × ObjectStore) :=
  match get encoding (some store) db now runID with
  | .error error => .error error
  | .ok run =>
    match db.commitArchive encoding runID run with
    | none => .error (.failed "insert warm evidence manifest")
    | some archived => .ok (archived, store.put ⟨runID⟩ run)

end Rhythm.Retention
