import Rhythm.Alerts.Investigation
import Rhythm.Monitors.Definition
import Rhythm.Storage.AlertState

/-!
# Rhythm.Storage.SavedRun

`save`: one transaction writes a run, its changed steps and events and, once the run has ended,
the alert, the rollup and the health of its monitor.  Here it is the program of its
statements, with the values that reach a column of a limited type.

Times, durations, counts and generated identifiers fit their columns and are left out, and so
are the rows that the statements change.
-/

namespace Rhythm.Storage

open Runs Alerts Sql

/-! ## Records -/

abbrev StepRunId := Nat

def statusText : Status → String
  | .queued => "QUEUED"
  | .starting => "STARTING"
  | .running => "RUNNING"
  | .success => "SUCCESS"
  | .successWithWarnings => "SUCCESS_WITH_WARNINGS"
  | .failed => "FAILED"
  | .timedOut => "TIMED_OUT"
  | .cancelled => "CANCELLED"
  | .aborted => "ABORTED"
  | .skippedCondition => "SKIPPED_CONDITION"
  | .skipped => "SKIPPED"

def severityText : Severity → String
  | .critical => "CRITICAL"
  | .high => "HIGH"
  | .warning => "WARNING"
  | .low => "LOW"
  | .info => "INFO"

/-- `AttemptRun`; the documents are as `json.Marshal` encodes them. -/
structure AttemptRecord where
  status : Status
  failureCategory : String
  errorMessage : String
  requestSummary : Json
  responseSummary : Json
  timing : Json
  tls : Json
  proxy : Json
  redirects : Json

/-- `StepRun`. -/
structure StepRecord where
  id : StepRunId
  stepDefinitionId : String
  stepName : String
  stepType : String
  status : Status
  requestSummary : Json
  responseSummary : Json
  timing : Json
  tls : Json
  proxy : Json
  attempts : List AttemptRecord
  extractors : Json
  assertions : Json
  outputs : Json
  failureCategory : String
  errorMessage : String
  preRequestScript : Json
  testScript : Json

/-- `RunEvent`. -/
structure EventRecord where
  type : String
  status : Status
  stepRunId : Option StepRunId
  stepId : String
  category : String
  message : String
  details : Json

/-- `Run`. -/
structure RunRecord where
  status : Status
  triggerType : String
  triggerSource : String
  failureCategory : String
  failureReason : String
  failedStepId : String
  executionContext : Json
  alertImpact : Json
  events : List EventRecord
  steps : List StepRecord
  setupScript : Json

/-! ## Statements -/

/-- `INSERT INTO monitor_runs`; the check of its status knows no skipped condition. -/
def runStatement (run : RunRecord) : Statement where
  columns :=
    [varchar 50 (statusText run.status), varchar 50 run.triggerType,
      nullIfEmpty (varchar 255 run.triggerSource), nullIfEmpty (varchar 100 run.failureCategory),
      nullIfEmpty (text run.failureReason), nullIfEmpty (varchar 255 run.failedStepId),
      jsonb run.executionContext, jsonb run.alertImpact, jsonb run.setupScript]
  constraint := run.status ≠ .skippedCondition

/-- `INSERT INTO monitor_step_runs`. -/
def stepStatement (step : StepRecord) : Statement where
  columns :=
    [varchar 255 step.stepDefinitionId, varchar 255 step.stepName, varchar 100 step.stepType,
      varchar 50 (statusText step.status), jsonb step.requestSummary, jsonb step.responseSummary,
      jsonb step.timing, jsonb step.tls, jsonb step.proxy, jsonb step.extractors,
      jsonb step.assertions, jsonb step.outputs, nullIfEmpty (varchar 100 step.failureCategory),
      nullIfEmpty (text step.errorMessage), jsonb step.preRequestScript, jsonb step.testScript]
  constraint := true

/-- `INSERT INTO step_attempts`. -/
def attemptStatement (attempt : AttemptRecord) : Statement where
  columns :=
    [varchar 50 (statusText attempt.status), nullIfEmpty (varchar 100 attempt.failureCategory),
      nullIfEmpty (text attempt.errorMessage), jsonb attempt.requestSummary,
      jsonb attempt.responseSummary, jsonb attempt.timing, jsonb attempt.tls, jsonb attempt.proxy,
      jsonb attempt.redirects]
  constraint := true

/-- `INSERT INTO run_events`; its step is one of the rows `known`. -/
def eventStatement (known : List StepRunId) (event : EventRecord) : Statement where
  columns :=
    [varchar 100 event.type, nullIfEmpty (varchar 50 (statusText event.status)),
      nullIfEmpty (varchar 255 event.stepId), nullIfEmpty (varchar 100 event.category),
      text event.message, jsonb event.details]
  constraint := ∀ id ∈ event.stepRunId, id ∈ known

/-! ## The alert -/

/-- The text form of an identifier. -/
structure UUID where
  text : String
  length : text.length = 36
  nulFree : NulFree text

/-- A row of `monitors`: its texts were accepted, and stored. -/
structure StoredMonitor where
  id : UUID
  name : String
  slug : String
  description : String
  ownerID : String
  tags : List String
  accepted : Monitors.validateMetadata name slug description ownerID tags = []
  name_nulFree : NulFree name

/-- What the queries of a transaction answer, and the identifiers it makes.  What is stored has no
NUL character. -/
structure SaveAnswers where
  monitor : StoredMonitor
  /-- This save claims the processing of the end of the run. -/
  claimed : Bool
  policy : Option AlertPolicy
  /-- The statuses of the newest runs, as many as there are. -/
  statuses : List Status
  /-- No alert of the monitor is active. -/
  opensAlert : Bool
  /-- How many alerts a success resolves. -/
  resolvedAlerts : Nat
  definition : Option (List (String × Json))
  applicationID : String
  generatedIDs : List String
  definition_nulFree : ∀ fields ∈ definition, (Json.obj fields).NulFree
  applicationID_nulFree : NulFree applicationID
  generatedIDs_nulFree : ∀ id ∈ generatedIDs, NulFree id

def SaveAnswers.alertPolicy (answers : SaveAnswers) : AlertPolicy :=
  answers.policy.getD defaultPolicy

/-- `limit`: how many statuses are read. -/
def SaveAnswers.window (answers : SaveAnswers) : List Status :=
  answers.statuses.take
    (max answers.alertPolicy.failureThreshold answers.alertPolicy.recoveryThreshold)

def SaveAnswers.raises (answers : SaveAnswers) (status : Status) : Prop :=
  status ≠ .success ∧ answers.alertPolicy.failureThreshold ≤
    streak (fun status => status ≠ .success) answers.window

def SaveAnswers.resolves (answers : SaveAnswers) (status : Status) : Prop :=
  status = .success ∧ answers.alertPolicy.recoveryThreshold ≤
    streak (fun status => status = .success) answers.window

instance (answers : SaveAnswers) : DecidablePred answers.raises :=
  fun _ => inferInstanceAs (Decidable (_ ∧ _))

instance (answers : SaveAnswers) : DecidablePred answers.resolves :=
  fun _ => inferInstanceAs (Decidable (_ ∧ _))

theorem raises_iff_evaluateAlertState {runs : RunTable} {run : MonitorRun}
    (history : RunHistory runs run.monitorId) (channels : Notifications.ChannelTable)
    (store : AlertStore) (newID : FreshAlertId store.alerts) (answers : SaveAnswers)
    (hstatuses : answers.statuses = history.rows.map MonitorRun.status) :
    answers.raises run.status ↔
      (evaluateAlertState answers.policy answers.monitor.name channels run history store
        newID).1.raises = true := by
  rw [raises_evaluateAlertState_iff, SaveAnswers.raises, SaveAnswers.window,
    SaveAnswers.alertPolicy, hstatuses, ← List.map_take, streak_map,
    le_streak_take_iff (Nat.le_max_left _ _)]

def SaveAnswers.title (answers : SaveAnswers) : String := answers.monitor.name ++ " is failing"

/-- `INSERT INTO alerts`. -/
def alertStatement (answers : SaveAnswers) (run : RunRecord) : Statement where
  columns :=
    [varchar 255 ("monitor:" ++ answers.monitor.id.text), varchar 50 "OPEN",
      varchar 50 (severityText answers.alertPolicy.severity), varchar 255 answers.title,
      text run.failureReason, nullIfEmpty (varchar 100 run.failureCategory),
      nullIfEmpty (varchar 255 run.failedStepId)]
  constraint := true

/-- The statements of `evaluateAlertState`.  Two queries come first; the dispatch and the
investigation of a new alert ignore their errors. -/
def evaluateAlertStateCalls (floats : Investigation.FloatFormat) (answers : SaveAnswers)
    (run : RunRecord) : List Call :=
  .checked .plain :: .checked .plain ::
    if answers.raises run.status then
      .checked .plain :: .checked (alertStatement answers run) :: .checked .plain ::
        if answers.opensAlert then
          .ignored .plain :: Investigation.enqueue floats answers.generatedIDs answers.definition
            answers.applicationID
        else []
    else if answers.resolves run.status then
      .checked .plain :: List.replicate answers.resolvedAlerts (.checked .plain)
    else []

/-- What `updateCurrentHealth` says of a monitor. -/
def operationalStatus : Status → String × String
  | .success => ("HEALTHY", "The latest execution succeeded.")
  | .successWithWarnings => ("DEGRADED", "The latest execution completed with warnings.")
  | .cancelled => ("NO_SIGNAL", "The latest execution was cancelled.")
  | _ => ("FAILING", "The latest execution requires attention.")

/-- The statement of `updateCurrentHealth`. -/
def healthStatement (run : RunRecord) : Statement where
  columns :=
    [varchar 40 (operationalStatus run.status).1, varchar 255 (operationalStatus run.status).2,
      varchar 50 (statusText run.status)]
  constraint := true

/-! ## The transaction -/

/-- The bookkeeping of a run that has ended: a claim, and what it allows. -/
def terminalCalls (floats : Investigation.FloatFormat) (answers : SaveAnswers) (run : RunRecord) :
    List Call :=
  if run.triggerType ≠ "MANUAL_DRAFT" ∧ run.status.isTerminal = true then
    .checked .plain ::
      if answers.claimed then
        evaluateAlertStateCalls floats answers run ++
          (if run.status = .cancelled then [] else [.checked .plain]) ++
          [.checked (healthStatement run)]
      else []
  else []

/-- **`save`**, beside the step rows `stored`. -/
def save (floats : Investigation.FloatFormat) (answers : SaveAnswers) (stored : List StepRunId)
    (run : RunRecord) (changedSteps : List StepRecord) (changedEvents : List EventRecord) :
    List Call :=
  .checked (runStatement run) ::
    (changedSteps.flatMap fun step =>
      .checked (stepStatement step) ::
        step.attempts.map fun attempt => .checked (attemptStatement attempt)) ++
    (changedEvents.map fun event =>
      .checked (eventStatement (stored ++ changedSteps.map StepRecord.id) event)) ++
    terminalCalls floats answers run

/-! ## When it commits -/

section Commits

variable {floats : Investigation.FloatFormat} {answers : SaveAnswers} {run : RunRecord}

theorem accepted_plain : Statement.plain.Accepted := ⟨rfl, List.forall_mem_nil _⟩

theorem takes_statusText (status : Status) :
    (ColumnType.varchar 50).Takes (.text (statusText status)) := by
  cases status <;> decide

theorem withinLimit_title_iff :
    WithinLimit 255 answers.title ↔ answers.monitor.name.length ≤ 244 := by
  have hlength : answers.title.toList.length = answers.monitor.name.length + 11 := by
    rw [SaveAnswers.title, String.toList_append, List.length_append, String.length_toList]
    rfl
  constructor
  · intro hlimit
    by_contra hlong
    have hlast : answers.title.toList.getLast? = some 'g' := by
      rw [SaveAnswers.title, String.toList_append, List.getLast?_append]
      rfl
    have hmem : 'g' ∈ answers.title.toList.drop 255 := by
      refine List.mem_of_getLast? ?_
      rw [List.getLast?_drop, if_neg (by omega), hlast]
    exact absurd (hlimit 'g' hmem) (by decide)
  · intro hshort
    refine withinLimit_of_length_le ?_
    rw [← String.length_toList, hlength]
    omega

/-- The name of the monitor leaves room for the title of the alert, if there is one to raise. -/
def AlertFits (answers : SaveAnswers) (triggerType : String) (status : Status) : Prop :=
  triggerType ≠ "MANUAL_DRAFT" → status.isTerminal = true → answers.claimed = true →
    answers.raises status → answers.monitor.name.length ≤ 244

theorem accepted_healthStatement : (healthStatement run).Accepted := by
  refine ⟨rfl, ?_⟩
  rw [healthStatement]
  cases run.status <;> decide

theorem accepted_alertStatement (hrun : (runStatement run).Accepted) :
    (alertStatement answers run).Accepted ↔ WithinLimit 255 answers.title := by
  obtain ⟨-, hcolumns⟩ := hrun
  simp only [runStatement, List.forall_mem_cons] at hcolumns
  obtain ⟨-, -, -, hcategory, hreason, hstep, -⟩ := hcolumns
  have hkey : (ColumnType.varchar 255).Takes (.text ("monitor:" ++ answers.monitor.id.text)) := by
    refine ⟨withinLimit_of_length_le ?_, nulFree_append.mpr ⟨by decide, ?_⟩⟩
    · rw [String.length_append, answers.monitor.id.length]
      decide
    · exact answers.monitor.id.nulFree
  have hseverity : (ColumnType.varchar 50).Takes
      (.text (severityText answers.alertPolicy.severity)) := by
    cases answers.alertPolicy.severity <;> decide
  have htitle : NulFree answers.title :=
    nulFree_append.mpr ⟨answers.monitor.name_nulFree, by decide⟩
  have hdescription : NulFree run.failureReason := by
    by_cases hempty : run.failureReason = ""
    · rw [hempty]
      decide
    · simpa [nullIfEmpty, hempty, ColumnType.Takes] using hreason
  constructor
  · rintro ⟨-, hall⟩
    exact (hall (varchar 255 answers.title) (by simp [alertStatement])).1
  · intro hlimit
    refine ⟨rfl, ?_⟩
    simp only [alertStatement, List.forall_mem_cons]
    exact ⟨hkey, by decide, hseverity, ⟨hlimit, htitle⟩, hdescription, hcategory, hstep,
      List.forall_mem_nil _⟩

theorem accepted_evaluateAlertStateCalls (hrun : (runStatement run).Accepted) :
    (∀ call ∈ evaluateAlertStateCalls floats answers run, call.statement.Accepted) ↔
      (answers.raises run.status → WithinLimit 255 answers.title) := by
  have hinvestigation : ∀ call ∈ Investigation.enqueue floats answers.generatedIDs
      answers.definition answers.applicationID, call.statement.Accepted :=
    Investigation.accepted_enqueue answers.generatedIDs_nulFree answers.definition_nulFree
      answers.applicationID_nulFree
  have hplain : ∀ n, ∀ call ∈ List.replicate n (Call.checked .plain), call.statement.Accepted := by
    intro n call hcall
    rw [List.eq_of_mem_replicate hcall]
    exact accepted_plain
  unfold evaluateAlertStateCalls
  by_cases hraises : answers.raises run.status
  · rw [if_pos hraises]
    simp only [List.forall_mem_cons, Call.statement, accepted_plain, true_and, hraises,
      true_implies, accepted_alertStatement hrun]
    constructor
    · exact And.left
    · intro hlimit
      refine ⟨hlimit, ?_⟩
      split
      · rw [List.forall_mem_cons]
        exact ⟨accepted_plain, hinvestigation⟩
      · exact List.forall_mem_nil _
  · grind [Call.statement, accepted_plain]

/-- **The bookkeeping fails by the title of an alert alone.** -/
theorem accepted_terminalCalls (hrun : (runStatement run).Accepted) :
    (∀ call ∈ terminalCalls floats answers run, call.statement.Accepted) ↔
      AlertFits answers run.triggerType run.status := by
  unfold terminalCalls AlertFits
  rw [← withinLimit_title_iff]
  by_cases hended : run.triggerType ≠ "MANUAL_DRAFT" ∧ run.status.isTerminal = true
  · rw [if_pos hended, List.forall_mem_cons]
    by_cases hclaimed : answers.claimed = true
    · rw [if_pos hclaimed, List.forall_mem_append, List.forall_mem_append,
        accepted_evaluateAlertStateCalls hrun]
      have hrollup : ∀ call ∈ (if run.status = .cancelled then [] else [Call.checked .plain]),
          call.statement.Accepted := by
        split
        · exact List.forall_mem_nil _
        · exact List.forall_mem_singleton.mpr accepted_plain
      have hhealth : ∀ call ∈ [Call.checked (healthStatement run)], call.statement.Accepted :=
        List.forall_mem_singleton.mpr accepted_healthStatement
      constructor
      · rintro ⟨-, ⟨halert, -⟩, -⟩ - - - hraises
        exact halert hraises
      · intro halert
        exact ⟨accepted_plain, ⟨halert hended.1 hended.2 hclaimed, hrollup⟩, hhealth⟩
    · simp [Call.statement, accepted_plain, hclaimed]
  · rw [if_neg hended]
    simp only [List.not_mem_nil, false_implies, implies_true, true_iff]
    exact fun htrigger hterminal => absurd ⟨htrigger, hterminal⟩ hended

/-- **When a save commits.** -/
theorem commits_save_iff {stored : List StepRunId} {changedSteps : List StepRecord}
    {changedEvents : List EventRecord} :
    commits (save floats answers stored run changedSteps changedEvents) = true ↔
      (runStatement run).Accepted ∧
        (∀ step ∈ changedSteps, (stepStatement step).Accepted ∧
          ∀ attempt ∈ step.attempts, (attemptStatement attempt).Accepted) ∧
        (∀ event ∈ changedEvents,
          (eventStatement (stored ++ changedSteps.map StepRecord.id) event).Accepted) ∧
        AlertFits answers run.triggerType run.status := by
  rw [commits_iff, save, List.forall_mem_append, List.forall_mem_append, List.forall_mem_cons]
  have hsteps : (∀ call ∈ changedSteps.flatMap (fun step =>
      Call.checked (stepStatement step) ::
        step.attempts.map fun attempt => Call.checked (attemptStatement attempt)),
      call.statement.Accepted) ↔
        ∀ step ∈ changedSteps, (stepStatement step).Accepted ∧
          ∀ attempt ∈ step.attempts, (attemptStatement attempt).Accepted := by
    simp only [List.forall_mem_flatMap, List.forall_mem_cons, List.forall_mem_map, Call.statement]
  have hevents : (∀ call ∈ changedEvents.map (fun event =>
      Call.checked (eventStatement (stored ++ changedSteps.map StepRecord.id) event)),
      call.statement.Accepted) ↔
        ∀ event ∈ changedEvents,
          (eventStatement (stored ++ changedSteps.map StepRecord.id) event).Accepted := by
    simp only [List.forall_mem_map, Call.statement]
  rw [hsteps, hevents]
  constructor
  · rintro ⟨⟨⟨hrun, hsteps⟩, hevents⟩, hterminal⟩
    exact ⟨hrun, hsteps, hevents, (accepted_terminalCalls hrun).mp hterminal⟩
  · rintro ⟨hrun, hsteps, hevents, halert⟩
    exact ⟨⟨⟨hrun, hsteps⟩, hevents⟩, (accepted_terminalCalls hrun).mpr halert⟩

end Commits

end Rhythm.Storage
