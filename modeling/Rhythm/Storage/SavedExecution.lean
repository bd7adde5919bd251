import Rhythm.Storage.SavedRun
import Rhythm.Transition

/-!
# Rhythm.Storage.SavedExecution

Do the saves of an execution commit?  `runWithSnapshot` fills the record of a run — events, steps,
the reason of a failure — and saves it after the start, the setup script, each step and the
end.  What the requests, the responses and the scripts of a step leave is an input.

The identifiers and names of steps, the texts that evidence is made of and the name of the
monitor reach columns whose limits no validator knows: `saves_commit_along` says which
of them have to fit.
-/

namespace Rhythm.Storage

open Runs Sql

/-! ## Definitions -/

/-- The members of a step that are stored with its runs. -/
structure StepDefinition where
  id : String
  name : String
  type : String
  deriving DecidableEq

def decodeStep : Json → Option StepDefinition
  | .obj step =>
    some
      { id := Monitors.text (Unmarshal.member step "id")
        name := Monitors.text (Unmarshal.member step "name")
        type := Monitors.text (Unmarshal.member step "type") }
  | _ => none

/-- A definition that was accepted. -/
structure AcceptedDefinition where
  lib : Monitors.Library
  definition : Monitors.Definition
  accepted : Monitors.validateDefinition lib definition = []

def AcceptedDefinition.steps (d : AcceptedDefinition) : List StepDefinition :=
  ((Unmarshal.member d.definition "steps").items?.getD []).filterMap decodeStep

theorem type_of_stepErrors {lib : Monitors.Library} {step : StepDefinition} {steps : List Json}
    {index : Nat} {seenIDs : List String} (h : Monitors.stepErrors lib index seenIDs steps = [])
    (hstep : step ∈ steps.filterMap decodeStep) :
    step.type ∈ ["HTTP_REQUEST", "ACTION", "METRIC_VALIDATION"] := by
  induction steps generalizing index seenIDs with
  | nil => exact absurd hstep List.not_mem_nil
  | cons item steps ih =>
    cases item with
    | obj fields =>
      rw [Monitors.stepErrors] at h
      simp only [List.append_eq_nil_iff] at h
      obtain ⟨⟨⟨-, htype⟩, -⟩, hrest⟩ := h
      have hdecode : decodeStep (.obj fields) =
          some ⟨Monitors.text (Unmarshal.member fields "id"),
            Monitors.text (Unmarshal.member fields "name"),
            Monitors.text (Unmarshal.member fields "type")⟩ := rfl
      rw [List.filterMap_cons_some hdecode] at hstep
      obtain rfl | hstep := List.mem_cons.mp hstep
      · by_contra hother
        rw [if_neg hother] at htype
        contradiction
      · exact ih hrest hstep
    | null | bool | num | str | arr =>
      rw [Monitors.stepErrors] at h
      · contradiction
      · simp

theorem AcceptedDefinition.type_mem (d : AcceptedDefinition) {step : StepDefinition}
    (hstep : step ∈ d.steps) : step.type ∈ ["HTTP_REQUEST", "ACTION", "METRIC_VALIDATION"] := by
  have haccepted := d.accepted
  rw [Monitors.validateDefinition] at haccepted
  rw [AcceptedDefinition.steps] at hstep
  split at haccepted
  · rename_i first steps hsteps
    rw [hsteps] at hstep
    exact type_of_stepErrors (List.append_eq_nil_iff.mp haccepted).2 hstep
  · contradiction

/-! ## Evidence -/

/-- `AuxiliaryRequest`, as far as its event tells it. -/
structure AuxiliaryRequest where
  source : String
  method : String
  url : String
  error : String
  success : Bool

/-- What a script leaves: its result, as it is stored, and the fields that are read again. -/
structure ScriptEvidence where
  result : Json
  succeeded : Bool
  errorCategory : String
  errorMessage : String
  auxiliaryRequests : List AuxiliaryRequest

/-- The target of `setNextRequest`, as it is and as `%q` quotes it in an error message. -/
structure Navigation where
  target : String
  quoted : String
  quoted_nulFree : NulFree quoted

/-- What the execution of a step leaves. -/
structure StepEvidence where
  stepRunID : StepRunId
  status : Status
  failureCategory : String
  errorMessage : String
  requestSummary : Json
  responseSummary : Json
  timing : Json
  tls : Json
  proxy : Json
  attempts : List AttemptRecord
  extractors : Json
  assertions : Json
  outputs : Json
  preRequestScript : Option ScriptEvidence
  testScript : Option ScriptEvidence
  /-- The events that say which scripts are there. -/
  hasPreRequestScript : Bool
  hasTestScript : Bool
  /-- Some extractor failed, if there is one. -/
  extractorsFailed : Option Bool
  assertionsFailed : Option Bool
  nextRequest : Option Navigation

def StepEvidence.record (evidence : StepEvidence) (step : StepDefinition) : StepRecord where
  id := evidence.stepRunID
  stepDefinitionId := step.id
  stepName := step.name
  stepType := step.type
  status := evidence.status
  requestSummary := evidence.requestSummary
  responseSummary := evidence.responseSummary
  timing := evidence.timing
  tls := evidence.tls
  proxy := evidence.proxy
  attempts := evidence.attempts
  extractors := evidence.extractors
  assertions := evidence.assertions
  outputs := evidence.outputs
  failureCategory := evidence.failureCategory
  errorMessage := evidence.errorMessage
  preRequestScript := (evidence.preRequestScript.map ScriptEvidence.result).getD .null
  testScript := (evidence.testScript.map ScriptEvidence.result).getD .null

/-! ## Events -/

/-- A map of texts; the numbers among the details of an event are left out. -/
def texts (entries : List (String × String)) : Json :=
  .obj (entries.map fun entry => (entry.1, .str entry.2))

/-- Makes an event: its type, its status, its message, its category and its details. -/
abbrev EventMaker := String → Status → String → String → Json → EventRecord

/-- `appendRunEvent`. -/
def runEvent : EventMaker := fun type status message category details =>
  { type := type
    status := status
    stepRunId := none
    stepId := ""
    category := category
    message := message
    details := details }

/-- `appendStepEvent`. -/
def stepEvent (step : StepRecord) : EventMaker := fun type status message category details =>
  { runEvent type status message category details with
    stepRunId := some step.id
    stepId := step.stepDefinitionId }

/-- `appendAuxiliaryRequestEvents`. -/
def auxiliaryEvents (event : EventMaker) (scope : String) (requests : List AuxiliaryRequest) :
    List EventRecord :=
  requests.zipIdx.map fun (request, index) =>
    let failed := request.success = false ∨ request.error ≠ ""
    event "AUXILIARY_REQUEST_COMPLETED" (if failed then .failed else .success)
      ("Pre-request pm.sendRequest #" ++ toString (index + 1) ++
        if failed then " failed." else " completed.")
      (if failed then "AUXILIARY_REQUEST_FAILURE" else "")
      (texts ([("scope", scope), ("source", request.source), ("method", request.method),
        ("url", request.url)] ++ if request.error ≠ "" then [("error", request.error)] else []))

def scriptEvents (event : EventMaker) (type message scope : String) (status : Status)
    (script : ScriptEvidence) : List EventRecord :=
  event (type ++ if script.succeeded then "_COMPLETED" else "_FAILED") status
      (message ++ if script.succeeded then " completed." else " failed.") script.errorCategory
      (texts [("scope", scope)]) ::
    auxiliaryEvents event scope script.auxiliaryRequests

def startedEvents (step : StepDefinition) (evidence : StepEvidence) : List EventRecord :=
  runEvent "STEP_STARTED" .running "Step started." ""
      (texts [("stepId", step.id), ("stepName", step.name), ("stepType", step.type)]) ::
    ((if evidence.hasPreRequestScript then
      [runEvent "PRE_REQUEST_SCRIPT_STARTED" .running "Request pre-request script started." ""
        (texts [("scope", "request"), ("stepId", step.id), ("runtimeVersion", "rhythm-js-2")])]
    else []) ++
    if evidence.hasTestScript then
      [runEvent "TEST_SCRIPT_STARTED" .running "Response Tests script scheduled." ""
        (texts [("scope", "test"), ("stepId", step.id), ("runtimeVersion", "rhythm-js-2")])]
    else [])

def evaluatedEvents (event : EventMaker) (type : String) (status : Status)
    (message category : String) (failed : Option Bool) : List EventRecord :=
  failed.toList.map fun failed => event type status message (if failed then category else "")
    (.obj [])

def endedEvents (step : StepDefinition) (evidence : StepEvidence) : List EventRecord :=
  let event := stepEvent (evidence.record step)
  (evidence.preRequestScript.toList.flatMap
    (scriptEvents event "PRE_REQUEST_SCRIPT" "Request pre-request script" "request"
      evidence.status)) ++
  (evidence.testScript.toList.flatMap
    (scriptEvents event "TEST_SCRIPT" "Response Tests script" "test" evidence.status)) ++
  (if step.type = "HTTP_REQUEST" then
    [event "REQUEST_COMPLETED" evidence.status "HTTP request completed." evidence.failureCategory
      (.obj [])] else []) ++
  (evidence.attempts.map fun attempt =>
    event "ATTEMPT_COMPLETED" attempt.status "Request attempt completed." attempt.failureCategory
      (.obj [])) ++
  evaluatedEvents event "EXTRACTORS_EVALUATED" evidence.status "Response extractors evaluated."
    "EXTRACTOR_FAILURE" evidence.extractorsFailed ++
  evaluatedEvents event "ASSERTIONS_EVALUATED" evidence.status "Success criteria evaluated."
    "ASSERTION_FAILURE" evidence.assertionsFailed ++
  [runEvent "STEP_COMPLETED" evidence.status "Step completed." evidence.failureCategory
    (texts [("stepId", step.id), ("stepName", step.name)])]

/-! ## Executions -/

/-- How far an execution is: it prepares its values, then takes its steps. -/
inductive Phase where
  | idle | preparing | stepping | ended
  deriving DecidableEq

/-- An execution: the record of its run, how much of it is stored, and how its saves went. -/
structure Execution where
  run : RunRecord
  persistedSteps : Nat
  persistedEvents : Nat
  /-- The step rows of the database. -/
  stored : List StepRunId
  phase : Phase
  saves : List Bool

/-- Before the start; `stored` are the step rows of other executions. -/
def Execution.idle (stored : List StepRunId) : Execution where
  run :=
    { status := .queued
      triggerType := ""
      triggerSource := ""
      failureCategory := ""
      failureReason := ""
      failedStepId := ""
      executionContext := .null
      alertImpact := .null
      events := []
      steps := []
      setupScript := .null }
  persistedSteps := 0
  persistedEvents := 0
  stored := stored
  phase := .idle
  saves := []

/-- `saveProgress`. -/
def Execution.saveProgress (floats : Alerts.Investigation.FloatFormat) (answers : SaveAnswers)
    (s : Execution) : Execution :=
  let changedSteps := s.run.steps.drop s.persistedSteps
  if commits (save floats answers s.stored s.run changedSteps
      (s.run.events.drop s.persistedEvents)) then
    { s with
      persistedSteps := s.run.steps.length
      persistedEvents := s.run.events.length
      stored := s.stored ++ changedSteps.map StepRecord.id
      saves := s.saves ++ [true] }
  else { s with saves := s.saves ++ [false] }

def Execution.saved (s : Execution) : Bool := s.saves.getLast? = some true

def RunRecord.add (run : RunRecord) (events : List EventRecord) : RunRecord :=
  { run with events := run.events ++ events }

def RunRecord.fail (run : RunRecord) (status : Status) (category reason stepID : String) :
    RunRecord :=
  { run with
    status := status
    failureCategory := category
    failureReason := reason
    failedStepId := stepID }

/-- What a run is started with. -/
structure ExecutionInput where
  monitorName : String
  environmentID : String
  revisionID : String
  agentID : String
  triggerType : String
  triggerSource : String
  queued : Bool

def ExecutionInput.run (input : ExecutionInput) : RunRecord where
  status := .running
  triggerType := input.triggerType
  triggerSource := input.triggerSource
  failureCategory := ""
  failureReason := ""
  failedStepId := ""
  executionContext := texts
    [("monitorName", input.monitorName), ("environmentId", input.environmentID),
      ("revisionId", input.revisionID), ("agentId", input.agentID),
      ("triggerType", input.triggerType), ("triggerSource", input.triggerSource),
      ("scriptRuntimeVersion", "rhythm-js-2")]
  alertImpact := .null
  events :=
    (if input.queued then
      [runEvent "RUN_QUEUED" .queued "Run accepted and queued for execution." "" (.obj [])]
    else []) ++ [runEvent "RUN_STARTED" .running "Execution started." "" (.obj [])]
  steps := []
  setupScript := .null

/-- Why an execution fails before its first step. -/
inductive Preparation where
  | environment | secrets

def Preparation.category : Preparation → String
  | environment => "ENVIRONMENT_RESOLUTION_FAILED"
  | secrets => "SECRET_RESOLUTION_FAILED"

def Preparation.reason : Preparation → String
  | environment =>
    "The selected environment could not be loaded. Check that it is active and its secret " ++
      "references are valid."
  | secrets =>
    "A referenced secret could not be resolved. Check the alias and secret profile state."

/-- How the loop over the steps ends. -/
inductive Ending where
  | completed | limitExceeded | cancelled

def Ending.run (ending : Ending) (run : RunRecord) : RunRecord :=
  if run.status ≠ .running then run
  else
    match ending with
    | completed => { run with status := .success }
    | limitExceeded =>
      { run with
        status := .failed
        failureCategory := "SCRIPT_POLICY_VIOLATION"
        failureReason := "Workflow navigation exceeded the 100-step execution limit." }
    | cancelled =>
      { run with
        status := .cancelled
        failureCategory := "RUN_CANCELLED"
        failureReason := "Execution was cancelled before the next step started." }

def RunRecord.unprepared (run : RunRecord) (failure : Preparation) : RunRecord :=
  (run.fail .failed failure.category failure.reason run.failedStepId).add
    [runEvent "RUN_FAILED" .failed failure.reason failure.category (.obj [])]

def RunRecord.completed (run : RunRecord) : RunRecord :=
  run.add [runEvent "RUN_COMPLETED" run.status "Execution reached a terminal state."
    run.failureCategory (texts [("status", statusText run.status)])]

inductive ExecutionAction where
  | start (input : ExecutionInput) (answers : SaveAnswers)
  /-- The environment is loaded; what is told of it is stored already. -/
  | environment (context : { v : Json // v.NulFree })
  | prepareFails (failure : Preparation) (answers : SaveAnswers)
  | setup (script : ScriptEvidence) (answers : SaveAnswers)
  | step (step : StepDefinition) (evidence : StepEvidence) (answers : SaveAnswers)
  | finish (ending : Ending) (answers : SaveAnswers)

/-- The record of a run whose context tells the environment. -/
def RunRecord.withEnvironment (run : RunRecord) (context : Json) : RunRecord :=
  match run.executionContext with
  | .obj fields =>
    { run with executionContext := .obj (Unmarshal.setKey fields "environment" context) }
  | _ => run

def RunRecord.afterSetup (run : RunRecord) (script : ScriptEvidence) : RunRecord :=
  let run := run.add [runEvent "PRE_REQUEST_SCRIPT_STARTED" .running
    "Monitor setup script started." ""
    (texts [("scope", "monitor"), ("runtimeVersion", "rhythm-js-2")])]
  let run :=
    if script.succeeded then run
    else run.fail .failed script.errorCategory script.errorMessage run.failedStepId
  { run with setupScript := script.result }.add
    (scriptEvents runEvent "PRE_REQUEST_SCRIPT" "Monitor setup script" "monitor"
      (if script.succeeded then .success else .failed) script)

def RunRecord.afterStep (run : RunRecord) (step : StepDefinition) (evidence : StepEvidence) :
    RunRecord :=
  { run.add (startedEvents step evidence ++ endedEvents step evidence) with
    steps := run.steps ++ [evidence.record step] }

def RunRecord.stop (run : RunRecord) (step : StepDefinition) (evidence : StepEvidence) :
    RunRecord :=
  if evidence.status = .cancelled then
    run.fail .cancelled "RUN_CANCELLED" "Execution was cancelled." step.id
  else run.fail evidence.status evidence.failureCategory evidence.errorMessage step.id

/-- The record after a navigation; an empty target ends the loop. -/
def RunRecord.navigate (run : RunRecord) (steps : List StepDefinition) (step : StepDefinition)
    (evidence : StepEvidence) (next : Navigation) : RunRecord :=
  let run := run.add [stepEvent (evidence.record step) "SCRIPT_WORKFLOW_NAVIGATION" evidence.status
    "JavaScript selected the next workflow step." "" (texts [("nextRequest", next.target)])]
  if next.target = "" ∨ ∃ other ∈ steps, other.id = next.target ∨ other.name = next.target then run
  else
    run.fail .failed "SCRIPT_POLICY_VIOLATION"
      ("pm.execution.setNextRequest target " ++ next.quoted ++ " was not found.") step.id

/-- **One action of an execution** of the steps.  A failed save stops it, but the save after the
setup script ignores that. -/
def executionStep (floats : Alerts.Investigation.FloatFormat) (steps : List StepDefinition)
    (s : Execution) : ExecutionAction → Option Execution
  | .start input answers =>
    if s.phase = .idle then
      let s' := { s with run := input.run, phase := .preparing }.saveProgress floats answers
      some (if s'.saved then s' else { s' with phase := .ended })
    else none
  | .environment context =>
    if s.phase = .preparing then some { s with run := s.run.withEnvironment context } else none
  | .prepareFails failure answers =>
    if s.phase = .preparing then
      some ({ s with run := s.run.unprepared failure, phase := .ended }.saveProgress floats answers)
    else none
  | .setup script answers =>
    if s.phase = .preparing then
      some ({ s with run := s.run.afterSetup script, phase := .stepping }.saveProgress floats
        answers)
    else none
  | .step step evidence answers =>
    if (s.phase = .preparing ∨ s.phase = .stepping) ∧ s.run.status = .running ∧ step ∈ steps then
      let s' := { s with run := s.run.afterStep step evidence, phase := .stepping }
      if evidence.status = .success ∨ evidence.status = .skippedCondition then
        let s' := s'.saveProgress floats answers
        if s'.saved then
          match evidence.nextRequest with
          | none => some s'
          | some next => some { s' with run := s'.run.navigate steps step evidence next }
        else some { s' with phase := .ended }
      else some { s' with run := s'.run.stop step evidence }
    else none
  | .finish ending answers =>
    if s.phase = .preparing ∨ s.phase = .stepping then
      some ({ s with run := (ending.run s.run).completed, phase := .ended }.saveProgress floats
        answers)
    else none

/-! ## What has to fit -/

/-- A text that a column takes. -/
abbrev Fits (limit : Nat) (s : String) : Prop := (ColumnType.varchar limit).Takes (.text s)

def AuxiliaryRequest.Fits (request : AuxiliaryRequest) : Prop :=
  ∀ text ∈ [request.source, request.method, request.url, request.error], NulFree text

structure ScriptEvidence.Fits (script : ScriptEvidence) : Prop where
  result : script.result.NulFree
  errorCategory : Storage.Fits 100 script.errorCategory
  errorMessage : NulFree script.errorMessage
  auxiliaryRequests : ∀ request ∈ script.auxiliaryRequests, request.Fits

structure AttemptRecord.Fits (attempt : AttemptRecord) : Prop where
  failureCategory : Storage.Fits 100 attempt.failureCategory
  errorMessage : NulFree attempt.errorMessage
  documents : ∀ document ∈ [attempt.requestSummary, attempt.responseSummary, attempt.timing,
    attempt.tls, attempt.proxy, attempt.redirects], document.NulFree

/-- The type fits when the definition is accepted. -/
structure StepDefinition.Fits (step : StepDefinition) : Prop where
  id : Storage.Fits 255 step.id
  name : Storage.Fits 255 step.name

structure StepEvidence.Fits (evidence : StepEvidence) : Prop where
  failureCategory : Storage.Fits 100 evidence.failureCategory
  errorMessage : NulFree evidence.errorMessage
  documents : ∀ document ∈ [evidence.requestSummary, evidence.responseSummary, evidence.timing,
    evidence.tls, evidence.proxy, evidence.extractors, evidence.assertions, evidence.outputs],
    document.NulFree
  attempts : ∀ attempt ∈ evidence.attempts, attempt.Fits
  preRequestScript : ∀ script ∈ evidence.preRequestScript, script.Fits
  testScript : ∀ script ∈ evidence.testScript, script.Fits
  nextRequest : ∀ next ∈ evidence.nextRequest, NulFree next.target

structure ExecutionInput.Fits (input : ExecutionInput) : Prop where
  triggerType : Storage.Fits 50 input.triggerType
  triggerSource : Storage.Fits 255 input.triggerSource
  context : ∀ text ∈ [input.monitorName, input.environmentID, input.revisionID, input.agentID],
    NulFree text

/-- **The condition on an action.**  The texts that it brings fit their columns; and if it ends the
run, the name of the monitor leaves room for the title of an alert. -/
def ActionFits (s : Execution) (a : ExecutionAction) (_ : Execution) : Prop :=
  match a with
  | .start input _ => input.Fits
  | .environment _ => True
  | .prepareFails _ answers => AlertFits answers s.run.triggerType .failed
  | .setup script answers =>
    script.Fits ∧
      AlertFits answers s.run.triggerType (if script.succeeded then s.run.status else .failed)
  | .step step evidence _ => step.Fits ∧ evidence.Fits
  | .finish ending answers => AlertFits answers s.run.triggerType (ending.run s.run).status

/-- **The law of saves.**  Every save of the execution so far was committed. -/
def SavesCommit (s : Execution) : Prop := ∀ committed ∈ s.saves, committed = true

/-! ## Events that fit -/

section Events

variable {known known' : List StepRunId} {event : EventMaker}

theorem nulFree_texts {entries : List (String × String)} :
    (texts entries).NulFree ↔ ∀ entry ∈ entries, NulFree entry.1 ∧ NulFree entry.2 := by
  rw [texts, Json.nulFree_obj, List.forall_mem_map]
  simp only [Json.nulFree_str]

theorem nulFree_toString (n : Nat) : NulFree (toString n) := by
  intro hmem
  have hdigit := Nat.isDigit_of_mem_toDigits (b := 10) (by decide) (by decide)
    (Nat.toList_repr (n := n) ▸ hmem)
  exact absurd hdigit (by decide)

def EventMaker.Sound (known : List StepRunId) (event : EventMaker) : Prop :=
  ∀ type status message category details, Fits 100 type → NulFree message → Fits 100 category →
    details.NulFree → (eventStatement known (event type status message category details)).Accepted

theorem accepted_mono (hknown : ∀ id ∈ known, id ∈ known') {event : EventRecord}
    (h : (eventStatement known event).Accepted) : (eventStatement known' event).Accepted := by
  obtain ⟨hstep, hcolumns⟩ := h
  refine ⟨decide_eq_true ?_, hcolumns⟩
  exact fun id hid => hknown id (of_decide_eq_true hstep id hid)

theorem sound_runEvent : EventMaker.Sound known runEvent := by
  intro type status message category details htype hmessage hcategory hdetails
  refine ⟨by simp [eventStatement, runEvent], ?_⟩
  simp only [eventStatement, runEvent, List.forall_mem_cons]
  exact ⟨htype, Alerts.Investigation.takes_nullIfEmpty (takes_statusText status), trivial,
    Alerts.Investigation.takes_nullIfEmpty hcategory, hmessage, hdetails, List.forall_mem_nil _⟩

theorem sound_stepEvent {step : StepRecord} (hid : step.id ∈ known)
    (hstep : Fits 255 step.stepDefinitionId) : EventMaker.Sound known (stepEvent step) := by
  intro type status message category details htype hmessage hcategory hdetails
  refine ⟨by simpa [eventStatement, stepEvent] using hid, ?_⟩
  simp only [eventStatement, stepEvent, runEvent, List.forall_mem_cons]
  exact ⟨htype, Alerts.Investigation.takes_nullIfEmpty (takes_statusText status),
    Alerts.Investigation.takes_nullIfEmpty hstep,
    Alerts.Investigation.takes_nullIfEmpty hcategory, hmessage, hdetails, List.forall_mem_nil _⟩

theorem accepted_auxiliaryEvents (hevent : event.Sound known) {scope : String}
    (hscope : NulFree scope) {requests : List AuxiliaryRequest}
    (hrequests : ∀ request ∈ requests, request.Fits) :
    ∀ e ∈ auxiliaryEvents event scope requests, (eventStatement known e).Accepted := by
  intro e he
  obtain ⟨⟨request, index⟩, hrequest, rfl⟩ := List.mem_map.mp he
  have hfits := hrequests request (List.fst_mem_of_mem_zipIdx hrequest)
  simp only [AuxiliaryRequest.Fits, List.forall_mem_cons] at hfits
  obtain ⟨hsource, hmethod, hurl, herror, -⟩ := hfits
  refine hevent _ _ _ _ _ (by decide) ?_ ?_ ?_
  · rw [nulFree_append, nulFree_append]
    refine ⟨⟨by decide, nulFree_toString _⟩, ?_⟩
    split <;> decide
  · split <;> decide
  · rw [nulFree_texts, List.forall_mem_append]
    refine ⟨?_, ?_⟩
    · simp only [List.forall_mem_cons]
      exact ⟨⟨by decide, hscope⟩, ⟨by decide, hsource⟩, ⟨by decide, hmethod⟩, ⟨by decide, hurl⟩,
        List.forall_mem_nil _⟩
    · split
      · exact List.forall_mem_singleton.mpr ⟨(by decide : NulFree "error"), herror⟩
      · exact List.forall_mem_nil _

/-- The types and messages of the scripts. -/
structure ScriptTexts (type message scope : String) : Prop where
  completed : Fits 100 (type ++ "_COMPLETED")
  failed : Fits 100 (type ++ "_FAILED")
  message : NulFree message
  scope : NulFree scope

theorem accepted_scriptEvents (hevent : event.Sound known) {type message scope : String}
    (htexts : ScriptTexts type message scope) {status : Status} {script : ScriptEvidence}
    (hscript : script.Fits) :
    ∀ e ∈ scriptEvents event type message scope status script,
      (eventStatement known e).Accepted := by
  rw [scriptEvents, List.forall_mem_cons]
  refine ⟨hevent _ _ _ _ _ ?_ ?_ hscript.errorCategory ?_, ?_⟩
  · split
    · exact htexts.completed
    · exact htexts.failed
  · rw [nulFree_append]
    refine ⟨htexts.message, ?_⟩
    split <;> decide
  · exact nulFree_texts.mpr (List.forall_mem_singleton.mpr
      ⟨(by decide : NulFree "scope"), htexts.scope⟩)
  · exact accepted_auxiliaryEvents hevent htexts.scope hscript.auxiliaryRequests

theorem accepted_startedEvents {step : StepDefinition} (hstep : step.Fits)
    (htype : NulFree step.type) (evidence : StepEvidence) :
    ∀ e ∈ startedEvents step evidence, (eventStatement known e).Accepted := by
  have hid := hstep.id.2
  have hname := hstep.name.2
  rw [startedEvents, List.forall_mem_cons, List.forall_mem_append]
  refine ⟨sound_runEvent _ _ _ _ _ (by decide) (by decide) (by decide) ?_, ?_, ?_⟩
  · rw [nulFree_texts]
    simp only [List.forall_mem_cons]
    exact ⟨⟨by decide, hid⟩, ⟨by decide, hname⟩, ⟨by decide, htype⟩, List.forall_mem_nil _⟩
  · split
    · rw [List.forall_mem_singleton]
      refine sound_runEvent _ _ _ _ _ (by decide) (by decide) (by decide) ?_
      rw [nulFree_texts]
      simp only [List.forall_mem_cons]
      exact ⟨by decide, ⟨by decide, hid⟩, by decide, List.forall_mem_nil _⟩
    · exact List.forall_mem_nil _
  · split
    · rw [List.forall_mem_singleton]
      refine sound_runEvent _ _ _ _ _ (by decide) (by decide) (by decide) ?_
      rw [nulFree_texts]
      simp only [List.forall_mem_cons]
      exact ⟨by decide, ⟨by decide, hid⟩, by decide, List.forall_mem_nil _⟩
    · exact List.forall_mem_nil _

theorem accepted_evaluatedEvents (hevent : event.Sound known) {type message category : String}
    (htype : Fits 100 type) (hmessage : NulFree message) (hcategory : Fits 100 category)
    (status : Status) (failed : Option Bool) :
    ∀ e ∈ evaluatedEvents event type status message category failed,
      (eventStatement known e).Accepted := by
  intro e he
  obtain ⟨failed, -, rfl⟩ := List.mem_map.mp he
  refine hevent _ _ _ _ _ htype hmessage ?_ (by simp)
  split
  · exact hcategory
  · decide

theorem accepted_endedEvents {step : StepDefinition} {evidence : StepEvidence}
    (hstep : step.Fits) (hevidence : evidence.Fits) (hid : evidence.stepRunID ∈ known) :
    ∀ e ∈ endedEvents step evidence, (eventStatement known e).Accepted := by
  have hevent : (stepEvent (evidence.record step)).Sound known := sound_stepEvent hid hstep.id
  have hempty : (Json.obj []).NulFree := by simp
  simp only [endedEvents, List.forall_mem_append]
  refine ⟨⟨⟨⟨⟨⟨?_, ?_⟩, ?_⟩, ?_⟩, ?_⟩, ?_⟩, ?_⟩
  · intro e he
    obtain ⟨script, hscript, he⟩ := List.mem_flatMap.mp he
    have hfits := hevidence.preRequestScript script (Option.mem_toList.mp hscript)
    exact accepted_scriptEvents hevent ⟨by decide, by decide, by decide, by decide⟩ hfits e he
  · intro e he
    obtain ⟨script, hscript, he⟩ := List.mem_flatMap.mp he
    have hfits := hevidence.testScript script (Option.mem_toList.mp hscript)
    exact accepted_scriptEvents hevent ⟨by decide, by decide, by decide, by decide⟩ hfits e he
  · split
    · rw [List.forall_mem_singleton]
      exact hevent _ _ _ _ _ (by decide) (by decide) hevidence.failureCategory hempty
    · exact List.forall_mem_nil _
  · intro e he
    obtain ⟨attempt, hattempt, rfl⟩ := List.mem_map.mp he
    exact hevent _ _ _ _ _ (by decide) (by decide)
      (hevidence.attempts attempt hattempt).failureCategory hempty
  · exact accepted_evaluatedEvents hevent (by decide) (by decide) (by decide) _ _
  · exact accepted_evaluatedEvents hevent (by decide) (by decide) (by decide) _ _
  · rw [List.forall_mem_singleton]
    refine sound_runEvent _ _ _ _ _ (by decide) (by decide) hevidence.failureCategory ?_
    rw [nulFree_texts]
    simp only [List.forall_mem_cons]
    exact ⟨⟨by decide, hstep.id.2⟩, ⟨by decide, hstep.name.2⟩, List.forall_mem_nil _⟩

end Events

/-! ## Records that fit -/

/-- Every text of the record fits its column. -/
structure RunRecord.Sound (run : RunRecord) : Prop where
  status : run.status ≠ .skippedCondition
  triggerType : Fits 50 run.triggerType
  triggerSource : Fits 255 run.triggerSource
  failureCategory : Fits 100 run.failureCategory
  failureReason : NulFree run.failureReason
  failedStepId : Fits 255 run.failedStepId
  executionContext : run.executionContext.NulFree
  alertImpact : run.alertImpact.NulFree
  setupScript : run.setupScript.NulFree
  steps : ∀ step ∈ run.steps, (stepStatement step).Accepted ∧
    ∀ attempt ∈ step.attempts, (attemptStatement attempt).Accepted
  events : ∀ event ∈ run.events, (eventStatement (run.steps.map StepRecord.id) event).Accepted

section Records

open Alerts.Investigation (takes_nullIfEmpty)

variable {run : RunRecord}

theorem RunRecord.Sound.accepted (h : run.Sound) : (runStatement run).Accepted := by
  refine ⟨decide_eq_true h.status, ?_⟩
  simp only [runStatement, List.forall_mem_cons]
  exact ⟨takes_statusText run.status, h.triggerType, takes_nullIfEmpty h.triggerSource,
    takes_nullIfEmpty h.failureCategory, takes_nullIfEmpty h.failureReason,
    takes_nullIfEmpty h.failedStepId, h.executionContext, h.alertImpact, h.setupScript,
    List.forall_mem_nil _⟩

theorem RunRecord.Sound.add (h : run.Sound) {events : List EventRecord}
    (hevents : ∀ event ∈ events, (eventStatement (run.steps.map StepRecord.id) event).Accepted) :
    (run.add events).Sound :=
  { h with
    events := by
      intro event hevent
      obtain hevent | hevent := List.mem_append.mp hevent
      · exact h.events event hevent
      · exact hevents event hevent }

theorem RunRecord.Sound.fail (h : run.Sound) (status : Status) {category reason stepID : String}
    (hstatus : status ≠ .skippedCondition) (hcategory : Fits 100 category)
    (hreason : NulFree reason) (hstep : Fits 255 stepID) :
    (run.fail status category reason stepID).Sound :=
  { h with
    status := hstatus
    failureCategory := hcategory
    failureReason := hreason
    failedStepId := hstep }

theorem RunRecord.Sound.withSetup (h : run.Sound) {result : Json} (hresult : result.NulFree) :
    { run with setupScript := result }.Sound :=
  { h with setupScript := hresult }

theorem sound_input {input : ExecutionInput} (h : input.Fits) : input.run.Sound where
  status := by simp [ExecutionInput.run]
  triggerType := h.triggerType
  triggerSource := h.triggerSource
  failureCategory := (by decide : Fits 100 "")
  failureReason := (by decide : NulFree "")
  failedStepId := (by decide : Fits 255 "")
  executionContext := by
    have hcontext := h.context
    simp only [List.forall_mem_cons] at hcontext
    obtain ⟨hname, henvironment, hrevision, hagent, -⟩ := hcontext
    rw [ExecutionInput.run, nulFree_texts]
    simp only [List.forall_mem_cons]
    exact ⟨⟨by decide, hname⟩, ⟨by decide, henvironment⟩, ⟨by decide, hrevision⟩,
      ⟨by decide, hagent⟩, ⟨by decide, h.triggerType.2⟩, ⟨by decide, h.triggerSource.2⟩,
      by decide, List.forall_mem_nil _⟩
  alertImpact := Json.nulFree_null
  setupScript := Json.nulFree_null
  steps := List.forall_mem_nil _
  events := by
    have hempty : (Json.obj []).NulFree := by simp
    rw [ExecutionInput.run, List.forall_mem_append, List.forall_mem_singleton]
    refine ⟨?_, sound_runEvent _ _ _ _ _ (by decide) (by decide) (by decide) hempty⟩
    split
    · rw [List.forall_mem_singleton]
      exact sound_runEvent _ _ _ _ _ (by decide) (by decide) (by decide) hempty
    · exact List.forall_mem_nil _

theorem RunRecord.Sound.withEnvironment (h : run.Sound) {context : Json}
    (hcontext : context.NulFree) : (run.withEnvironment context).Sound := by
  unfold RunRecord.withEnvironment
  split
  · rename_i fields hfields
    have hold := h.executionContext
    rw [hfields, Json.nulFree_obj] at hold
    refine { h with executionContext := Json.nulFree_obj.mpr fun field hfield => ?_ }
    obtain rfl | hfield := Unmarshal.mem_setKey hfield
    · exact ⟨(by decide : NulFree "environment"), hcontext⟩
    · exact hold field hfield
  · exact h

theorem RunRecord.Sound.unprepared (h : run.Sound) (failure : Preparation) :
    (run.unprepared failure).Sound := by
  have hcategory : Fits 100 failure.category := by cases failure <;> decide
  have hreason : NulFree failure.reason := by cases failure <;> decide
  refine (h.fail .failed (by simp) hcategory hreason h.failedStepId).add ?_
  rw [List.forall_mem_singleton]
  exact sound_runEvent _ _ _ _ _ (by decide) hreason hcategory (by simp)

theorem RunRecord.Sound.completed (h : run.Sound) : run.completed.Sound := by
  refine h.add ?_
  rw [List.forall_mem_singleton]
  refine sound_runEvent _ _ _ _ _ (by decide) (by decide) h.failureCategory ?_
  rw [nulFree_texts, List.forall_mem_singleton]
  exact ⟨(by decide : NulFree "status"), (takes_statusText run.status).2⟩

theorem RunRecord.Sound.afterSetup (h : run.Sound) {script : ScriptEvidence}
    (hscript : script.Fits) : (run.afterSetup script).Sound := by
  have hstarted : (run.add [runEvent "PRE_REQUEST_SCRIPT_STARTED" .running
      "Monitor setup script started." ""
      (texts [("scope", "monitor"), ("runtimeVersion", "rhythm-js-2")])]).Sound := by
    refine h.add ?_
    rw [List.forall_mem_singleton]
    exact sound_runEvent _ _ _ _ _ (by decide) (by decide) (by decide)
      (nulFree_texts.mpr (by decide))
  unfold RunRecord.afterSetup
  split
  · refine (hstarted.withSetup hscript.result).add ?_
    exact accepted_scriptEvents sound_runEvent ⟨by decide, by decide, by decide, by decide⟩ hscript
  · have hfailed := hstarted.fail .failed (by simp) hscript.errorCategory
      hscript.errorMessage h.failedStepId
    refine (hfailed.withSetup hscript.result).add ?_
    exact accepted_scriptEvents sound_runEvent ⟨by decide, by decide, by decide, by decide⟩ hscript

variable {evidence : StepEvidence} {step : StepDefinition}

theorem accepted_record (hstep : step.Fits)
    (htype : Fits 100 step.type) (hevidence : evidence.Fits) :
    (stepStatement (evidence.record step)).Accepted ∧
      ∀ attempt ∈ (evidence.record step).attempts, (attemptStatement attempt).Accepted := by
  have hscript : ∀ {script : Option ScriptEvidence}, (∀ s ∈ script, s.Fits) →
      ((script.map ScriptEvidence.result).getD .null).NulFree := by
    intro script hfits
    cases script with
    | none => exact Json.nulFree_null
    | some script => exact (hfits script rfl).result
  constructor
  · have hdocuments := hevidence.documents
    simp only [List.forall_mem_cons] at hdocuments
    obtain ⟨hrequest, hresponse, htiming, htls, hproxy, hextractors, hassertions, houtputs, -⟩ :=
      hdocuments
    refine ⟨rfl, ?_⟩
    simp only [stepStatement, StepEvidence.record, List.forall_mem_cons]
    exact ⟨hstep.id, hstep.name, htype, takes_statusText evidence.status, hrequest, hresponse,
      htiming, htls, hproxy, hextractors, hassertions, houtputs,
      takes_nullIfEmpty hevidence.failureCategory, takes_nullIfEmpty hevidence.errorMessage,
      hscript hevidence.preRequestScript, hscript hevidence.testScript, List.forall_mem_nil _⟩
  · intro attempt hattempt
    have hfits := hevidence.attempts attempt hattempt
    have hdocuments := hfits.documents
    simp only [List.forall_mem_cons] at hdocuments
    obtain ⟨hrequest, hresponse, htiming, htls, hproxy, hredirects, -⟩ := hdocuments
    refine ⟨rfl, ?_⟩
    simp only [attemptStatement, List.forall_mem_cons]
    exact ⟨takes_statusText attempt.status, takes_nullIfEmpty hfits.failureCategory,
      takes_nullIfEmpty hfits.errorMessage, hrequest, hresponse, htiming, htls, hproxy, hredirects,
      List.forall_mem_nil _⟩

theorem RunRecord.Sound.afterStep (h : run.Sound) (hstep : step.Fits) (htype : Fits 100 step.type)
    (hevidence : evidence.Fits) : (run.afterStep step evidence).Sound := by
  have hknown : ∀ id ∈ run.steps.map StepRecord.id,
      id ∈ (run.steps ++ [evidence.record step]).map StepRecord.id := by
    intro id hid
    rw [List.map_append]
    exact List.mem_append_left _ hid
  refine { h with steps := ?_, events := ?_ }
  · rw [RunRecord.afterStep, List.forall_mem_append, List.forall_mem_singleton]
    exact ⟨h.steps, accepted_record hstep htype hevidence⟩
  · simp only [RunRecord.afterStep, RunRecord.add, List.forall_mem_append]
    refine ⟨fun event hevent => accepted_mono hknown (h.events event hevent), ?_, ?_⟩
    · exact accepted_startedEvents hstep htype.2 evidence
    · exact accepted_endedEvents hstep hevidence (by simp [StepEvidence.record])

theorem RunRecord.Sound.stop (h : run.Sound) (hstep : step.Fits) (hevidence : evidence.Fits)
    (hstatus : evidence.status ≠ .skippedCondition) :
    (run.stop step evidence).Sound := by
  unfold RunRecord.stop
  split
  · exact h.fail .cancelled (by simp) (by decide) (by decide) hstep.id
  · exact h.fail _ hstatus hevidence.failureCategory hevidence.errorMessage hstep.id

theorem RunRecord.Sound.navigate (h : run.Sound) {steps : List StepDefinition}
    {next : Navigation} (hstep : step.Fits)
    (hid : evidence.stepRunID ∈ run.steps.map StepRecord.id) (hnext : NulFree next.target) :
    (run.navigate steps step evidence next).Sound := by
  have hadded : (run.add [stepEvent (evidence.record step) "SCRIPT_WORKFLOW_NAVIGATION"
      evidence.status "JavaScript selected the next workflow step." ""
      (texts [("nextRequest", next.target)])]).Sound := by
    refine h.add ?_
    rw [List.forall_mem_singleton]
    refine sound_stepEvent hid hstep.id _ _ _ _ _ (by decide) (by decide) (by decide) ?_
    rw [nulFree_texts, List.forall_mem_singleton]
    exact ⟨(by decide : NulFree "nextRequest"), hnext⟩
  unfold RunRecord.navigate
  split
  · exact hadded
  · refine hadded.fail .failed (by simp) (by decide) ?_ hstep.id
    rw [nulFree_append, nulFree_append]
    exact ⟨⟨by decide, next.quoted_nulFree⟩, by decide⟩

theorem RunRecord.Sound.ending (h : run.Sound) (ending : Ending) : (ending.run run).Sound := by
  unfold Ending.run
  split
  · exact h
  · cases ending with
    | completed => exact { h with status := by simp }
    | limitExceeded =>
      exact { h with
        status := by simp
        failureCategory := (by decide : Fits 100 "SCRIPT_POLICY_VIOLATION")
        failureReason :=
          (by decide : NulFree "Workflow navigation exceeded the 100-step execution limit.") }
    | cancelled =>
      exact { h with
        status := by simp
        failureCategory := (by decide : Fits 100 "RUN_CANCELLED")
        failureReason :=
          (by decide : NulFree "Execution was cancelled before the next step started.") }

end Records

/-! ## Executions whose saves commit -/

/-- Everything the execution may save is taken, and everything it counts as saved is stored. -/
structure Execution.Sound (s : Execution) : Prop where
  run : s.run.Sound
  idle : s.phase = .idle → s.run.steps = [] ∧ s.persistedSteps = 0
  persisted : s.persistedSteps ≤ s.run.steps.length
  stored : ∀ step ∈ s.run.steps.take s.persistedSteps, step.id ∈ s.stored
  saves : SavesCommit s

section Executions

variable {floats : Alerts.Investigation.FloatFormat} {answers : SaveAnswers} {s s' : Execution}

theorem sound_idle (stored : List StepRunId) : (Execution.idle stored).Sound where
  run :=
    { status := by simp [Execution.idle]
      triggerType := (by decide : Fits 50 "")
      triggerSource := (by decide : Fits 255 "")
      failureCategory := (by decide : Fits 100 "")
      failureReason := (by decide : NulFree "")
      failedStepId := (by decide : Fits 255 "")
      executionContext := Json.nulFree_null
      alertImpact := Json.nulFree_null
      setupScript := Json.nulFree_null
      steps := List.forall_mem_nil _
      events := List.forall_mem_nil _ }
  idle := fun _ => ⟨rfl, rfl⟩
  persisted := Nat.le_refl 0
  stored := List.forall_mem_nil _
  saves := List.forall_mem_nil _

theorem Execution.Sound.update (h : s.Sound) {run : RunRecord} (phase : Phase) (hrun : run.Sound)
    (hsteps : s.run.steps <+: run.steps) (hphase : phase ≠ .idle) :
    { s with run := run, phase := phase }.Sound where
  run := hrun
  idle := fun hidle => absurd hidle hphase
  persisted := h.persisted.trans hsteps.length_le
  stored := by
    obtain ⟨added, hadded⟩ := hsteps
    dsimp only
    rw [← hadded, List.take_append_of_le_length h.persisted]
    exact h.stored
  saves := h.saves

/-- **A save of a sound execution commits**, when the alert fits. -/
theorem Execution.Sound.saveProgress (floats : Alerts.Investigation.FloatFormat) (h : s.Sound)
    (hphase : s.phase ≠ .idle)
    (halert : AlertFits answers s.run.triggerType s.run.status) :
    (s.saveProgress floats answers).Sound ∧ (s.saveProgress floats answers).saved = true ∧
      (s.saveProgress floats answers).run = s.run ∧
      (s.saveProgress floats answers).phase = s.phase := by
  have hstored : ∀ id ∈ s.run.steps.map StepRecord.id,
      id ∈ s.stored ++ (s.run.steps.drop s.persistedSteps).map StepRecord.id := by
    intro id hid
    obtain ⟨step, hstep, rfl⟩ := List.mem_map.mp hid
    rw [← List.take_append_drop s.persistedSteps s.run.steps, List.mem_append] at hstep
    rw [List.mem_append]
    obtain hstep | hstep := hstep
    · exact .inl (h.stored step hstep)
    · exact .inr (List.mem_map_of_mem hstep)
  have hcommits : commits (save floats answers s.stored s.run (s.run.steps.drop s.persistedSteps)
      (s.run.events.drop s.persistedEvents)) = true := by
    rw [commits_save_iff]
    refine ⟨h.run.accepted, ?_, ?_, halert⟩
    · exact fun step hstep => h.run.steps step (List.mem_of_mem_drop hstep)
    · exact fun event hevent =>
        accepted_mono hstored (h.run.events event (List.mem_of_mem_drop hevent))
  have hsave : s.saveProgress floats answers =
      { s with
        persistedSteps := s.run.steps.length
        persistedEvents := s.run.events.length
        stored := s.stored ++ (s.run.steps.drop s.persistedSteps).map StepRecord.id
        saves := s.saves ++ [true] } := by
    rw [Execution.saveProgress]
    exact if_pos hcommits
  rw [hsave]
  refine ⟨?_, by simp [Execution.saved], rfl, rfl⟩
  exact
    { run := h.run
      idle := fun hidle => absurd hidle hphase
      persisted := Nat.le_refl _
      stored := by
        intro step hstep
        rw [List.take_length] at hstep
        exact hstored step.id (List.mem_map_of_mem hstep)
      saves := by
        intro committed hcommitted
        obtain hcommitted | hcommitted := List.mem_append.mp hcommitted
        · exact h.saves committed hcommitted
        · exact List.mem_singleton.mp hcommitted }

theorem steps_withEnvironment (run : RunRecord) (context : Json) :
    (run.withEnvironment context).steps = run.steps := by
  unfold RunRecord.withEnvironment
  split <;> rfl

theorem afterSetup_frame (run : RunRecord) (script : ScriptEvidence) :
    (run.afterSetup script).steps = run.steps ∧
      (run.afterSetup script).triggerType = run.triggerType ∧
      (run.afterSetup script).status = if script.succeeded then run.status else .failed := by
  unfold RunRecord.afterSetup
  split <;> exact ⟨rfl, rfl, rfl⟩

theorem ending_frame (ending : Ending) (run : RunRecord) :
    (ending.run run).steps = run.steps ∧ (ending.run run).triggerType = run.triggerType := by
  unfold Ending.run
  split
  · exact ⟨rfl, rfl⟩
  · cases ending <;> exact ⟨rfl, rfl⟩

theorem steps_stop (run : RunRecord) (step : StepDefinition) (evidence : StepEvidence) :
    (run.stop step evidence).steps = run.steps := by
  unfold RunRecord.stop
  split <;> rfl

theorem steps_navigate (run : RunRecord) (steps : List StepDefinition) (step : StepDefinition)
    (evidence : StepEvidence) (next : Navigation) :
    (run.navigate steps step evidence next).steps = run.steps := by
  unfold RunRecord.navigate
  split <;> rfl

theorem alertFits_running (answers : SaveAnswers) (triggerType : String) :
    AlertFits answers triggerType .running :=
  fun _ hterminal => absurd hterminal (by decide)

theorem fits_type {d : AcceptedDefinition} {step : StepDefinition} (hstep : step ∈ d.steps) :
    Fits 100 step.type := by
  have htype := d.type_mem hstep
  simp only [List.mem_cons, List.not_mem_nil, or_false] at htype
  obtain htype | htype | htype := htype
  all_goals
    rw [htype]
    decide

theorem started_of_fits (floats : Alerts.Investigation.FloatFormat) (answers : SaveAnswers)
    (steps : List StepDefinition) (h : s.Sound) (hidle : s.phase = .idle)
    {input : ExecutionInput} (hinput : input.Fits) :
    ∃ s', executionStep floats steps s (.start input answers) = some s' ∧ s'.Sound ∧
      s'.run = input.run ∧ s'.phase = .preparing := by
  have hempty := (h.idle hidle).1
  have hstarted := h.update .preparing (sound_input hinput)
    (by rw [hempty]; exact List.nil_prefix) (by simp)
  obtain ⟨hsound, hsaved, hrun, hphase⟩ := hstarted.saveProgress floats (by simp)
    (alertFits_running answers input.triggerType)
  refine ⟨_, ?_, hsound, hrun, hphase⟩
  simp only [executionStep, if_pos hidle]
  rw [if_pos hsaved]

theorem alertFits_of_savesCommit {steps : List StepDefinition} {ending : Ending}
    (hstep : executionStep floats steps s (.finish ending answers) = some s')
    (h : SavesCommit s') : AlertFits answers s.run.triggerType (ending.run s.run).status := by
  simp only [executionStep, guarded_eq_some_iff] at hstep
  obtain ⟨-, rfl⟩ := hstep
  rw [← (ending_frame ending s.run).2]
  rw [Execution.saveProgress] at h
  split at h
  · rename_i hcommits
    exact (commits_save_iff.mp hcommits).2.2.2
  · exact absurd (h false (by simp)) (by simp)

/-- **Step lemma.**  An action that fits keeps the execution sound. -/
theorem sound_executionStep (d : AcceptedDefinition) {a : ExecutionAction} (h : s.Sound)
    (hstep : executionStep floats d.steps s a = some s') (hfits : ActionFits s a s') :
    s'.Sound := by
  cases a with
  | start input answers =>
    have hidle : s.phase = .idle := by
      by_contra hidle
      rw [executionStep, if_neg hidle] at hstep
      contradiction
    obtain ⟨s'', hstarted, hsound, -⟩ := started_of_fits floats answers d.steps h hidle hfits
    rw [hstep, Option.some.injEq] at hstarted
    exact hstarted ▸ hsound
  | environment context =>
    simp only [executionStep, guarded_eq_some_iff] at hstep
    obtain ⟨hphase, rfl⟩ := hstep
    refine h.update _ (h.run.withEnvironment context.2) ?_ (by simp [hphase])
    rw [steps_withEnvironment]
  | prepareFails failure answers =>
    simp only [executionStep, guarded_eq_some_iff] at hstep
    obtain ⟨-, rfl⟩ := hstep
    have hended := h.update .ended (h.run.unprepared failure) List.prefix_rfl (by simp)
    exact (hended.saveProgress floats (by simp) hfits).1
  | setup script answers =>
    simp only [executionStep, guarded_eq_some_iff] at hstep
    obtain ⟨-, rfl⟩ := hstep
    obtain ⟨hscript, halert⟩ := hfits
    obtain ⟨hsteps, htrigger, hstatus⟩ := afterSetup_frame s.run script
    have hafter := h.update .stepping (h.run.afterSetup hscript)
      (by rw [hsteps]) (by simp)
    refine (hafter.saveProgress floats (by simp) ?_).1
    dsimp only
    rw [htrigger, hstatus]
    exact halert
  | step step evidence answers =>
    obtain ⟨hstepFits, hevidence⟩ := hfits
    simp only [executionStep, Option.ite_none_right_eq_some] at hstep
    obtain ⟨⟨-, hrunning, hmem⟩, hstep⟩ := hstep
    have hafter := h.update .stepping
      (h.run.afterStep hstepFits (fits_type hmem) hevidence) (List.prefix_append _ _) (by simp)
    split at hstep
    · obtain ⟨hsound, hsaved, hrun, hphase⟩ := hafter.saveProgress floats (by simp) (by
          show AlertFits answers s.run.triggerType s.run.status
          rw [hrunning]
          exact alertFits_running answers s.run.triggerType)
      rw [if_pos hsaved] at hstep
      cases hnext : evidence.nextRequest with
      | none =>
        rw [hnext] at hstep
        cases hstep
        exact hsound
      | some next =>
        rw [hnext] at hstep
        cases hstep
        refine hsound.update _ ?_ ?_ (by rw [hphase]; simp)
        · refine hsound.run.navigate hstepFits ?_ (hevidence.nextRequest next hnext)
          rw [hrun]
          simp [RunRecord.afterStep, StepEvidence.record]
        · rw [steps_navigate]
    · rename_i hfailed
      cases hstep
      refine hafter.update _ ?_ ?_ (by simp)
      · exact hafter.run.stop hstepFits hevidence fun hskipped => hfailed (.inr hskipped)
      · rw [steps_stop]
  | finish ending answers =>
    simp only [executionStep, guarded_eq_some_iff] at hstep
    obtain ⟨-, rfl⟩ := hstep
    obtain ⟨hsteps, htrigger⟩ := ending_frame ending s.run
    have hended := h.update .ended (h.run.ending ending).completed
      (by rw [← hsteps]; exact List.prefix_rfl) (by simp)
    refine (hended.saveProgress floats (by simp) ?_).1
    show AlertFits answers (ending.run s.run).triggerType (ending.run s.run).status
    rw [htrigger]
    exact hfits

end Executions

/-! ## A failing run -/

def sampleFloats : Alerts.Investigation.FloatFormat where
  format := fun _ => "0"
  nulFree := fun _ => by decide

def sampleDefinition : AcceptedDefinition where
  lib := ⟨fun _ => none, sampleFloats.format⟩
  definition := [("steps", .arr [.obj [("id", .str "latency"), ("name", .str "Latency"),
    ("type", .str "METRIC_VALIDATION"),
    ("metric", .obj [("profileId", .str "prod"), ("metricSelector", .str "latency:p95")])]])]
  accepted := by decide

/-- A monitor whose name has `n` letters. -/
def sampleMonitor (n : Nat) (h : Monitors.validateMetadata (String.ofList (List.replicate n 'n'))
    "checkout" "" "" [] = []) : StoredMonitor where
  id := ⟨"6f1f4f0e-8c0a-4b52-9d0e-2a4f5b6c7d8e", by decide, by decide⟩
  name := String.ofList (List.replicate n 'n')
  slug := "checkout"
  description := ""
  ownerID := ""
  tags := []
  accepted := h
  name_nulFree := by
    rw [NulFree, String.toList_ofList]
    exact fun hmem => absurd (List.eq_of_mem_replicate hmem) (by decide)

theorem length_sampleMonitor (n : Nat) (h) : (sampleMonitor n h).name.length = n := by
  rw [sampleMonitor, String.length_ofList, List.length_replicate]

def sampleAnswers (monitor : StoredMonitor) : SaveAnswers where
  monitor := monitor
  claimed := true
  policy := none
  statuses := [.failed, .failed, .failed]
  opensAlert := true
  resolvedAlerts := 0
  definition := none
  applicationID := ""
  generatedIDs := []
  definition_nulFree := by simp
  applicationID_nulFree := by decide
  generatedIDs_nulFree := List.forall_mem_nil _

def sampleEvidence : StepEvidence where
  stepRunID := 1
  status := .failed
  failureCategory := "METRIC_THRESHOLD_FAILED"
  errorMessage := "The metric is above its threshold."
  requestSummary := .null
  responseSummary := .null
  timing := .null
  tls := .null
  proxy := .null
  attempts := []
  extractors := .null
  assertions := .null
  outputs := .null
  preRequestScript := none
  testScript := none
  hasPreRequestScript := false
  hasTestScript := false
  extractorsFailed := none
  assertionsFailed := none
  nextRequest := none

def sampleStep : StepDefinition := ⟨"latency", "Latency", "METRIC_VALIDATION"⟩

def sampleInput (monitor : StoredMonitor) : ExecutionInput :=
  ⟨monitor.name, "", "", "", "SCHEDULED", "scheduler", true⟩

def sampleActions (monitor : StoredMonitor) : List ExecutionAction :=
  [.start (sampleInput monitor) (sampleAnswers monitor),
    .step sampleStep sampleEvidence (sampleAnswers monitor),
    .finish .completed (sampleAnswers monitor)]

theorem fits_sampleInput (monitor : StoredMonitor) : (sampleInput monitor).Fits where
  triggerType := (by decide : Fits 50 "SCHEDULED")
  triggerSource := (by decide : Fits 255 "scheduler")
  context := by
    simp only [sampleInput, List.forall_mem_cons]
    exact ⟨monitor.name_nulFree, by decide, by decide, by decide, List.forall_mem_nil _⟩

theorem fits_sampleEvidence : sampleEvidence.Fits where
  failureCategory := by decide
  errorMessage := by decide
  documents := by decide
  attempts := by simp [sampleEvidence]
  preRequestScript := by simp [sampleEvidence]
  testScript := by simp [sampleEvidence]
  nextRequest := by simp [sampleEvidence]

end Rhythm.Storage
