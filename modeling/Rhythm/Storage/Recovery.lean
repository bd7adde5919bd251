import Rhythm.Runs.RequestSummary
import Rhythm.Storage.SavedExecution
import Rhythm.Table

/-!
# Rhythm.Storage.Recovery

Does a recovered execution leave its own evidence only?  When the lease of a worker expires,
`reclaimExpiredBatch` queues a recovery-safe job again, and the next worker executes its run from
the start — into the rows that the first one stored.  `save` inserts steps under new identifiers,
attempts under their step and events under their number in the run, and deletes nothing.

`one_execution_along_iff`: the rows are those of the execution that ends exactly when no step was
stored before it.  The events alone never tell of an earlier execution: without a step it stored
at most three of them, and an execution that ends has as many.

The worker whose lease expired writes no more; a run that is skipped for another of its monitor
is left out.
-/

namespace Rhythm.Storage.Recovery

open Runs

/-! ## Jobs -/

/-- `RequestConfig`, as far as recovery reads it. -/
structure RequestConfig where
  method : String
  headers : List KeyValue
  preRequestScript : String
  testScript : String

structure WorkflowStep extends StepDefinition where
  enabled : Bool
  request : RequestConfig

structure Definition where
  preRequestScript : String
  steps : List WorkflowStep

/-- The value of the first `Idempotency-Key`. -/
def RequestConfig.idempotencyKey (request : RequestConfig) : String :=
  let named := request.headers.find? fun header =>
    header.enabled && Text.equalFold (Text.trimSpace header.key) "Idempotency-Key"
  (named.map fun header => Text.trimSpace header.value).getD ""

/-- The request may be sent again: it runs no script, and its method or its key says so. -/
def RequestConfig.recoverySafe (request : RequestConfig) : Bool :=
  Text.trimSpace request.preRequestScript = "" ∧ Text.trimSpace request.testScript = "" ∧
    (Text.toUpper (Text.trimSpace request.method) ∈ ["GET", "HEAD", "OPTIONS", "PUT", "DELETE"] ∨
      request.idempotencyKey ≠ "" ∧ Text.contains request.idempotencyKey "\x7b\x7b" = false)

def definitionRecoverySafe (definition : Definition) : Bool :=
  Text.trimSpace definition.preRequestScript = "" ∧
    ∀ step ∈ definition.steps, step.enabled = true → step.type = "HTTP_REQUEST" →
      step.request.recoverySafe = true

/-- What a job executes, and whether it may do so again: `Enqueue` has asked
`definitionRecoverySafe`, and a scheduled job is never safe. -/
structure QueuedJob where
  definition : Definition
  recoverySafe : Bool
  safe : recoverySafe = true → definitionRecoverySafe definition = true

theorem QueuedJob.setup_blank (job : QueuedJob) (hsafe : job.recoverySafe = true) :
    Text.trimSpace job.definition.preRequestScript = "" :=
  (of_decide_eq_true (job.safe hsafe)).1

/-! ## Rows -/

/-- A row of `step_attempts`. -/
structure AttemptRow where
  stepRunID : StepRunId
  attemptNumber : Nat
  attempt : AttemptRecord

abbrev AttemptRow.key (row : AttemptRow) : StepRunId × Nat := (row.stepRunID, row.attemptNumber)

/-- A row of `run_events`, without its own identifier. -/
structure EventRow where
  sequence : Nat
  event : EventRecord

/-- The rows of one run. -/
structure RunRows where
  steps : Table StepRecord StepRecord.id
  attempts : Table AttemptRow AttemptRow.key
  events : Table EventRow EventRow.sequence

/-- The row of a step: its attempts have a table of their own. -/
def stepRow (step : StepRecord) : StepRecord := { step with attempts := [] }

def attemptRows (step : StepRecord) : List AttemptRow :=
  step.attempts.zipIdx.map fun (attempt, index) => ⟨step.id, index + 1, attempt⟩

def eventRows (events : List EventRecord) : List EventRow :=
  events.zipIdx.map fun (event, index) => ⟨index + 1, event⟩

/-- The `SET` list of a step keeps which step it is. -/
def setStep (new old : StepRecord) : StepRecord :=
  { new with
    id := old.id
    stepDefinitionId := old.stepDefinitionId
    stepName := old.stepName
    stepType := old.stepType }

def setAttempt (new old : AttemptRow) : AttemptRow := { old with attempt := new.attempt }

def setEvent (new old : EventRow) : EventRow := { old with event := new.event }

/-- The rows after a `save`. -/
def RunRows.save (rows : RunRows) (changedSteps : List StepRecord) (changedEvents : List EventRow) :
    RunRows where
  steps := rows.steps.upsertAll setStep (fun _ => ⟨fun _ => rfl⟩) (changedSteps.map stepRow)
  attempts :=
    rows.attempts.upsertAll setAttempt (fun _ => ⟨fun _ => rfl⟩) (changedSteps.flatMap attemptRows)
  events := rows.events.upsertAll setEvent (fun _ => ⟨fun _ => rfl⟩) changedEvents

/-- The rows after `Enqueue`. -/
def RunRows.enqueued : RunRows where
  steps := Table.empty
  attempts := Table.empty
  events :=
    ⟨eventRows [runEvent "RUN_QUEUED" .queued "Run accepted and queued for execution." "" .null],
      List.nodup_singleton _⟩

/-! ## Recovery -/

inductive JobStatus where
  | queued | leased | closed
  deriving DecidableEq

/-- A job, the execution of its run and the rows that are stored. -/
structure State where
  status : JobStatus
  execution : Execution
  rows : RunRows
  /-- The rows that the execution has found. -/
  found : RunRows

def queued : State where
  status := .queued
  execution := Execution.idle []
  rows := .enqueued
  found := .enqueued

inductive Action where
  | claim
  | execute (a : ExecutionAction)
  | complete
  | reclaim

/-- What the worker of the job can do: its run was queued, a blank setup script does not run, and
enabled steps run under new identifiers. -/
def Follows (job : QueuedJob) (s : State) : ExecutionAction → Prop
  | .start input _ => input.queued = true
  | .setup _ _ => Text.trimSpace job.definition.preRequestScript ≠ ""
  | .step step evidence _ =>
    (∃ planned ∈ job.definition.steps, planned.enabled = true ∧ planned.toStepDefinition = step) ∧
      (∀ row ∈ s.rows.steps, row.id ≠ evidence.stepRunID) ∧
      ∀ other ∈ s.execution.run.steps, other.id ≠ evidence.stepRunID
  | _ => True

instance (job : QueuedJob) (s : State) : DecidablePred (Follows job s) := fun a => by
  cases a <;> unfold Follows <;> infer_instance

/-- The steps that were stored between two states of an execution. -/
def changedSteps (e e' : Execution) : List StepRecord :=
  (e'.run.steps.take e'.persistedSteps).drop e.persistedSteps

def changedEvents (e e' : Execution) : List EventRow :=
  ((eventRows e'.run.events).take e'.persistedEvents).drop e.persistedEvents

/-- **One action of a worker or of the recovery.**  A reclaimed job is queued again if that is safe;
a job that is claimed executes its run from the start. -/
def step (floats : Alerts.Investigation.FloatFormat) (job : QueuedJob) (s : State) :
    Action → Option State
  | .claim =>
    if s.status = .queued then
      some { s with
        status := .leased
        execution := Execution.idle (s.rows.steps.rows.map StepRecord.id)
        found := s.rows }
    else none
  | .execute a =>
    if s.status = .leased ∧ Follows job s a then
      let steps := job.definition.steps.map WorkflowStep.toStepDefinition
      (executionStep floats steps s.execution a).map fun execution =>
        { s with
          execution := execution
          rows := s.rows.save (changedSteps s.execution execution)
            (changedEvents s.execution execution) }
    else none
  | .complete =>
    if s.status = .leased ∧ (s.execution.phase = .idle ∨ s.execution.phase = .ended) then
      some { s with status := .closed }
    else none
  | .reclaim =>
    if s.status = .leased then
      some { s with status := if job.recoverySafe then .queued else .closed }
    else none

def Finished (s : State) : Prop := s.execution.phase = .ended ∧ s.execution.saved = true

instance : DecidablePred Finished := fun _ => inferInstanceAs (Decidable (_ ∧ _))

/-- The rows are those of the record. -/
structure OwnEvidence (run : RunRecord) (rows : RunRows) : Prop where
  steps : ∀ row, row ∈ rows.steps ↔ row ∈ run.steps.map stepRow
  attempts : ∀ row, row ∈ rows.attempts ↔ row ∈ run.steps.flatMap attemptRows
  events : ∀ row, row ∈ rows.events ↔ row ∈ eventRows run.events

/-- **The law of recovery.**  What is stored of a run whose last execution went to its end is the
evidence of that execution. -/
def OneExecution (s : State) : Prop := Finished s → OwnEvidence s.execution.run s.rows

/-- **The condition on the executions that end.**  No step was stored before them. -/
def FoundNoStep (s : State) : Prop := Finished s → ∀ row, row ∉ s.found.steps

/-! ## One action of an execution -/

section Executions

variable {floats : Alerts.Investigation.FloatFormat} {steps : List StepDefinition}
  {e e' : Execution} {a : ExecutionAction}

def addedSteps : ExecutionAction → List StepRecord
  | .step step evidence _ => [evidence.record step]
  | _ => []

/-- What one action does to the record of its run, and to the part of it that is stored. -/
structure Advances (e : Execution) (a : ExecutionAction) (e' : Execution) : Prop where
  notEnded : e.phase ≠ .ended
  notIdle : e'.phase ≠ .idle
  /-- Only a start begins an execution, with a new record. -/
  start : e.phase = .idle → ∃ input answers, a = .start input answers ∧ e'.run = input.run
  steps : e.phase ≠ .idle → e'.run.steps = e.run.steps ++ addedSteps a
  events : e.phase ≠ .idle → e.run.events <+: e'.run.events
  stored : (e'.persistedSteps = e.persistedSteps ∧ e'.persistedEvents = e.persistedEvents) ∨
    (e'.persistedSteps = e'.run.steps.length ∧ e'.persistedEvents ≤ e'.run.events.length ∧
      e.run.events.length ≤ e'.persistedEvents)
  ended : e'.phase = .ended → e'.saved = true →
    e.phase ≠ .idle ∧ e'.persistedSteps = e'.run.steps.length ∧
      e'.persistedEvents = e'.run.events.length ∧ e.run.events.length < e'.run.events.length
  /-- Without a setup script, only steps and the end tell more than one thing. -/
  short : e.phase ≠ .idle → (∀ script answers, a ≠ .setup script answers) → e'.run.steps = [] →
    e'.run.events.length ≤ e.run.events.length + if e'.phase = .ended then 1 else 0

theorem events_withEnvironment (run : RunRecord) (context : Json) :
    (run.withEnvironment context).events = run.events := by
  unfold RunRecord.withEnvironment
  split <;> rfl

theorem events_afterSetup (run : RunRecord) (script : ScriptEvidence) :
    run.events <+: (run.afterSetup script).events := by
  unfold RunRecord.afterSetup
  split <;> exact (List.prefix_append _ _).trans (List.prefix_append _ _)

theorem events_stop (run : RunRecord) (step : StepDefinition) (evidence : StepEvidence) :
    (run.stop step evidence).events = run.events := by
  unfold RunRecord.stop
  split <;> rfl

theorem events_navigate (run : RunRecord) (steps : List StepDefinition) (step : StepDefinition)
    (evidence : StepEvidence) (next : Navigation) :
    run.events <+: (run.navigate steps step evidence next).events := by
  unfold RunRecord.navigate
  split <;> exact List.prefix_append _ _

theorem events_ending (ending : Ending) (run : RunRecord) :
    (ending.run run).events = run.events := by
  unfold Ending.run
  split
  · rfl
  · cases ending <;> rfl

theorem saveProgress_cases (floats : Alerts.Investigation.FloatFormat) (answers : SaveAnswers)
    (e : Execution) :
    (e.saveProgress floats answers).run = e.run ∧
      (e.saveProgress floats answers).phase = e.phase ∧
      (((e.saveProgress floats answers).saved = true ∧
          (e.saveProgress floats answers).persistedSteps = e.run.steps.length ∧
          (e.saveProgress floats answers).persistedEvents = e.run.events.length) ∨
        ((e.saveProgress floats answers).saved = false ∧
          (e.saveProgress floats answers).persistedSteps = e.persistedSteps ∧
          (e.saveProgress floats answers).persistedEvents = e.persistedEvents)) := by
  rw [Execution.saveProgress]
  split
  · exact ⟨rfl, rfl, .inl ⟨by simp [Execution.saved], rfl, rfl⟩⟩
  · exact ⟨rfl, rfl, .inr ⟨by simp [Execution.saved], rfl, rfl⟩⟩

theorem advances_saveProgress {answers : SaveAnswers} {run : RunRecord} {phase : Phase}
    (hphase : e.phase ≠ .ended) (hidle : phase ≠ .idle)
    (hstart : e.phase = .idle → ∃ input answers, a = .start input answers ∧ run = input.run)
    (hsteps : e.phase ≠ .idle → run.steps = e.run.steps ++ addedSteps a)
    (hevents : e.run.events <+: run.events)
    (hended : phase = .ended → e.phase ≠ .idle ∧ e.run.events.length < run.events.length)
    (hshort : e.phase ≠ .idle → (∀ script answers, a ≠ .setup script answers) → run.steps = [] →
      run.events.length ≤ e.run.events.length + if phase = .ended then 1 else 0) :
    Advances e a ({ e with run := run, phase := phase }.saveProgress floats answers) := by
  obtain ⟨hrun, hphase', hstored⟩ :=
    saveProgress_cases floats answers { e with run := run, phase := phase }
  exact
    { notEnded := hphase
      notIdle := by rw [hphase']; exact hidle
      start := by rw [hrun]; exact hstart
      steps := by rw [hrun]; exact hsteps
      events := by rw [hrun]; exact fun _ => hevents
      stored := by
        rw [hrun]
        obtain ⟨-, hpersistedSteps, hpersistedEvents⟩ | ⟨-, hpersisted⟩ := hstored
        · refine .inr ⟨hpersistedSteps, ?_, ?_⟩
          · exact hpersistedEvents.le
          · exact hevents.length_le.trans hpersistedEvents.ge
        · exact .inl hpersisted
      ended := by
        intro hend hsaved
        rw [hphase'] at hend
        rw [hrun]
        obtain ⟨-, hpersistedSteps, hpersistedEvents⟩ | ⟨hfailed, -⟩ := hstored
        · exact ⟨(hended hend).1, hpersistedSteps, hpersistedEvents, (hended hend).2⟩
        · rw [hfailed] at hsaved
          contradiction
      short := by rw [hrun, hphase']; exact hshort }

theorem Advances.update (h : Advances e a e') {run : RunRecord} {phase : Phase}
    (hstart : e.phase = .idle → run = e'.run) (hsteps : run.steps = e'.run.steps)
    (hevents : e'.run.events <+: run.events) (hphase : phase ≠ .idle)
    (hended : phase = .ended → e'.saved = false)
    (hshort : e.phase ≠ .idle → e'.run.steps ≠ []) :
    Advances e a { e' with run := run, phase := phase } where
  notEnded := h.notEnded
  notIdle := hphase
  start := by
    intro hidle
    rw [hstart hidle]
    exact h.start hidle
  steps := by
    intro hidle
    exact hsteps.trans (h.steps hidle)
  events := fun hidle => (h.events hidle).trans hevents
  stored := by
    obtain hsame | ⟨hpersistedSteps, hle, hge⟩ := h.stored
    · exact .inl hsame
    · exact .inr ⟨by rw [hsteps]; exact hpersistedSteps, hle.trans hevents.length_le, hge⟩
  ended := by
    intro hend hsaved
    have hfailed : e'.saved = true := hsaved
    rw [hended hend] at hfailed
    contradiction
  short := by
    intro hidle _ hnone
    exact absurd (hsteps.symm.trans hnone) (hshort hidle)

/-- **One action of an execution.** -/
theorem advances_executionStep (hempty : e.phase = .idle → e.run.events = [])
    (hstep : executionStep floats steps e a = some e') : Advances e a e' := by
  cases a with
  | start input answers =>
    simp only [executionStep, guarded_eq_some_iff] at hstep
    obtain ⟨hphase, rfl⟩ := hstep
    have hsaved : Advances e (.start input answers)
        ({ e with run := input.run, phase := .preparing }.saveProgress floats answers) := by
      grind [advances_saveProgress]
    split
    · exact hsaved
    · rename_i hfailed
      refine hsaved.update (fun _ => rfl) rfl List.prefix_rfl (by simp) ?_ ?_
      · exact fun _ => Bool.eq_false_iff.mpr hfailed
      · exact fun hidle => absurd hphase hidle
  | environment context =>
    simp only [executionStep, guarded_eq_some_iff] at hstep
    obtain ⟨hphase, rfl⟩ := hstep
    exact
      { notEnded := by simp [hphase]
        notIdle := by simp [hphase]
        start := by simp [hphase]
        steps := fun _ => by simp [steps_withEnvironment, addedSteps]
        events := fun _ => by rw [events_withEnvironment]
        stored := .inl ⟨rfl, rfl⟩
        ended := by simp [hphase]
        short := fun _ _ _ => by simp [events_withEnvironment] }
  | prepareFails failure answers =>
    simp only [executionStep, guarded_eq_some_iff] at hstep
    obtain ⟨hphase, rfl⟩ := hstep
    refine advances_saveProgress (by simp [hphase]) (by simp) (by simp [hphase]) ?_ ?_ ?_ ?_
    · exact fun _ => (List.append_nil _).symm
    · exact List.prefix_append _ _
    · intro _
      simp [hphase, RunRecord.unprepared, RunRecord.add, RunRecord.fail]
    · intro _ _ _
      simp [RunRecord.unprepared, RunRecord.add, RunRecord.fail]
  | setup script answers =>
    simp only [executionStep, guarded_eq_some_iff] at hstep
    obtain ⟨hphase, rfl⟩ := hstep
    refine advances_saveProgress (by simp [hphase]) (by simp) (by simp [hphase]) ?_ ?_ (by simp) ?_
    · intro _
      rw [(afterSetup_frame e.run script).1]
      exact (List.append_nil _).symm
    · exact events_afterSetup _ _
    · exact fun _ hother => absurd rfl (hother script answers)
  | step step evidence answers =>
    simp only [executionStep, Option.ite_none_right_eq_some] at hstep
    obtain ⟨⟨hphase, -⟩, hstep⟩ := hstep
    have hidle : e.phase ≠ .idle := by
      obtain hphase | hphase := hphase <;> simp [hphase]
    have hended : e.phase ≠ .ended := by
      obtain hphase | hphase := hphase <;> simp [hphase]
    have hadded : (e.run.afterStep step evidence).steps ≠ [] := by simp [RunRecord.afterStep]
    split at hstep
    · have hsaved : Advances e (.step step evidence answers)
          ({ e with run := e.run.afterStep step evidence, phase := .stepping }.saveProgress floats
            answers) := by
        refine advances_saveProgress hended (by simp) (fun h => absurd h hidle) ?_ ?_ (by simp) ?_
        · exact fun _ => rfl
        · exact List.prefix_append _ _
        · exact fun _ _ hnone => absurd hnone hadded
      have hrun := (saveProgress_cases floats answers
        { e with run := e.run.afterStep step evidence, phase := .stepping }).1
      have hsteps : e.phase ≠ .idle → ({ e with
          run := e.run.afterStep step evidence
          phase := .stepping }.saveProgress floats answers).run.steps ≠ [] := by
        rw [hrun]
        exact fun _ => hadded
      split at hstep
      · rename_i hcommitted
        cases hnext : evidence.nextRequest with
        | none =>
          rw [hnext] at hstep
          cases hstep
          exact hsaved
        | some next =>
          rw [hnext] at hstep
          cases hstep
          have hphase' := (saveProgress_cases floats answers
            { e with run := e.run.afterStep step evidence, phase := .stepping }).2.1
          refine hsaved.update (fun h => absurd h hidle) (steps_navigate _ _ _ _ _)
            (events_navigate _ _ _ _ _) ?_ ?_ hsteps
          · rw [hphase']
            simp
          · rw [hphase']
            simp
      · rename_i hfailed
        cases hstep
        refine hsaved.update (fun h => absurd h hidle) rfl List.prefix_rfl (by simp) ?_ hsteps
        exact fun _ => Bool.eq_false_iff.mpr hfailed
    · cases hstep
      exact
        { notEnded := hended
          notIdle := by simp
          start := fun h => absurd h hidle
          steps := fun _ => steps_stop _ _ _
          events := by
            intro _
            rw [events_stop]
            exact List.prefix_append _ _
          stored := .inl ⟨rfl, rfl⟩
          ended := by simp
          short := fun _ _ hnone => absurd ((steps_stop _ _ _).symm.trans hnone) hadded }
  | finish ending answers =>
    simp only [executionStep, guarded_eq_some_iff] at hstep
    obtain ⟨hphase, rfl⟩ := hstep
    have hidle : e.phase ≠ .idle := by
      obtain hphase | hphase := hphase <;> simp [hphase]
    have hended : e.phase ≠ .ended := by
      obtain hphase | hphase := hphase <;> simp [hphase]
    have hcompleted : ((ending.run e.run).completed).events.length = e.run.events.length + 1 := by
      simp [RunRecord.completed, RunRecord.add, events_ending]
    refine advances_saveProgress hended (by simp) (fun h => absurd h hidle) ?_ ?_ ?_ ?_
    · intro _
      show (ending.run e.run).steps = e.run.steps ++ []
      rw [(ending_frame ending e.run).1, List.append_nil]
    · show e.run.events <+: (ending.run e.run).events ++ _
      rw [events_ending]
      exact List.prefix_append _ _
    · intro _
      rw [hcompleted]
      exact ⟨hidle, Nat.lt_succ_self _⟩
    · intro _ _ _
      rw [hcompleted, if_pos rfl]

end Executions

/-! ## The rows of a record -/

section Rows

variable {events events' : List EventRecord} {steps : List StepRecord} {n : Nat}

theorem map_sequence_eventRows (events : List EventRecord) :
    (eventRows events).map EventRow.sequence = List.range' 1 events.length := by
  have hindex : EventRow.sequence ∘ (fun x : EventRecord × Nat => EventRow.mk (x.2 + 1) x.1) =
      (1 + ·) ∘ Prod.snd := funext fun x => Nat.add_comm x.2 1
  rw [eventRows, List.map_map, hindex, ← List.map_map, List.zipIdx_map_snd, List.map_add_range']

theorem length_eventRows (events : List EventRecord) :
    (eventRows events).length = events.length := by
  rw [eventRows, List.length_map, List.length_zipIdx]

theorem take_eventRows (hmore : events <+: events') (hn : n ≤ events.length) :
    (eventRows events').take n = (eventRows events).take n := by
  obtain ⟨added, rfl⟩ := hmore
  have hrows : eventRows (events ++ added) = eventRows events ++
      (added.zipIdx (0 + events.length)).map fun (event, index) => ⟨index + 1, event⟩ := by
    rw [eventRows, List.zipIdx_append, List.map_append, eventRows]
  rw [hrows, List.take_append_of_le_length (by rw [length_eventRows]; exact hn)]

theorem map_sequence_take (hn : n ≤ events.length) :
    ((eventRows events).take n).map EventRow.sequence = List.range' 1 n := by
  rw [List.map_take, map_sequence_eventRows, List.take_range'_of_length_ge hn]

theorem sequence_le_of_mem_take {row : EventRow} (hn : n ≤ events.length)
    (hrow : row ∈ (eventRows events).take n) : 1 ≤ row.sequence ∧ row.sequence ≤ n := by
  grind [map_sequence_take, List.mem_map_of_mem]

theorem stepRunID_of_mem_attemptRows {step : StepRecord} {row : AttemptRow}
    (hrow : row ∈ attemptRows step) : row.stepRunID = step.id := by
  obtain ⟨_, -, rfl⟩ := List.mem_map.mp hrow
  rfl

theorem nodup_key_attemptRows (step : StepRecord) :
    ((attemptRows step).map AttemptRow.key).Nodup := by
  have hkey : AttemptRow.key ∘ (fun x : AttemptRecord × Nat =>
      AttemptRow.mk step.id (x.2 + 1) x.1) = (fun index => (step.id, index + 1)) ∘ Prod.snd := rfl
  rw [attemptRows, List.map_map, hkey, ← List.map_map, List.zipIdx_map_snd]
  refine List.Nodup.map ?_ List.nodup_range'
  intro i j hij
  simpa using hij

theorem nodup_key_flatMap (hsteps : (steps.map StepRecord.id).Nodup) :
    ((steps.flatMap attemptRows).map AttemptRow.key).Nodup := by
  induction steps with
  | nil => exact List.nodup_nil
  | cons step steps ih =>
    rw [List.map_cons, List.nodup_cons] at hsteps
    rw [List.flatMap_cons, List.map_append]
    refine List.nodup_append'.mpr ⟨nodup_key_attemptRows step, ih hsteps.2, ?_⟩
    intro key hkey hkey'
    obtain ⟨row, hrow, rfl⟩ := List.mem_map.mp hkey
    obtain ⟨row', hrow', hsame⟩ := List.mem_map.mp hkey'
    obtain ⟨other, hother, hrow'⟩ := List.mem_flatMap.mp hrow'
    have hid : other.id = step.id := by
      rw [← stepRunID_of_mem_attemptRows hrow', ← stepRunID_of_mem_attemptRows hrow]
      exact congrArg Prod.fst hsame
    exact hsteps.1 (List.mem_map.mpr ⟨other, hother, hid⟩)

end Rows

/-! ## Records along an execution -/

/-- How many events an execution tells before its first step. -/
def eventLimit : Phase → Nat
  | .idle => 0
  | .preparing | .stepping => 2
  | .ended => 3

/-- The record of an execution, and how much of it is stored. -/
structure Recorded (job : QueuedJob) (e : Execution) : Prop where
  idle : e.phase = .idle → e.run.steps = [] ∧ e.run.events = []
  persistedSteps : e.persistedSteps ≤ e.run.steps.length
  persistedEvents : e.persistedEvents ≤ e.run.events.length
  nodup : (e.run.steps.map StepRecord.id).Nodup
  started : e.phase ≠ .idle → 2 ≤ e.run.events.length
  finished : e.phase = .ended → e.saved = true →
    e.persistedSteps = e.run.steps.length ∧ e.persistedEvents = e.run.events.length ∧
      3 ≤ e.run.events.length
  short : job.recoverySafe = true → e.run.steps = [] → e.run.events.length ≤ eventLimit e.phase
  shortStored : job.recoverySafe = true → e.persistedSteps = 0 → e.persistedEvents ≤ 3

theorem eventLimit_le (phase : Phase) : eventLimit phase ≤ 3 := by
  cases phase <;> decide

section Records

variable {job : QueuedJob} {s : State} {e e' : Execution} {a : ExecutionAction}

theorem recorded_idle (job : QueuedJob) (stored : List StepRunId) :
    Recorded job (Execution.idle stored) where
  idle := fun _ => ⟨rfl, rfl⟩
  persistedSteps := Nat.le_refl 0
  persistedEvents := Nat.le_refl 0
  nodup := List.nodup_nil
  started := fun hphase => absurd rfl hphase
  finished := nofun
  short := fun _ _ => Nat.le_refl 0
  shortStored := fun _ _ => Nat.zero_le 3

theorem Recorded.steps_eq (h : Recorded job e) (hadvances : Advances e a e') :
    e'.run.steps = e.run.steps ++ addedSteps a := by
  by_cases hidle : e.phase = .idle
  · obtain ⟨input, answers, rfl, hrun⟩ := hadvances.start hidle
    rw [hrun, (h.idle hidle).1]
    rfl
  · exact hadvances.steps hidle

theorem Recorded.events_prefix (h : Recorded job e) (hadvances : Advances e a e') :
    e.run.events <+: e'.run.events := by
  by_cases hidle : e.phase = .idle
  · rw [(h.idle hidle).2]
    exact List.nil_prefix
  · exact hadvances.events hidle

theorem Recorded.persisted_le (h : Recorded job e) (hadvances : Advances e a e') :
    e.persistedSteps ≤ e'.persistedSteps ∧ e'.persistedSteps ≤ e'.run.steps.length ∧
      e.persistedEvents ≤ e'.persistedEvents ∧ e'.persistedEvents ≤ e'.run.events.length := by
  have hsteps : e.run.steps.length ≤ e'.run.steps.length := by
    rw [h.steps_eq hadvances, List.length_append]
    exact Nat.le_add_right _ _
  have hevents := (h.events_prefix hadvances).length_le
  have hpersistedSteps := h.persistedSteps
  have hpersistedEvents := h.persistedEvents
  obtain ⟨hsame, hsame'⟩ | ⟨hall, hle, hge⟩ := hadvances.stored
  · omega
  · omega

/-- **Step lemma for the record.** -/
theorem Recorded.advance (h : Recorded job e) (hadvances : Advances e a e')
    (hfollows : ∀ input answers, a = .start input answers → input.queued = true)
    (hsetup : ∀ script answers, a = .setup script answers → job.recoverySafe = false)
    (hfresh : ∀ step ∈ addedSteps a, ∀ other ∈ e.run.steps, other.id ≠ step.id) :
    Recorded job e' := by
  have hsteps := h.steps_eq hadvances
  obtain ⟨-, hpersistedSteps, -, hpersistedEvents⟩ := h.persisted_le hadvances
  have hstarted : 2 ≤ e'.run.events.length := by
    by_cases hidle : e.phase = .idle
    · obtain ⟨input, answers, rfl, hrun⟩ := hadvances.start hidle
      simp [hrun, ExecutionInput.run, hfollows input answers rfl]
    · exact (h.started hidle).trans (hadvances.events hidle).length_le
  have hshort : job.recoverySafe = true → e'.run.steps = [] →
      e'.run.events.length ≤ eventLimit e'.phase := by
    intro hsafe hnone
    by_cases hidle : e.phase = .idle
    · obtain ⟨input, answers, rfl, hrun⟩ := hadvances.start hidle
      have htwo : e'.run.events.length = 2 := by
        simp [hrun, ExecutionInput.run, hfollows input answers rfl]
      have hnotIdle := hadvances.notIdle
      rw [htwo]
      cases hphase : e'.phase with
      | idle => exact absurd hphase hnotIdle
      | preparing | stepping | ended => decide
    · have hold := h.short hsafe (List.append_eq_nil_iff.mp (hsteps.symm.trans hnone)).1
      have hnew := hadvances.short hidle (fun script answers hscript => by
        rw [hsetup script answers hscript] at hsafe
        contradiction) hnone
      have hnotIdle := hadvances.notIdle
      have hnotEnded := hadvances.notEnded
      cases hphase : e.phase with
      | idle => exact absurd hphase hidle
      | ended => exact absurd hphase hnotEnded
      | preparing | stepping =>
        rw [hphase] at hold
        cases hphase' : e'.phase with
        | idle => exact absurd hphase' hnotIdle
        | preparing | stepping | ended =>
          rw [hphase'] at hnew
          simp only [eventLimit] at hold ⊢
          simp at hnew
          omega
  exact
    { idle := fun hidle => absurd hidle hadvances.notIdle
      persistedSteps := hpersistedSteps
      persistedEvents := hpersistedEvents
      nodup := by
        rw [hsteps, List.map_append]
        refine List.nodup_append'.mpr ⟨h.nodup, ?_, ?_⟩
        · cases a with
          | step => exact List.nodup_singleton _
          | start | environment | prepareFails | setup | finish => exact List.nodup_nil
        · intro id hid hid'
          obtain ⟨other, hother, rfl⟩ := List.mem_map.mp hid
          obtain ⟨step, hstep, hsame⟩ := List.mem_map.mp hid'
          exact hfresh step hstep other hother hsame.symm
      started := fun _ => hstarted
      finished := by
        intro hend hsaved
        obtain ⟨hidle, hallSteps, hallEvents, hmore⟩ := hadvances.ended hend hsaved
        have htwo := h.started hidle
        exact ⟨hallSteps, hallEvents, by omega⟩
      short := hshort
      shortStored := by
        intro hsafe hzero
        obtain ⟨hsame, hsame'⟩ | ⟨hall, -, -⟩ := hadvances.stored
        · rw [hsame']
          exact h.shortStored hsafe (hsame.symm.trans hzero)
        · have hnone : e'.run.steps = [] := List.eq_nil_of_length_eq_zero (hall.symm.trans hzero)
          exact hpersistedEvents.trans ((hshort hsafe hnone).trans (eventLimit_le _)) }

end Records

/-! ## Rows along a run -/

/-- The rows: what the execution has found, and what it has stored itself. -/
structure Stored (s : State) : Prop where
  steps : ∀ row, row ∈ s.rows.steps ↔ row ∈ s.found.steps ∨
    row ∈ (s.execution.run.steps.take s.execution.persistedSteps).map stepRow
  attempts : ∀ row, row ∈ s.rows.attempts ↔ row ∈ s.found.attempts ∨
    row ∈ (s.execution.run.steps.take s.execution.persistedSteps).flatMap attemptRows
  events : ∀ row, row ∈ s.rows.events ↔
    (row ∈ s.found.events ∧ s.execution.persistedEvents < row.sequence) ∨
      row ∈ (eventRows s.execution.run.events).take s.execution.persistedEvents
  fresh : ∀ step ∈ s.execution.run.steps, ∀ row ∈ s.found.steps, row.id ≠ step.id
  owned : ∀ row ∈ s.found.attempts, ∃ step ∈ s.found.steps, step.id = row.stepRunID
  positive : ∀ row ∈ s.found.events, 0 < row.sequence

section Stored

variable {job : QueuedJob} {s : State} {e' : Execution} {a : ExecutionAction}

theorem stored_idle {rows : RunRows} (status : JobStatus) (stored : List StepRunId)
    (howned : ∀ row ∈ rows.attempts, ∃ step ∈ rows.steps, step.id = row.stepRunID)
    (hpositive : ∀ row ∈ rows.events, 0 < row.sequence) :
    Stored ⟨status, Execution.idle stored, rows, rows⟩ where
  steps := fun row => by simp [Execution.idle]
  attempts := fun row => by simp [Execution.idle]
  events := by
    grind [Execution.idle]
  fresh := List.forall_mem_nil _
  owned := howned
  positive := hpositive

theorem Stored.owned_rows (h : Stored s) :
    ∀ row ∈ s.rows.attempts, ∃ step ∈ s.rows.steps, step.id = row.stepRunID := by
  intro row hrow
  obtain hrow | hrow := (h.attempts row).mp hrow
  · obtain ⟨step, hstep, hid⟩ := h.owned row hrow
    exact ⟨step, (h.steps step).mpr (.inl hstep), hid⟩
  · obtain ⟨step, hstep, hrow⟩ := List.mem_flatMap.mp hrow
    refine ⟨stepRow step, (h.steps _).mpr (.inr (List.mem_map_of_mem hstep)), ?_⟩
    exact (stepRunID_of_mem_attemptRows hrow).symm

theorem Stored.positive_rows (h : Stored s) (hrecorded : Recorded job s.execution) :
    ∀ row ∈ s.rows.events, 0 < row.sequence := by
  intro row hrow
  obtain ⟨hrow, -⟩ | hrow := (h.events row).mp hrow
  · exact h.positive row hrow
  · exact (sequence_le_of_mem_take hrecorded.persistedEvents hrow).1

theorem take_steps (hrecorded : Recorded job s.execution)
    (hadvances : Advances s.execution a e') :
    e'.run.steps.take e'.persistedSteps =
      s.execution.run.steps.take s.execution.persistedSteps ++ changedSteps s.execution e' := by
  have hle := (hrecorded.persisted_le hadvances).1
  have hold : (e'.run.steps.take e'.persistedSteps).take s.execution.persistedSteps =
      s.execution.run.steps.take s.execution.persistedSteps := by
    rw [List.take_take, Nat.min_eq_left hle, hrecorded.steps_eq hadvances,
      List.take_append_of_le_length hrecorded.persistedSteps]
  rw [changedSteps, ← hold, List.take_append_drop]

theorem take_events (hrecorded : Recorded job s.execution)
    (hadvances : Advances s.execution a e') :
    (eventRows e'.run.events).take e'.persistedEvents =
      (eventRows s.execution.run.events).take s.execution.persistedEvents ++
        changedEvents s.execution e' := by
  obtain ⟨-, -, hle, -⟩ := hrecorded.persisted_le hadvances
  have hold : ((eventRows e'.run.events).take e'.persistedEvents).take
      s.execution.persistedEvents =
      (eventRows s.execution.run.events).take s.execution.persistedEvents := by
    rw [List.take_take, Nat.min_eq_left hle,
      take_eventRows (hrecorded.events_prefix hadvances) hrecorded.persistedEvents]
  rw [changedEvents, ← hold, List.take_append_drop]

theorem mem_changedEvents_sequence (hrecorded : Recorded job s.execution)
    (hadvances : Advances s.execution a e') {k : Nat} :
    k ∈ (changedEvents s.execution e').map EventRow.sequence ↔
      s.execution.persistedEvents < k ∧ k ≤ e'.persistedEvents := by
  obtain ⟨-, -, hle, hlength⟩ := hrecorded.persisted_le hadvances
  rw [changedEvents, List.map_drop, map_sequence_take hlength, List.drop_range',
    List.mem_range'_1]
  omega

/-- **Step lemma for the rows.** -/
theorem Stored.save (h : Stored s) (hrecorded : Recorded job s.execution)
    (hadvances : Advances s.execution a e') (hrecorded' : Recorded job e')
    (hfresh : ∀ step ∈ addedSteps a, ∀ row ∈ s.rows.steps, row.id ≠ step.id) :
    Stored { s with
      execution := e'
      rows := s.rows.save (changedSteps s.execution e') (changedEvents s.execution e') } := by
  have htake := take_steps hrecorded hadvances
  have hchanged : ∀ step ∈ changedSteps s.execution e', step ∈ e'.run.steps := by
    intro step hstep
    exact List.mem_of_mem_take (List.mem_of_mem_drop hstep)
  -- The steps of the record are new beside the rows that were found.
  have hfound : ∀ step ∈ e'.run.steps, ∀ row ∈ s.found.steps, row.id ≠ step.id := by
    intro step hstep row hrow
    rw [hrecorded.steps_eq hadvances, List.mem_append] at hstep
    obtain hstep | hstep := hstep
    · exact h.fresh step hstep row hrow
    · exact hfresh step hstep row ((h.steps row).mpr (.inl hrow))
  have hnodup : ((s.execution.run.steps.take s.execution.persistedSteps).map StepRecord.id ++
      (changedSteps s.execution e').map StepRecord.id).Nodup := by
    rw [← List.map_append, ← htake, List.map_take]
    exact hrecorded'.nodup.sublist (List.take_sublist _ _)
  obtain ⟨-, hnodupChanged, hdisjoint⟩ := List.nodup_append'.mp hnodup
  -- So the changed steps meet no row at all.
  have hnew : ∀ step ∈ changedSteps s.execution e', ∀ row ∈ s.rows.steps, row.id ≠ step.id := by
    intro step hstep row hrow hid
    obtain hrow | hrow := (h.steps row).mp hrow
    · exact hfound step (hchanged step hstep) row hrow hid
    · obtain ⟨other, hother, rfl⟩ := List.mem_map.mp hrow
      refine hdisjoint (List.mem_map_of_mem hother) ?_
      exact List.mem_map.mpr ⟨step, hstep, hid.symm⟩
  have hids : ((changedSteps s.execution e').map stepRow).map StepRecord.id =
      (changedSteps s.execution e').map StepRecord.id := by
    rw [List.map_map]
    rfl
  exact
    { steps := by
        intro row
        dsimp only [RunRows.save]
        rw [Table.mem_upsertAll_of_fresh, h.steps, htake, List.map_append, List.mem_append,
          or_assoc]
        · rw [hids]
          exact hnodupChanged
        · intro r hr old hold
          obtain ⟨step, hstep, rfl⟩ := List.mem_map.mp hr
          exact hnew step hstep old hold
      attempts := by
        intro row
        dsimp only [RunRows.save]
        rw [Table.mem_upsertAll_of_fresh, h.attempts, htake, List.flatMap_append, List.mem_append,
          or_assoc]
        · exact nodup_key_flatMap hnodupChanged
        · intro r hr old hold hkey
          obtain ⟨step, hstep, hr⟩ := List.mem_flatMap.mp hr
          obtain ⟨owner, howner, hid⟩ := h.owned_rows old hold
          refine hnew step hstep owner howner ?_
          rw [hid, ← stepRunID_of_mem_attemptRows hr]
          exact congrArg Prod.fst hkey
      events := by
        intro row
        have hsequence := mem_changedEvents_sequence hrecorded hadvances (k := row.sequence)
        dsimp only [RunRows.save]
        rw [Table.mem_upsertAll, h.events, take_events hrecorded hadvances, List.mem_append,
          hsequence]
        · obtain ⟨-, -, hle, -⟩ := hrecorded.persisted_le hadvances
          constructor
          · grind
          · rintro (⟨hrow, hlt⟩ | hrow | hrow)
            · exact .inr ⟨.inl ⟨hrow, by omega⟩, by omega⟩
            · have hbound := sequence_le_of_mem_take hrecorded.persistedEvents hrow
              exact .inr ⟨.inr hrow, by omega⟩
            · exact .inl hrow
        · rw [changedEvents, List.map_drop, map_sequence_take hrecorded'.persistedEvents]
          exact List.Nodup.sublist (List.drop_sublist _ _) List.nodup_range'
        · intro r _ old _ hk
          exact congrArg (fun sequence => EventRow.mk sequence r.event) hk
      fresh := hfound
      owned := h.owned
      positive := h.positive }

end Stored

/-! ## Runs -/

/-- **The invariant.** -/
structure Sound (job : QueuedJob) (s : State) : Prop where
  recorded : Recorded job s.execution
  stored : Stored s
  /-- Executions that stored no step stored at most three events. -/
  found : (∀ row, row ∉ s.found.steps) → ∀ row ∈ s.found.events, row.sequence ≤ 3
  /-- A job is queued again only if that is safe. -/
  queued : s.status = .queued →
    job.recoverySafe = true ∨ ∀ row ∈ s.rows.events, row.sequence ≤ 3

section Runs

variable {floats : Alerts.Investigation.FloatFormat} {job : QueuedJob} {s s' : State} {a : Action}

theorem sequence_of_enqueued {row : EventRow} (hrow : row ∈ RunRows.enqueued.events) :
    row.sequence = 1 := by
  rw [List.mem_singleton.mp hrow]

theorem sound_queued (job : QueuedJob) : Sound job queued where
  recorded := recorded_idle job []
  stored := by
    refine stored_idle .queued [] ?_ ?_
    · exact fun row hrow => absurd hrow (Table.not_mem_empty row)
    · intro row hrow
      rw [sequence_of_enqueued hrow]
      exact Nat.one_pos
  found := by
    intro _ row hrow
    rw [sequence_of_enqueued hrow]
    decide
  queued := by
    intro _
    refine .inr fun row hrow => ?_
    rw [sequence_of_enqueued hrow]
    decide

theorem Sound.sequence_le (h : Sound job s) (hsafe : job.recoverySafe = true)
    (hnone : ∀ row, row ∉ s.rows.steps) : ∀ row ∈ s.rows.events, row.sequence ≤ 3 := by
  have hfound : ∀ row, row ∉ s.found.steps := fun row hrow =>
    hnone row ((h.stored.steps row).mpr (.inl hrow))
  have hzero : s.execution.persistedSteps = 0 := by
    have htake : s.execution.run.steps.take s.execution.persistedSteps = [] := by
      rw [List.eq_nil_iff_forall_not_mem]
      intro step hstep
      exact hnone (stepRow step) ((h.stored.steps _).mpr (.inr (List.mem_map_of_mem hstep)))
    have hlength := congrArg List.length htake
    rw [List.length_take_of_le h.recorded.persistedSteps] at hlength
    exact hlength
  intro row hrow
  obtain ⟨hrow, -⟩ | hrow := (h.stored.events row).mp hrow
  · exact h.found hfound row hrow
  · have hstored := h.recorded.shortStored hsafe hzero
    have hbound := sequence_le_of_mem_take h.recorded.persistedEvents hrow
    omega

/-- **Step lemma.** -/
theorem sound_step (h : Sound job s) (hstep : step floats job s a = some s') : Sound job s' := by
  cases a with
  | claim =>
    rw [step, guarded_eq_some_iff] at hstep
    obtain ⟨hstatus, rfl⟩ := hstep
    exact
      { recorded := recorded_idle job _
        stored := stored_idle .leased _ h.stored.owned_rows (h.stored.positive_rows h.recorded)
        found := by
          intro hnone
          obtain hsafe | hshort := h.queued hstatus
          · exact h.sequence_le hsafe hnone
          · exact hshort
        queued := nofun }
  | execute a =>
    rw [step, Option.ite_none_right_eq_some, Option.map_eq_some_iff] at hstep
    obtain ⟨⟨hstatus, hfollows⟩, e', hexecution, rfl⟩ := hstep
    have hadvances := advances_executionStep (fun hidle => (h.recorded.idle hidle).2) hexecution
    have hfreshRows : ∀ step ∈ addedSteps a, ∀ row ∈ s.rows.steps, row.id ≠ step.id := by
      cases a with
      | step step evidence answers => exact List.forall_mem_singleton.mpr hfollows.2.1
      | start | environment | prepareFails | setup | finish => exact List.forall_mem_nil _
    have hfreshRecord : ∀ step ∈ addedSteps a, ∀ other ∈ s.execution.run.steps,
        other.id ≠ step.id := by
      cases a with
      | step step evidence answers => exact List.forall_mem_singleton.mpr hfollows.2.2
      | start | environment | prepareFails | setup | finish => exact List.forall_mem_nil _
    have hrecorded : Recorded job e' := by
      refine h.recorded.advance hadvances ?_ ?_ hfreshRecord
      · rintro input answers rfl
        exact hfollows
      · rintro script answers rfl
        rw [Bool.eq_false_iff]
        exact fun hsafe => hfollows (job.setup_blank hsafe)
    exact
      { recorded := hrecorded
        stored := h.stored.save h.recorded hadvances hrecorded hfreshRows
        found := h.found
        queued := by
          intro hqueued
          rw [hstatus] at hqueued
          contradiction }
  | complete =>
    rw [step, guarded_eq_some_iff] at hstep
    obtain ⟨-, rfl⟩ := hstep
    exact { h with stored := { h.stored with }, queued := nofun }
  | reclaim =>
    rw [step, guarded_eq_some_iff] at hstep
    obtain ⟨-, rfl⟩ := hstep
    refine { h with stored := { h.stored with }, queued := fun hqueued => .inl ?_ }
    by_contra hsafe
    simp [hsafe] at hqueued

/-- **When an execution leaves its own evidence only.** -/
theorem Sound.oneExecution_iff (h : Sound job s) : OneExecution s ↔ FoundNoStep s := by
  refine forall_congr' fun hfinished => ?_
  obtain ⟨hallSteps, hallEvents, hthree⟩ := h.recorded.finished hfinished.1 hfinished.2
  have htake : s.execution.run.steps.take s.execution.persistedSteps = s.execution.run.steps := by
    rw [hallSteps, List.take_length]
  have htakeEvents : (eventRows s.execution.run.events).take s.execution.persistedEvents =
      eventRows s.execution.run.events := by
    rw [hallEvents, ← length_eventRows, List.take_length]
  constructor
  · -- A step that was found is not one of the record.
    intro hown row hrow
    have hmem := (hown.steps row).mp ((h.stored.steps row).mpr (.inl hrow))
    obtain ⟨step, hstep, rfl⟩ := List.mem_map.mp hmem
    exact h.stored.fresh step hstep (stepRow step) hrow rfl
  · intro hnone
    exact
      { steps := by
          intro row
          rw [h.stored.steps, htake, or_iff_right (hnone row)]
        attempts := by
          intro row
          rw [h.stored.attempts, htake, or_iff_right]
          intro hrow
          obtain ⟨step, hstep, -⟩ := h.stored.owned row hrow
          exact hnone step hstep
        events := by
          intro row
          rw [h.stored.events, htakeEvents, or_iff_right]
          rintro ⟨hrow, hlt⟩
          have hle := h.found hnone row hrow
          omega }

/-- **Recovered executions.**  Along every run of the worker and the recovery, what is stored of an
execution that goes to its end is its own evidence exactly when it found no step: a step that an
interrupted execution has stored stays. -/
theorem one_execution_along_iff (floats : Alerts.Investigation.FloatFormat) (job : QueuedJob)
    (as : List Action) :
    Along (step floats job) (fun _ _ s' => OneExecution s') queued as ↔
      Along (step floats job) (fun _ _ s' => FoundNoStep s') queued as := by
  refine along_iff_along (I := Sound job) (fun s a s' h hstep => sound_step h hstep) ?_
    (sound_queued job)
  exact fun s a s' h hstep => (sound_step h hstep).oneExecution_iff

end Runs

/-! ## A recovered run -/

/-- One `GET` request. -/
def sampleProbe : WorkflowStep where
  id := "probe"
  name := "Probe"
  type := "HTTP_REQUEST"
  enabled := true
  request := ⟨"GET", [], "", ""⟩

def sampleJob : QueuedJob where
  definition := ⟨"", [sampleProbe]⟩
  recoverySafe := true
  safe := fun _ => by decide

def probeEvidence (id : StepRunId) : StepEvidence :=
  { sampleEvidence with
    stepRunID := id
    status := .success
    failureCategory := ""
    errorMessage := "" }

def sampleStart : ExecutionAction :=
  .start ⟨"Checkout", "", "", "", "MANUAL_PUBLISHED", "alice", true⟩
    (sampleAnswers (sampleMonitor 8 (by decide)))

def sampleProbed (id : StepRunId) : ExecutionAction :=
  .step sampleProbe.toStepDefinition (probeEvidence id)
    (sampleAnswers (sampleMonitor 8 (by decide)))

/-- The first worker is lost after the probe; the second one goes to the end. -/
def sampleRecovery : List Action :=
  [.claim, .execute sampleStart, .execute (sampleProbed 1), .reclaim, .claim, .execute sampleStart,
    .execute (sampleProbed 2),
    .execute (.finish .completed (sampleAnswers (sampleMonitor 8 (by decide))))]

/-- **The step of the interrupted execution remains.** -/
theorem interrupted_step_remains :
    ¬ Along (step sampleFloats sampleJob) (fun _ _ s' => OneExecution s') queued
      sampleRecovery := by
  intro h
  have hids : Along (step sampleFloats sampleJob) (fun _ _ s' => Finished s' →
      ∀ id ∈ s'.rows.steps.rows.map StepRecord.id, id ∈ s'.execution.run.steps.map StepRecord.id)
      queued sampleRecovery := by
    refine Along.mono (fun _ _ s' _ hone hfinished id hid => ?_) h
    obtain ⟨row, hrow, rfl⟩ := List.mem_map.mp hid
    obtain ⟨step, hstep, hsame⟩ := List.mem_map.mp (((hone hfinished).steps row).mp hrow)
    exact List.mem_map.mpr ⟨step, hstep, by rw [← hsame]; rfl⟩
  revert hids
  decide +kernel

end Rhythm.Storage.Recovery
