import Rhythm.ExecutionJobs.Service
import Rhythm.Storage.AlertState
import Rhythm.Storage.MetricSummary
import Rhythm.Suites.DistributionLaws

/-!
# Rhythm.ExecutionJobs.SkippedRuns

The readers of a run that `skipOverlapping` skipped.  It is stored as `SKIPPED`, while the services
know a skipped run as `SKIPPED_CONDITION`: `WaitForTerminal` takes it for unfinished, `summarize`
and `evaluateAlertState` for failed, and `MetricSummary` leaves it out of its counts, but not out
of its failure categories.

`skipped_never_neutral`: no run that is skipped is neutral for its readers.
-/

namespace Rhythm.ExecutionJobs

open Runs RunRepository Storage Suites Alerts Notifications

/-! ## Waiting for a run -/

/-- One round of the loop in `WaitForTerminal`: what `Get` answers, and the error of the context if
that ends before the ticker ticks. -/
structure WaitRound where
  answer : Except String MonitorRun
  ended : Option String

/-- What `WaitForTerminal` returns. -/
inductive Waited where
  | terminal (run : MonitorRun)
  | ended (run : MonitorRun) (err : String)
  | failed (err : String)

/-- `WaitForTerminal`; `none` while it waits for another round. -/
def waitForTerminal : List WaitRound → Option Waited
  | [] => none
  | round :: rounds =>
    match round.answer with
    | .error err => some (.failed err)
    | .ok run =>
      if run.status.isTerminal = true then some (.terminal run)
      else
        match round.ended with
        | some err => some (.ended run err)
        | none => waitForTerminal rounds

/-- `WaitForTerminal` returns the run as soon as it reads it. -/
def Awaited (row : MonitorRun) : Prop :=
  ∀ rounds, rounds ≠ [] → (∀ round ∈ rounds, round.answer = .ok row) →
    waitForTerminal rounds = some (.terminal row)

variable {row : MonitorRun}

theorem waitForTerminal_ne_terminal (hopen : row.status.isTerminal = false)
    {rounds : List WaitRound} (hrow : ∀ round ∈ rounds, round.answer = .ok row)
    (run : MonitorRun) : waitForTerminal rounds ≠ some (.terminal run) := by
  induction rounds with
  | nil => simp [waitForTerminal]
  | cons round rounds ih =>
    grind [List.mem_cons_of_mem, waitForTerminal, List.mem_cons_self, Bool.false_eq_true]

theorem awaited_iff : Awaited row ↔ row.status.isTerminal = true := by
  constructor
  · intro hawaited
    by_contra hopen
    have hround : ∀ round ∈ [WaitRound.mk (.ok row) none], round.answer = .ok row := by simp
    exact waitForTerminal_ne_terminal (by simpa using hopen) hround row
      (hawaited _ (List.cons_ne_nil _ _) hround)
  · intro hterminal rounds hne hrow
    cases rounds with
    | nil => exact absurd rfl hne
    | cons round rounds =>
      rw [waitForTerminal, hrow round List.mem_cons_self]
      exact if_pos hterminal

/-! ## Summaries -/

/-- The point that `MetricPointsBetween` makes of a run and its steps. -/
def storedPoint (row : MonitorRun) (steps : List StepRun) : HistoryMetricPoint :=
  metricPoint
    { id := row.id
      revisionId := row.revisionId
      status := row.status
      failureCategory := row.failureCategory
      durationMs := row.durationMs
      createdAt := row.createdAt
      steps := steps }

/-- `summarize` does not count the run as completed. -/
def Unsummarized (row : MonitorRun) : Prop :=
  ∀ before after steps, (summarize (before ++ storedPoint row steps :: after)).completedCount =
    (summarize (before ++ after)).completedCount

theorem completedCount_summarize (points : List HistoryMetricPoint) :
    (summarize points).completedCount = points.countP fun point => !passedOver point.status := by
  rw [summarize, (counts_distributionOf _).2.1, List.length_filterMap_eq_countP]
  refine List.countP_congr fun point _ => ?_
  unfold HistoryMetricPoint.contribution?
  split
  · simp [*]
  · split <;> simp [*]

theorem unsummarized_iff : Unsummarized row ↔ passedOver row.status = true := by
  simp [Unsummarized, completedCount_summarize, List.countP_append, List.countP_cons, storedPoint]

/-! ## Alerts -/

/-- `evaluateAlertState` does not count the run as a failure: an alert that it raises with the run
among the executions of a monitor is raised without it. -/
def Unalarming (row : MonitorRun) : Prop :=
  ∀ (policy? : Option AlertPolicy) (monitorName : String) (channels : ChannelTable)
    (run : MonitorRun) (store : AlertStore) (newID : FreshAlertId store.alerts)
    (runs runs' : RunTable) (history : RunHistory runs run.monitorId)
    (history' : RunHistory runs' run.monitorId) (before after : List MonitorRun),
    history.rows = before ++ row :: after → history'.rows = before ++ after →
    run ∈ history'.rows →
    (evaluateAlertState policy? monitorName channels run history store newID).1.raises = true →
    (evaluateAlertState policy? monitorName channels run history' store newID).1.raises = true

/-- The history of a monitor whose executions are `rows`. -/
def historyOf {monitorID : MonitorId} (rows : List MonitorRun)
    (hids : (rows.map MonitorRun.id).Nodup)
    (hrows : ∀ row ∈ rows, row.monitorId = monitorID ∧ row.triggerType ≠ .manualDraft)
    (hsorted : rows.Pairwise fun newer older => older.createdAt ≤ newer.createdAt) :
    RunHistory ⟨rows, hids⟩ monitorID where
  rows := rows
  perm := by
    have hall : rows.filter (fun row => row.monitorId = monitorID ∧ row.triggerType ≠ .manualDraft)
        = rows := List.filter_eq_self.mpr (by simpa using hrows)
    rw [hall]
  sorted := hsorted

/-- A failed execution right after `row`. -/
def failedAfter (row : MonitorRun) : MonitorRun := { row with id := row.id + 1, status := .failed }

theorem unalarming_iff :
    Unalarming row ↔ row.status = .success ∨ row.triggerType = .manualDraft := by
  constructor
  · intro hneutral
    by_contra hcounts
    obtain ⟨hstatus, htrigger⟩ := not_or.mp hcounts
    let history : RunHistory ⟨[failedAfter row, row], by simp [failedAfter]⟩
        (failedAfter row).monitorId :=
      historyOf _ _ (by simp [failedAfter, htrigger]) (by simp [failedAfter])
    let history' : RunHistory ⟨[failedAfter row], by simp⟩ (failedAfter row).monitorId :=
      historyOf _ _ (by simp [failedAfter, htrigger]) (by simp)
    have hraises := hneutral (some ⟨2, 2, .critical⟩) "" .empty (failedAfter row)
      ⟨.empty, .empty⟩ ⟨0, rfl⟩ _ _ history history' [failedAfter row] [] rfl rfl
      (List.mem_singleton_self _)
    rw [raises_evaluateAlertState_iff, raises_evaluateAlertState_iff] at hraises
    simp [history, history', historyOf, failedAfter, streak, hstatus] at hraises
  · rintro hcases policy? monitorName channels run store newID runs runs' history history' before
      after hrows hrows' - hraises
    rw [raises_evaluateAlertState_iff] at hraises ⊢
    obtain ⟨hrun, hthreshold⟩ := hraises
    rcases hcases with hsuccess | hdraft
    · refine ⟨hrun, hthreshold.trans ?_⟩
      rw [hrows, hrows']
      exact streak_append_cons_le (by simp [hsuccess]) before after
    · have hmem : row ∈ history.rows := by simp [hrows]
      have hrow := history.perm.mem_iff.mp hmem
      simp [hdraft] at hrow

/-! ## Metrics -/

/-- The failure categories of `MetricSummary`: `SELECT failure_category,COUNT(*) … WHERE
failure_category IS NOT NULL GROUP BY failure_category`. -/
def failureCategories (monitorID : MonitorId) (since : Time) (db : MetricsDatabase)
    (category : String) : Nat :=
  db.runs.rows.countP fun row =>
    row.monitorId = monitorID ∧ since ≤ row.createdAt ∧ row.failureCategory ≠ "" ∧
      row.failureCategory = category

/-- The counts and times of `MetricSummary` leave the run out. -/
def Uncounted (row : MonitorRun) : Prop :=
  ∀ (monitorID : MonitorId) (since : Time) (db db' : MetricsDatabase) (measured : MeasuredRun)
    (before after : List MeasuredRun), measured.toMonitorRun = row →
    db.runs.rows = before ++ measured :: after → db'.runs.rows = before ++ after →
    metricSummary monitorID since db = metricSummary monitorID since db'

/-- `MetricSummary` counts the run neither among the failures nor in a failure category. -/
def Unmeasured (row : MonitorRun) : Prop :=
  ∀ (monitorID : MonitorId) (since : Time) (db db' : MetricsDatabase) (measured : MeasuredRun)
    (before after : List MeasuredRun), measured.toMonitorRun = row →
    db.runs.rows = before ++ measured :: after → db'.runs.rows = before ++ after →
    (metricSummary monitorID since db).failureCount =
        (metricSummary monitorID since db').failureCount ∧
      ∀ category, failureCategories monitorID since db category =
        failureCategories monitorID since db' category

section Metrics

variable {row : MonitorRun} {db db' : MetricsDatabase} {measured : MeasuredRun}
  {before after : List MeasuredRun}

theorem uncounted_of_status (hstatus : isCounted row.status = false) : Uncounted row := by
  rintro monitorID since db db' measured before after rfl hrows hrows'
  have hfilter : db.runs.rows.filter (fun row =>
        row.monitorId = monitorID ∧ since ≤ row.createdAt ∧ isCounted row.status = true) =
      db'.runs.rows.filter fun row =>
        row.monitorId = monitorID ∧ since ≤ row.createdAt ∧ isCounted row.status = true := by
    simp [hrows, hrows', hstatus]
  simp only [metricSummary, hfilter]

theorem failureCount_eq_add (monitorID : MonitorId) (since : Time)
    (hrows : db.runs.rows = before ++ measured :: after)
    (hrows' : db'.runs.rows = before ++ after) :
    (metricSummary monitorID since db).failureCount =
      (metricSummary monitorID since db').failureCount +
        if isSuccess measured.status = false ∧ measured.monitorId = monitorID ∧
          since ≤ measured.createdAt ∧ isCounted measured.status = true then 1 else 0 := by
  simp only [metricSummary, List.countP_filter, hrows, hrows', List.countP_append,
    List.countP_cons]
  simp [Nat.add_assoc]

theorem unmeasured_iff : Unmeasured row ↔
    (isCounted row.status = true → isSuccess row.status = true) ∧ row.failureCategory = "" := by
  constructor
  · intro h
    let measured : MeasuredRun := ⟨row, none, none, none⟩
    let db : MetricsDatabase := ⟨⟨[measured], List.nodup_singleton _⟩, .empty⟩
    obtain ⟨hcount, hcategories⟩ := h row.monitorId 0 db noMetrics measured [] [] rfl rfl rfl
    constructor
    · intro hcounted
      by_contra hfails
      have hadd :=
        @failureCount_eq_add db noMetrics measured [] [] row.monitorId 0 rfl rfl
      simp [hcount, measured, hcounted, hfails] at hadd
    · have hcategory := hcategories row.failureCategory
      simpa [failureCategories, noMetrics, Table.empty, db, measured] using hcategory
  · rintro ⟨hstatus, hcategory⟩ monitorID since db db' measured before after rfl hrows hrows'
    constructor
    · have hadds : ¬ (isSuccess measured.status = false ∧ measured.monitorId = monitorID ∧
          since ≤ measured.createdAt ∧ isCounted measured.status = true) := by
        rintro ⟨hfails, -, -, hcounted⟩
        simp [hstatus hcounted] at hfails
      rw [failureCount_eq_add monitorID since hrows hrows', if_neg hadds, Nat.add_zero]
    · intro category
      simp [failureCategories, hrows, hrows', List.countP_append, hcategory]

end Metrics

/-! ## Skipped runs -/

/-- Every reader takes the run for finished, and for neither a success nor a failure. -/
structure Neutral (row : MonitorRun) : Prop where
  awaited : Awaited row
  unsummarized : Unsummarized row
  unalarming : Unalarming row
  unmeasured : Unmeasured row

/-- `skipOverlapping` skips the run: it has the identifier, and has not started. -/
def Skips (runID : RunId) (row : MonitorRun) : Prop :=
  row.id = runID ∧ row.status.isPending = true

/-- **No run that is skipped is neutral for its readers.**  `WaitForTerminal` waits on, `summarize`
counts it as completed, an alert is raised for it unless it is a draft, and it has a failure
category, though the counts of `MetricSummary` leave it out. -/
theorem skipped_never_neutral (now : Time) (jobID : JobId) (runID : RunId) (db : Database)
    (row : MonitorRun) (hrow : row ∈ db.runs) (hskips : Skips runID row) :
    skipRun now row ∈ (skipOverlapping now jobID runID db).runs ∧
      ¬Neutral (skipRun now row) ∧
      ¬Awaited (skipRun now row) ∧
      ¬Unsummarized (skipRun now row) ∧
      (Unalarming (skipRun now row) ↔ row.triggerType = .manualDraft) ∧
      ¬Unmeasured (skipRun now row) ∧
      Uncounted (skipRun now row) := by
  have hwaits : ¬Awaited (skipRun now row) := by
    rw [awaited_iff]
    simp [Status.isTerminal]
  have hsummarized : ¬Unsummarized (skipRun now row) := by
    rw [unsummarized_iff]
    simp [passedOver]
  have hmeasured : ¬Unmeasured (skipRun now row) := by
    rw [unmeasured_iff]
    rintro ⟨-, hcategory⟩
    simp [skipRun] at hcategory
  have halarming : Unalarming (skipRun now row) ↔ row.triggerType = .manualDraft := by
    rw [unalarming_iff]
    simp [skipRun]
  have hstored : skipRun now row ∈ (skipOverlapping now jobID runID db).runs := by
    simp only [skipOverlapping, Table.mem_update]
    exact ⟨row, hrow, if_pos hskips⟩
  exact ⟨hstored, fun hneutral => hwaits hneutral.awaited, hwaits, hsummarized, halarming,
    hmeasured, uncounted_of_status rfl⟩

section Sample

def overlappingRun : Database where
  jobs := .empty
  runs := ⟨[sampleRun 1 .queued 5], List.nodup_singleton 1⟩

theorem skipped_never_neutral_queued :
    ¬Neutral (skipRun 9 (sampleRun 1 .queued 5)) ∧
      ¬Unalarming (skipRun 9 (sampleRun 1 .queued 5)) := by
  have h := skipped_never_neutral 9 1 1 overlappingRun (sampleRun 1 .queued 5)
    List.mem_cons_self ⟨rfl, rfl⟩
  exact ⟨h.2.1, fun hquiet => by simpa [sampleRun] using h.2.2.2.2.1.mp hquiet⟩

/-- A skipped run is waited for until the context ends, and lets a series of samples fail. -/
theorem skipped_run_not_neutral :
    ¬(∀ (now : Time) (jobID : JobId) (runID : RunId) (db : Database) (row : MonitorRun),
        row ∈ db.runs → Skips runID row →
        ∀ skipped ∈ (skipOverlapping now jobID runID db).runs, skipped.id = runID →
          Neutral skipped) ∧
      (summarize [storedPoint (skipRun 9 (sampleRun 1 .queued 5)) []]).failureCount = 1 := by
  refine ⟨fun hclaim => ?_, by decide⟩
  have hstored : skipRun 9 (sampleRun 1 .queued 5) ∈
      (skipOverlapping 9 1 1 overlappingRun).runs := List.mem_cons_self
  have hneutral := hclaim 9 1 1 overlappingRun (sampleRun 1 .queued 5) List.mem_cons_self
    ⟨rfl, rfl⟩ _ hstored rfl
  have hterminal := awaited_iff.mp hneutral.awaited
  contradiction

end Sample

end Rhythm.ExecutionJobs
