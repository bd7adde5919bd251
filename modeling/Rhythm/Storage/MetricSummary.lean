import Mathlib.Algebra.Group.Prod
import Mathlib.Algebra.GroupWithZero.Nat
import Mathlib.Algebra.Order.Group.Multiset
import Rhythm.ExecutionJobs.Service
import Rhythm.Runs.Timing
import Rhythm.Storage.Rollups
import Rhythm.Totals
import Rhythm.Transition

/-!
# Rhythm.Storage.MetricSummary

The two readings of a monitor's metrics: `MetricSummary` counts the rows of
`monitor_runs`, and for windows of more than 30 days `metricRollupSummary`
sums the hourly rollups.  The rollups are written by one of the writers of
`monitor_runs` only — the `save` that processes a terminal run — while the
rows are counted whoever wrote them.

`totals_agree_iff_countsOnce`: the totals agree along a run exactly when every
write counts a run in both places or in neither.  `summaries_agree` reads the
two summaries off the totals.
-/

namespace Rhythm.Storage

open Runs RunRepository ExecutionJobs

/-! ## Response times of a run -/

/-- A step attempt, as far as its response time is read. -/
structure TimedAttempt where
  timing : List (String × Json)
  durationMs : Int

/-- A step, as far as its response time is read. -/
structure TimedStep where
  timing : List (String × Json)
  attempts : List TimedAttempt

/-- A run in the memory of its worker, with its timings. -/
structure TimedRun where
  run : MonitorRun
  apiResponseTimeMs : Option Int
  steps : List TimedStep

/-- `StepAPIResponseMS`: what the step recorded, else what its last attempt did, else the duration
of that attempt. -/
def stepAPIResponseMS (step : TimedStep) : Option Int :=
  (recordedAPIResponseMS step.timing).or <| step.attempts.getLast?.bind fun last =>
    (recordedAPIResponseMS last.timing).or <|
      if 0 < last.durationMs then some last.durationMs else none

/-- `RunAPIResponseFromSteps`. -/
def runAPIResponseFromSteps (steps : List TimedStep) : Option Int :=
  let recorded := steps.filterMap stepAPIResponseMS
  if recorded = [] then none else some recorded.sum

/-- `runAPIResponseTime`. -/
def runAPIResponseTime (timed : TimedRun) : Option Int :=
  timed.apiResponseTimeMs.or (runAPIResponseFromSteps timed.steps)

/-- The network total of `runTimingTotals`: `0` when no step recorded any. -/
def networkTotal (timed : TimedRun) : Int :=
  (timed.steps.map fun step => timingMilliseconds step.timing "networkTotalMs").sum

/-! ## The tables -/

/-- A row of `monitor_runs` with its response times.  `stepApiMs` is what the response times of its
rows in `monitor_step_runs` sum to. -/
structure MeasuredRun extends MonitorRun where
  apiResponseTimeMs : Option Int
  networkTimeMs : Option Int
  stepApiMs : Option Int
  deriving DecidableEq

/-- `monitor_runs`. -/
abbrev MeasuredRunTable := Table MeasuredRun fun row => row.id

/-- The runs and their hourly rollups. -/
structure MetricsDatabase where
  runs : MeasuredRunTable
  rollups : RollupTable

/-! ## The writers -/

/-- The row that `save` leaves of a stored run. -/
def savedMeasuredRun (now : Time) (timed : TimedRun) (stepApiMs : Option Int) (row : MeasuredRun) :
    MeasuredRun where
  toMonitorRun := savedRow now timed.run row.toMonitorRun
  apiResponseTimeMs := (runAPIResponseTime timed).or row.apiResponseTimeMs
  networkTimeMs := some (networkTotal timed)
  stepApiMs := stepApiMs

/-- The row of a run that `save` stores for the first time. -/
def insertedMeasuredRun (now : Time) (timed : TimedRun) (stepApiMs : Option Int) :
    MeasuredRun where
  toMonitorRun := insertedRow now timed.run
  apiResponseTimeMs := runAPIResponseTime timed
  networkTimeMs := some (networkTotal timed)
  stepApiMs := stepApiMs

/-- The save of `run` over `row` claims its terminal processing: `RowsAffected() > 0`. -/
def ClaimsProcessing (run : MonitorRun) (row : Option MeasuredRun) : Prop :=
  run.triggerType ≠ .manualDraft ∧ run.status.isTerminal = true ∧
    (row.bind fun row => row.terminalProcessedAt) = none

instance (run : MonitorRun) (row : Option MeasuredRun) : Decidable (ClaimsProcessing run row) :=
  inferInstanceAs (Decidable (_ ∧ _))

/-- `save`: the upsert of the row, and the rollup when it claims the processing of the run. -/
def saveMeasured (now : Time) (timed : TimedRun) (stepApiMs : Option Int) (db : MetricsDatabase) :
    MetricsDatabase where
  runs :=
    match db.runs.insert (insertedMeasuredRun now timed stepApiMs) with
    | some runs => runs
    | none =>
      db.runs.update (fun row => row.id = timed.run.id) (savedMeasuredRun now timed stepApiMs)
  rollups :=
    if ClaimsProcessing timed.run (db.runs.get? timed.run.id) then
      updateHourlyRollup timed.run (runAPIResponseTime timed) db.rollups
    else db.rollups

/-- A rewriting that leaves a run under its identifier, monitor and creation time. -/
structure KeepsPlace (f : MonitorRun → MonitorRun) : Prop where
  id : ∀ row, (f row).id = row.id
  monitorId : ∀ row, (f row).monitorId = row.monitorId
  createdAt : ∀ row, (f row).createdAt = row.createdAt

theorem keepsPlace_skipRun (now : Time) : KeepsPlace (skipRun now) :=
  ⟨fun _ => rfl, fun _ => rfl, fun _ => rfl⟩

theorem keepsPlace_abortRun (now : Time) (failureReason : String) :
    KeepsPlace (abortRun now failureReason) :=
  ⟨fun _ => rfl, fun _ => rfl, fun _ => rfl⟩

theorem keepsPlace_cancelRun (now : Time) : KeepsPlace (cancelRun now) :=
  ⟨fun _ => rfl, fun _ => rfl, fun _ => rfl⟩

/-- A stored run, rewritten by `f` when its status satisfies `p`. -/
def MeasuredRun.rewrite (p : Status → Bool) (f : MonitorRun → MonitorRun) (row : MeasuredRun) :
    MeasuredRun :=
  if p row.status = true then { row with toMonitorRun := f row.toMonitorRun } else row

variable {f : MonitorRun → MonitorRun}

theorem MeasuredRun.rewrite_keepsKey {p : Status → Bool} (hf : KeepsPlace f) :
    Table.KeepsKey (fun row : MeasuredRun => row.id) (MeasuredRun.rewrite p f) := by
  refine ⟨fun row => ?_⟩
  unfold MeasuredRun.rewrite
  split
  · exact hf.id row.toMonitorRun
  · rfl

/-- `UPDATE monitor_runs … WHERE id=$1 AND …` by the status of the run. -/
def MetricsDatabase.rewriteRun (db : MetricsDatabase) (runID : RunId) (p : Status → Bool)
    (f : MonitorRun → MonitorRun) (hf : KeepsPlace f) : MetricsDatabase :=
  { db with
    runs := db.runs.update (fun row => row.id = runID) (MeasuredRun.rewrite p f)
      (MeasuredRun.rewrite_keepsKey hf) }

/-- A write to `monitor_runs`. -/
inductive MetricsWrite where
  /-- A queued run, without timings. -/
  | enqueue (runID : RunId) (request : QueueRequest)
  /-- A worker's save; the step rows it leaves sum to `stepApiMs`. -/
  | save (now : Time) (timed : TimedRun) (stepApiMs : Option Int)
  | skipOverlapping (now : Time) (runID : RunId)
  /-- `complete` with an error, or one round of `reclaimExpiredBatch`. -/
  | abort (now : Time) (failureReason : String) (runID : RunId)
  | requestCancel (now : Time) (runID : RunId)

/-- One write.  `none` when it rolls back. -/
def MetricsDatabase.write (db : MetricsDatabase) : MetricsWrite → Option MetricsDatabase
  | .enqueue runID request =>
    (db.runs.insert ⟨queuedRun runID request, none, none, none⟩).map fun runs => { db with runs }
  | .save now timed stepApiMs => some (saveMeasured now timed stepApiMs db)
  | .skipOverlapping now runID =>
    some (db.rewriteRun runID Status.isPending (skipRun now) (keepsPlace_skipRun now))
  | .abort now failureReason runID =>
    some (db.rewriteRun runID (fun status => !status.isTerminal) (abortRun now failureReason)
      (keepsPlace_abortRun now failureReason))
  | .requestCancel now runID =>
    some (db.rewriteRun runID (fun status => !status.isTerminal) (cancelRun now)
      (keepsPlace_cancelRun now))

def noMetrics : MetricsDatabase := ⟨.empty, .empty⟩

/-! ## The readers -/

/-- The status filter of `MetricSummary`. -/
def isCounted : Status → Bool
  | .queued | .starting | .running | .cancelled | .skipped => false
  | _ => true

/-- `COALESCE(mr.api_response_time_ms, mr.network_time_ms, step_times.api_ms)`. -/
def MeasuredRun.responseTime (row : MeasuredRun) : Option Int :=
  (row.apiResponseTimeMs.or row.networkTimeMs).or row.stepApiMs

/-- The part of `HistoryMetrics` that both readers compute from counts and response times. -/
structure MetricTotals where
  runCount : Nat
  measuredRunCount : Nat
  successCount : Nat
  failureCount : Nat
  timeoutCount : Nat
  averageResponseMs : Int
  minMs : Int
  maxMs : Int
  deriving DecidableEq

/-- `int64(COALESCE(AVG(value),0))`. -/
def averageResponse (values : List Int) : Int := values.sum.tdiv values.length

/-- `MetricSummary` of a window of at most 30 days. -/
def metricSummary (monitorID : MonitorId) (since : Time) (db : MetricsDatabase) : MetricTotals :=
  let base := db.runs.rows.filter fun row =>
    row.monitorId = monitorID ∧ since ≤ row.createdAt ∧ isCounted row.status = true
  let values := base.filterMap MeasuredRun.responseTime
  { runCount := base.length
    measuredRunCount := values.length
    successCount := base.countP fun row => isSuccess row.status
    failureCount := base.countP fun row => !isSuccess row.status
    timeoutCount := base.countP fun row => row.status = .timedOut
    averageResponseMs := averageResponse values
    minMs := values.min?.getD 0
    maxMs := values.max?.getD 0 }

/-- `metricRollupSummary`. -/
def metricRollupSummary (monitorID : MonitorId) (since : Time) (db : MetricsDatabase) :
    MetricTotals :=
  let hourly := db.rollups.rows.filter fun row =>
    row.monitorId = monitorID ∧ since ≤ row.bucketStart
  let values := hourly.flatMap fun row => row.apiResponseValuesMs
  { runCount := (hourly.map fun row => row.sampleCount).sum
    measuredRunCount := values.length
    successCount := (hourly.map fun row => row.successCount).sum
    failureCount := (hourly.map fun row => row.failureCount).sum
    timeoutCount := (hourly.map fun row => row.timeoutCount).sum
    averageResponseMs := averageResponse values
    minMs := values.min?.getD 0
    maxMs := values.max?.getD 0 }

/-! ## Totals -/

/-- Runs, successes, failures, timeouts and response times. -/
abbrev Totals := Nat × Nat × Nat × Nat × Multiset Int

/-- What a counted run is counted as. -/
structure Sample where
  success : Bool
  timedOut : Bool
  responseTime : Option Int
  deriving DecidableEq

def sampleOf (status : Status) (responseTime : Option Int) : Sample where
  success := isSuccess status
  timedOut := status = .timedOut
  responseTime := responseTime

def Sample.totals (sample : Sample) : Totals :=
  (1, sample.success.toNat, (!sample.success).toNat, sample.timedOut.toNat,
    sample.responseTime.toList)

/-- What `MetricSummary` counts a row as. -/
def countedAs (row : MeasuredRun) : Option Sample :=
  if isCounted row.status = true then some (sampleOf row.status row.responseTime) else none

def sampleTotals (sample : Option Sample) : Totals := (sample.map Sample.totals).getD 0

def HourlyRollup.totals (row : HourlyRollup) : Totals :=
  (row.sampleCount, row.successCount, row.failureCount, row.timeoutCount, row.apiResponseValuesMs)

/-- The totals of the rows of a monitor since a time, by `MetricSummary`. -/
def rawTotals (monitorID : MonitorId) (since : Time) (db : MetricsDatabase) : Totals :=
  db.runs.sum fun row =>
    if row.monitorId = monitorID ∧ since ≤ row.createdAt then sampleTotals (countedAs row) else 0

def rollupTotals (monitorID : MonitorId) (since : Time) (db : MetricsDatabase) : Totals :=
  db.rollups.sum fun row =>
    if row.monitorId = monitorID ∧ since ≤ row.bucketStart then row.totals else 0

/-! ## From totals to summaries -/

variable {xs ys : List Int}

theorem averageResponse_of_perm (h : xs.Perm ys) :
    averageResponse xs = averageResponse ys := by
  rw [averageResponse, averageResponse, h.sum_eq, h.length_eq]

theorem min?_of_perm (h : xs.Perm ys) : xs.min? = ys.min? := by
  refine Option.ext fun a => ?_
  simp only [List.min?_eq_some_iff, h.mem_iff]

theorem max?_of_perm (h : xs.Perm ys) : xs.max? = ys.max? := by
  refine Option.ext fun a => ?_
  simp only [List.max?_eq_some_iff, h.mem_iff]

def baseTotals (base : List MeasuredRun) : Totals :=
  (base.length, base.countP fun row => isSuccess row.status,
    base.countP fun row => !isSuccess row.status, base.countP fun row => row.status = .timedOut,
    base.filterMap MeasuredRun.responseTime)

theorem baseTotals_cons (row : MeasuredRun) (base : List MeasuredRun) :
    baseTotals (row :: base) =
      (sampleOf row.status row.responseTime).totals + baseTotals base := by
  have hvalues : ((row :: base).filterMap MeasuredRun.responseTime : Multiset Int) =
      row.responseTime.toList + (base.filterMap MeasuredRun.responseTime : Multiset Int) := by
    cases h : row.responseTime <;> simp [h]
  have hcount : ∀ p : MeasuredRun → Bool,
      (row :: base).countP p = (p row).toNat + base.countP p := by
    intro p
    cases h : p row <;> simp [h, add_comm]
  simp only [baseTotals, hvalues, hcount, Sample.totals, sampleOf, Prod.mk_add_mk,
    List.length_cons, add_comm base.length]

theorem rawTotals_eq (monitorID : MonitorId) (since : Time) (db : MetricsDatabase) :
    rawTotals monitorID since db = baseTotals (db.runs.rows.filter fun row =>
      row.monitorId = monitorID ∧ since ≤ row.createdAt ∧ isCounted row.status = true) := by
  rw [rawTotals, Table.sum]
  induction db.runs.rows with
  | nil => rfl
  | cons row rows ih =>
    rw [List.map_cons, List.sum_cons, ih, List.filter_cons]
    by_cases hwindow : row.monitorId = monitorID ∧ since ≤ row.createdAt
    · by_cases hcounted : isCounted row.status = true
      · simp [hwindow, hcounted, countedAs, sampleTotals, baseTotals_cons]
      · simp [hwindow, hcounted, countedAs, sampleTotals]
    · have hout : ¬ (row.monitorId = monitorID ∧ since ≤ row.createdAt ∧
          isCounted row.status = true) := fun h => hwindow ⟨h.1, h.2.1⟩
      simp [hwindow, hout]

theorem rollupTotals_eq (monitorID : MonitorId) (since : Time) (db : MetricsDatabase) :
    rollupTotals monitorID since db =
      let hourly := db.rollups.rows.filter fun row =>
        row.monitorId = monitorID ∧ since ≤ row.bucketStart
      ((hourly.map fun row => row.sampleCount).sum, (hourly.map fun row => row.successCount).sum,
        (hourly.map fun row => row.failureCount).sum, (hourly.map fun row => row.timeoutCount).sum,
        (hourly.flatMap fun row => row.apiResponseValuesMs : Multiset Int)) := by
  rw [rollupTotals, Table.sum]
  induction db.rollups.rows with
  | nil => rfl
  | cons row rows ih =>
    rw [List.map_cons, List.sum_cons, ih, List.filter_cons]
    by_cases hwindow : row.monitorId = monitorID ∧ since ≤ row.bucketStart
    · simp [hwindow, HourlyRollup.totals, ← Multiset.coe_add]
    · simp [hwindow]

/-- **Summaries are read off totals.** -/
theorem summaries_eq_of_totals_eq {monitorID : MonitorId} {since : Time} {db : MetricsDatabase}
    (h : rawTotals monitorID since db = rollupTotals monitorID since db) :
    metricSummary monitorID since db = metricRollupSummary monitorID since db := by
  rw [rawTotals_eq, rollupTotals_eq, baseTotals] at h
  simp only [Prod.mk.injEq, Multiset.coe_eq_coe] at h
  obtain ⟨hruns, hsuccess, hfailure, htimeout, hvalues⟩ := h
  simp only [metricSummary, metricRollupSummary, hruns, hsuccess, hfailure, htimeout,
    hvalues.length_eq, averageResponse_of_perm hvalues, min?_of_perm hvalues, max?_of_perm hvalues]

/-! ## What a write has to do to both -/

/-- The totals agree for every monitor and every window that starts on the hour. -/
def TotalsAgree (db : MetricsDatabase) : Prop :=
  ∀ monitorID since, truncHour since = since →
    rawTotals monitorID since db = rollupTotals monitorID since db

/-- The summaries agree for every monitor and every window that starts on the hour. -/
def SummariesAgree (db : MetricsDatabase) : Prop :=
  ∀ monitorID since, truncHour since = since →
    metricSummary monitorID since db = metricRollupSummary monitorID since db

/-- What the run is counted as once it is saved over `row`: the response time is the one in memory,
else the stored one, else the network total. -/
def sampleAfterSave (timed : TimedRun) (row : Option MeasuredRun) : Option Sample :=
  if isCounted timed.run.status = true then
    some (sampleOf timed.run.status
      (((runAPIResponseTime timed).or (row.bind fun row => row.apiResponseTimeMs)).or
        (some (networkTotal timed))))
  else none

/-- The write counts a run in both places or in neither.  A save that processes a run finds it not
counted yet and, unless it was cancelled, with a response time and under its own monitor and hour;
any other save leaves it counted as before; and no run is aborted that was not counted already. -/
def CountsOnce (db : MetricsDatabase) : MetricsWrite → Prop
  | .save _ timed _ =>
    let row := db.runs.get? timed.run.id
    if ClaimsProcessing timed.run row then
      row.bind countedAs = none ∧
        (timed.run.status = .cancelled ∨ (runAPIResponseTime timed).isSome = true ∧
          ∀ old ∈ row, old.monitorId = timed.run.monitorId ∧
            truncHour old.createdAt = truncHour timed.run.createdAt)
    else row.bind countedAs = sampleAfterSave timed row
  | .abort _ _ runID =>
    ∀ row ∈ db.runs.get? runID, row.status.isTerminal = false → isCounted row.status = true
  | _ => True

instance (db : MetricsDatabase) (write : MetricsWrite) : Decidable (CountsOnce db write) := by
  cases write <;> unfold CountsOnce <;> infer_instance

/-! ## One row and one rollup at a time -/

/-- The totals `x` of a run of `monitorID` created at `t`, in a window. -/
def inWindow (m : MonitorId) (since : Time) (monitorID : MonitorId) (t : Time) (x : Totals) :
    Totals :=
  if monitorID = m ∧ since ≤ t then x else 0

@[simp] theorem inWindow_zero (m : MonitorId) (since : Time) (monitorID : MonitorId) (t : Time) :
    inWindow m since monitorID t 0 = 0 :=
  ite_self 0

@[simp] theorem sampleTotals_none : sampleTotals none = 0 := rfl

/-- What a row, if there is one, adds to the totals of a window. -/
def rowTotals (m : MonitorId) (since : Time) (row : Option MeasuredRun) : Totals :=
  (row.map fun row =>
    inWindow m since row.monitorId row.createdAt (sampleTotals (countedAs row))).getD 0

/-- The row that `save` leaves, whatever was stored. -/
def storedMeasuredRun (now : Time) (timed : TimedRun) (stepApiMs : Option Int) :
    Option MeasuredRun → MeasuredRun
  | some row => savedMeasuredRun now timed stepApiMs row
  | none => insertedMeasuredRun now timed stepApiMs

/-- What `save` adds to the rollups: a sample with the response time in memory. -/
def addedSample (timed : TimedRun) (row : Option MeasuredRun) : Option Sample :=
  if ClaimsProcessing timed.run row ∧ timed.run.status ≠ .cancelled then
    some (sampleOf timed.run.status (runAPIResponseTime timed))
  else none

variable {db db' : MetricsDatabase} {m : MonitorId} {since : Time} {now : Time} {timed : TimedRun}
  {stepApiMs : Option Int}

theorem le_truncHour_iff (h : truncHour since = since) (t : Time) :
    since ≤ truncHour t ↔ since ≤ t := by
  have hnat : ∀ a b : Nat, a / 3600000 * 3600000 = a → (a ≤ b / 3600000 * 3600000 ↔ a ≤ b) := by
    omega
  exact hnat since t h

theorem rawTotals_save :
    rawTotals m since (saveMeasured now timed stepApiMs db) +
        rowTotals m since (db.runs.get? timed.run.id) =
      rawTotals m since db + rowTotals m since
        (some (storedMeasuredRun now timed stepApiMs (db.runs.get? timed.run.id))) := by
  cases hrow : db.runs.get? timed.run.id with
  | none =>
    cases hinsert : db.runs.insert (insertedMeasuredRun now timed stepApiMs) with
    | none =>
      obtain ⟨row, hmem⟩ := Table.insert_eq_none_iff.mp hinsert
      have hid : (insertedMeasuredRun now timed stepApiMs).id = timed.run.id := rfl
      rw [hid, hrow] at hmem
      contradiction
    | some runs =>
      have hruns : (saveMeasured now timed stepApiMs db).runs = runs := by
        simp only [saveMeasured, hinsert]
      rw [rawTotals, hruns, Table.sum_insert hinsert]
      simp [rowTotals, rawTotals, inWindow, storedMeasuredRun]
  | some row =>
    have hinsert : db.runs.insert (insertedMeasuredRun now timed stepApiMs) = none :=
      Table.insert_eq_none_iff.mpr ⟨row, hrow⟩
    have hruns : (saveMeasured now timed stepApiMs db).runs = db.runs.update
        (fun row => row.id = timed.run.id) (savedMeasuredRun now timed stepApiMs) := by
      simp only [saveMeasured, hinsert]
    have hkeeps : Table.KeepsKey (fun row : MeasuredRun => row.id)
        (savedMeasuredRun now timed stepApiMs) := ⟨fun _ => rfl⟩
    rw [rawTotals, hruns]
    exact Table.sum_update_key hkeeps hrow

theorem totals_rollupOf (run : MonitorRun) (apiResponse : Option Int) :
    (rollupOf run apiResponse).totals = (sampleOf run.status apiResponse).totals := by
  grind [HourlyRollup.totals, rollupOf, Sample.totals, sampleOf]

theorem totals_addRollup (run : MonitorRun) (apiResponse : Option Int) (row : HourlyRollup) :
    (addRollup (rollupOf run apiResponse) row).totals =
      row.totals + (rollupOf run apiResponse).totals := by
  simp [HourlyRollup.totals, addRollup, rollupOf, ← Multiset.coe_add]

theorem rollupTotals_save :
    rollupTotals m since (saveMeasured now timed stepApiMs db) =
      rollupTotals m since db + inWindow m since timed.run.monitorId (truncHour timed.run.createdAt)
        (sampleTotals (addedSample timed (db.runs.get? timed.run.id))) := by
  simp only [rollupTotals, saveMeasured, addedSample, updateHourlyRollup]
  by_cases hclaims : ClaimsProcessing timed.run (db.runs.get? timed.run.id)
  · by_cases hcancelled : timed.run.status = .cancelled
    · simp [hclaims, hcancelled]
    · rw [if_pos hclaims, if_neg hcancelled, if_pos ⟨hclaims, hcancelled⟩, sampleTotals,
        Option.map_some, Option.getD_some, ← totals_rollupOf]
      refine Table.sum_upsert fun old _ hkey => ?_
      obtain ⟨hmonitor, hbucket⟩ := Prod.mk.inj hkey
      generalize hnew : rollupOf timed.run (runAPIResponseTime timed) = new at *
      have hkept : (addRollup new old).monitorId = old.monitorId ∧
          (addRollup new old).bucketStart = old.bucketStart := ⟨rfl, rfl⟩
      rw [hkept.1, hkept.2, ← hnew, totals_addRollup, hnew, hmonitor, hbucket]
      by_cases hwindow : new.monitorId = m ∧ since ≤ new.bucketStart <;> simp [hwindow]
  · simp [hclaims]

/-! ## What keeps the totals equal -/

theorem truncHour_truncHour (t : Time) : truncHour (truncHour t) = truncHour t := by
  have hnat : ∀ a : Nat, a / 3600000 * 3600000 / 3600000 * 3600000 = a / 3600000 * 3600000 := by
    omega
  exact hnat t

theorem truncHour_le (t : Time) : truncHour t ≤ t := Nat.div_mul_le_self t 3600000

theorem inWindow_truncHour (h : truncHour since = since) (monitorID : MonitorId) (t : Time)
    (x : Totals) : inWindow m since monitorID (truncHour t) x = inWindow m since monitorID t x := by
  simp only [inWindow, le_truncHour_iff h]

theorem inWindow_self {t : Time} (h : since ≤ t) (x : Totals) : inWindow m since m t x = x :=
  if_pos ⟨rfl, h⟩

theorem sampleTotals_fst (sample : Option Sample) :
    (sampleTotals sample).1 = if sample = none then 0 else 1 := by
  cases sample <;> rfl

theorem sampleTotals_inj {a b : Option Sample} : sampleTotals a = sampleTotals b ↔ a = b := by
  refine ⟨fun h => ?_, fun h => by rw [h]⟩
  cases a with
  | none =>
    cases b with
    | none => rfl
    | some b => exact absurd (congrArg Prod.fst h) (by simp [sampleTotals_fst])
  | some a =>
    cases b with
    | none => exact absurd (congrArg Prod.fst h) (by simp [sampleTotals_fst])
    | some b =>
      obtain ⟨success, timedOut, responseTime⟩ := a
      obtain ⟨success', timedOut', responseTime'⟩ := b
      simp only [sampleTotals, Option.map_some, Option.getD_some, Sample.totals, Prod.mk.injEq] at h
      obtain ⟨-, hsuccess, -, htimeout, hvalue⟩ := h
      have hresponse : responseTime = responseTime' := by
        cases responseTime <;> cases responseTime' <;> simp_all
      have hbool : ∀ a b : Bool, a.toNat = b.toNat → a = b := by decide
      rw [hbool _ _ hsuccess, hbool _ _ htimeout, hresponse]

/-- **When a row and a rollup change alike.**  A row that counted as `before` counts as `after`, and
`added` goes to the rollup of the run's hour: in every window both change by the same, exactly when
nothing is added and nothing changes, or the row was not counted and both have the new sample in
one hour of one monitor. -/
theorem balanced_iff {monitorID monitorID' : MonitorId} {t t' : Time}
    {before after added : Option Sample} :
    (∀ m since, truncHour since = since →
      inWindow m since monitorID t (sampleTotals after) =
        inWindow m since monitorID t (sampleTotals before) +
          inWindow m since monitorID' t' (sampleTotals added)) ↔
      if added = none then before = after
      else before = none ∧ after = added ∧ monitorID = monitorID' ∧ truncHour t = truncHour t' := by
  have hzero : truncHour 0 = 0 := rfl
  cases added with
  | none =>
    rw [if_pos rfl]
    constructor
    · intro h
      have hall := h monitorID 0 hzero
      rw [inWindow_self (Nat.zero_le t), inWindow_self (Nat.zero_le t), sampleTotals_none,
        inWindow_zero, add_zero, sampleTotals_inj] at hall
      exact hall.symm
    · rintro rfl
      intro m since _
      rw [sampleTotals_none, inWindow_zero, add_zero]
  | some sample =>
    rw [if_neg (Option.some_ne_none sample)]
    have hone : (sampleTotals (some sample)).1 = 1 := rfl
    constructor
    · intro h
      -- where the row is not counted, neither is the sample of the rollup
      have hmonitor : monitorID = monitorID' := by
        by_contra hne
        have hother := congrArg Prod.fst (h monitorID' 0 hzero)
        rw [inWindow_self (Nat.zero_le t'), Prod.fst_add, hone] at hother
        simp [inWindow, hne] at hother
      subst hmonitor
      have hall := h monitorID 0 hzero
      rw [inWindow_self (Nat.zero_le t), inWindow_self (Nat.zero_le t),
        inWindow_self (Nat.zero_le t')] at hall
      have hcount := congrArg Prod.fst hall
      rw [Prod.fst_add, sampleTotals_fst, sampleTotals_fst, hone] at hcount
      have hbefore : before = none := by
        by_contra hsome
        rw [if_neg hsome] at hcount
        split at hcount <;> omega
      subst hbefore
      rw [sampleTotals_none, zero_add, sampleTotals_inj] at hall
      subst hall
      have hle : ∀ u u' : Time, (∀ since, truncHour since = since → (since ≤ u ↔ since ≤ u')) →
          truncHour u ≤ truncHour u' := fun u u' hiff =>
        (le_truncHour_iff (truncHour_truncHour u) u').mpr
          ((hiff _ (truncHour_truncHour u)).mp (truncHour_le u))
      have hiff : ∀ since, truncHour since = since → (since ≤ t ↔ since ≤ t') := by
        intro since hsince
        have hwindow := congrArg Prod.fst (h monitorID since hsince)
        by_cases ht : since ≤ t
        · by_cases ht' : since ≤ t'
          · simp [ht, ht']
          · simp [inWindow, ht, ht', hone] at hwindow
        · by_cases ht' : since ≤ t'
          · simp [inWindow, ht, ht', hone] at hwindow
          · simp [ht, ht']
      refine ⟨rfl, rfl, rfl, Nat.le_antisymm (hle t t' hiff) (hle t' t ?_)⟩
      exact fun since hsince => (hiff since hsince).symm
    · rintro ⟨rfl, rfl, rfl, hhour⟩
      intro m since hsince
      rw [sampleTotals_none, inWindow_zero, zero_add, ← inWindow_truncHour hsince, hhour,
        inWindow_truncHour hsince]

/-! ## One write -/

theorem countedAs_storedMeasuredRun (now : Time) (timed : TimedRun) (stepApiMs : Option Int)
    (row : Option MeasuredRun) :
    countedAs (storedMeasuredRun now timed stepApiMs row) = sampleAfterSave timed row := by
  cases row with
  | none => simp [countedAs, storedMeasuredRun, insertedMeasuredRun, insertedRow,
      claimTerminalProcessing, MeasuredRun.responseTime, sampleAfterSave]
  | some row => simp [countedAs, storedMeasuredRun, savedMeasuredRun, MeasuredRun.responseTime,
      sampleAfterSave]

theorem isCounted_of_isTerminal {status : Status} (h : status.isTerminal = true)
    (hcancelled : status ≠ .cancelled) : isCounted status = true := by
  cases status <;> simp_all [isCounted, Status.isTerminal]

theorem countsOnce_save_iff :
    CountsOnce db (.save now timed stepApiMs) ↔
      let row := db.runs.get? timed.run.id
      if addedSample timed row = none then row.bind countedAs = sampleAfterSave timed row
      else row.bind countedAs = none ∧ sampleAfterSave timed row = addedSample timed row ∧
        ∀ old ∈ row, old.monitorId = timed.run.monitorId ∧
          truncHour old.createdAt = truncHour timed.run.createdAt := by
  simp only [CountsOnce]
  generalize db.runs.get? timed.run.id = row
  by_cases hclaims : ClaimsProcessing timed.run row
  · rw [if_pos hclaims]
    by_cases hcancelled : timed.run.status = .cancelled
    · grind [addedSample, sampleAfterSave, isCounted]
    · have hadded : addedSample timed row =
          some (sampleOf timed.run.status (runAPIResponseTime timed)) :=
        if_pos ⟨hclaims, hcancelled⟩
      have hcounted := isCounted_of_isTerminal hclaims.2.1 hcancelled
      have hafter : sampleAfterSave timed row = addedSample timed row ↔
          (runAPIResponseTime timed).isSome = true := by
        rw [hadded, sampleAfterSave, if_pos hcounted]
        cases runAPIResponseTime timed <;> simp [sampleOf]
      rw [if_neg (by simp [hadded]), hafter]
      simp [hcancelled]
  · have hnone : addedSample timed row = none := if_neg fun h => hclaims h.1
    rw [if_neg hclaims, if_pos hnone]

/-- Where a saved run counts: a stored run under its own monitor and creation time, a new one under
those in memory. -/
theorem rowTotals_save (now : Time) (timed : TimedRun) (stepApiMs : Option Int)
    (row : Option MeasuredRun) :
    ∃ monitorID t,
      (∀ m since, rowTotals m since row =
        inWindow m since monitorID t (sampleTotals (row.bind countedAs))) ∧
      (∀ m since, rowTotals m since (some (storedMeasuredRun now timed stepApiMs row)) =
        inWindow m since monitorID t (sampleTotals (sampleAfterSave timed row))) ∧
      ((monitorID = timed.run.monitorId ∧ truncHour t = truncHour timed.run.createdAt) ↔
        ∀ old ∈ row, old.monitorId = timed.run.monitorId ∧
          truncHour old.createdAt = truncHour timed.run.createdAt) := by
  cases row with
  | none =>
    refine ⟨timed.run.monitorId, timed.run.createdAt, ?_, ?_, ?_⟩
    · simp [rowTotals]
    · intro m since
      rw [← countedAs_storedMeasuredRun now timed stepApiMs]
      rfl
    · simp
  | some row =>
    refine ⟨row.monitorId, row.createdAt, ?_, ?_, ?_⟩
    · simp [rowTotals]
    · intro m since
      rw [← countedAs_storedMeasuredRun now timed stepApiMs]
      rfl
    · simp

/-- **A save** keeps the totals equal exactly when it counts the run once. -/
theorem totalsAgree_save_iff (h : TotalsAgree db) :
    TotalsAgree (saveMeasured now timed stepApiMs db) ↔
      CountsOnce db (.save now timed stepApiMs) := by
  obtain ⟨monitorID, t, hbefore, hafter, hplace⟩ :=
    rowTotals_save now timed stepApiMs (db.runs.get? timed.run.id)
  have hchange : TotalsAgree (saveMeasured now timed stepApiMs db) ↔
      ∀ m since, truncHour since = since →
        inWindow m since monitorID t
            (sampleTotals (sampleAfterSave timed (db.runs.get? timed.run.id))) =
          inWindow m since monitorID t
            (sampleTotals ((db.runs.get? timed.run.id).bind countedAs)) +
          inWindow m since timed.run.monitorId (truncHour timed.run.createdAt)
            (sampleTotals (addedSample timed (db.runs.get? timed.run.id))) := by
    refine forall_congr' fun m => forall_congr' fun since => forall_congr' fun hsince => ?_
    rw [rollupTotals_save, ← h m since hsince, ← hbefore, ← hafter,
      ← add_left_inj (rowTotals m since (db.runs.get? timed.run.id)), rawTotals_save, add_assoc,
      add_right_inj, add_comm (inWindow _ _ _ _ _)]
  rw [hchange, balanced_iff, countsOnce_save_iff, truncHour_truncHour]
  simp only [hplace]

/-- **A rewriting of a stored run** keeps the totals equal exactly when the run stays counted as
before. -/
theorem totalsAgree_rewriteRun_iff {runID : RunId} {p : Status → Bool}
    {hf : KeepsPlace f} (h : TotalsAgree db) :
    TotalsAgree (db.rewriteRun runID p f hf) ↔
      ∀ row ∈ db.runs.get? runID, countedAs row = countedAs (row.rewrite p f) := by
  cases hrow : db.runs.get? runID with
  | none =>
    refine iff_of_true (fun m since hsince => ?_) (by simp)
    have hsame : rawTotals m since (db.rewriteRun runID p f hf) = rawTotals m since db := by
      rw [rawTotals, MetricsDatabase.rewriteRun]
      refine Table.sum_update_key_of_eq (MeasuredRun.rewrite_keepsKey hf) fun row hget => ?_
      rw [hrow] at hget
      contradiction
    rw [hsame]
    exact h m since hsince
  | some row =>
    have hrewrite : (row.rewrite p f).monitorId = row.monitorId ∧
        (row.rewrite p f).createdAt = row.createdAt := by
      unfold MeasuredRun.rewrite
      split
      · exact ⟨hf.monitorId row.toMonitorRun, hf.createdAt row.toMonitorRun⟩
      · exact ⟨rfl, rfl⟩
    have hraw : ∀ m since, rawTotals m since (db.rewriteRun runID p f hf) +
        inWindow m since row.monitorId row.createdAt (sampleTotals (countedAs row)) =
        rawTotals m since db + inWindow m since row.monitorId row.createdAt
          (sampleTotals (countedAs (row.rewrite p f))) := by
      intro m since
      rw [rawTotals, MetricsDatabase.rewriteRun]
      refine (Table.sum_update_key (MeasuredRun.rewrite_keepsKey hf) hrow).trans ?_
      rw [hrewrite.1, hrewrite.2]
      rfl
    have hchange : TotalsAgree (db.rewriteRun runID p f hf) ↔
        ∀ m since, truncHour since = since →
          inWindow m since row.monitorId row.createdAt
              (sampleTotals (countedAs (row.rewrite p f))) =
            inWindow m since row.monitorId row.createdAt (sampleTotals (countedAs row)) +
            inWindow m since row.monitorId row.createdAt (sampleTotals none) := by
      refine forall_congr' fun m => forall_congr' fun since => forall_congr' fun hsince => ?_
      have hrollups : rollupTotals m since (db.rewriteRun runID p f hf) =
          rollupTotals m since db := rfl
      rw [hrollups, ← h m since hsince, ← add_left_inj (inWindow m since row.monitorId
        row.createdAt (sampleTotals (countedAs row))), hraw, add_right_inj, sampleTotals_none,
        inWindow_zero, add_zero]
    rw [hchange, balanced_iff, if_pos rfl]
    simp

theorem countedAs_of_not_isCounted {row : MeasuredRun} (h : isCounted row.status = false) :
    countedAs row = none := by
  rw [countedAs, h, if_neg Bool.false_ne_true]

theorem countedAs_skip (now : Time) (row : MeasuredRun) :
    countedAs row = countedAs (row.rewrite Status.isPending (skipRun now)) := by
  unfold MeasuredRun.rewrite
  split
  · rename_i hpending
    have hbefore : isCounted row.status = false := by
      cases h : row.status <;> simp_all [isCounted, Status.isPending]
    rw [countedAs_of_not_isCounted hbefore, countedAs_of_not_isCounted rfl]
  · rfl

theorem countedAs_cancel (now : Time) (row : MeasuredRun) :
    countedAs row =
      countedAs (row.rewrite (fun status => !status.isTerminal) (cancelRun now)) := by
  unfold MeasuredRun.rewrite
  split
  · cases hpending : row.status.isPending with
    | false =>
      have hstatus : (cancelRun now row.toMonitorRun).status = row.status := by
        simp [cancelRun, hpending]
      simp only [countedAs, hstatus]
      rfl
    | true =>
      have hbefore : isCounted row.status = false := by
        cases h : row.status <;> simp_all [isCounted, Status.isPending]
      have hafter : isCounted (cancelRun now row.toMonitorRun).status = false := by
        simp [cancelRun, hpending, isCounted]
      rw [countedAs_of_not_isCounted hbefore, countedAs_of_not_isCounted hafter]
  · rfl

/-- An aborted run is counted as a failure; so is, among the unfinished ones, a run that is
counted at all. -/
theorem countedAs_abort_iff (now : Time) (failureReason : String) (row : MeasuredRun) :
    countedAs row = countedAs
        (row.rewrite (fun status => !status.isTerminal) (abortRun now failureReason)) ↔
      (row.status.isTerminal = false → isCounted row.status = true) := by
  cases hterminal : row.status.isTerminal with
  | true =>
    have hsame : row.rewrite (fun status => !status.isTerminal) (abortRun now failureReason) =
        row := if_neg (by simp [hterminal])
    simp [hsame]
  | false =>
    have haborted : row.rewrite (fun status => !status.isTerminal) (abortRun now failureReason) =
        { row with toMonitorRun := abortRun now failureReason row.toMonitorRun } :=
      if_pos (by simp [hterminal])
    have hafter : countedAs
        { row with toMonitorRun := abortRun now failureReason row.toMonitorRun } =
          some (sampleOf .aborted row.responseTime) := rfl
    rw [haborted, hafter]
    cases hcounted : isCounted row.status with
    | false => simp [countedAs_of_not_isCounted hcounted]
    | true =>
      have hsample : ∀ status : Status, status.isTerminal = false → isCounted status = true →
          ∀ value, sampleOf status value = sampleOf .aborted value := by
        intro status _ _ value
        cases status <;> simp_all [isCounted, Status.isTerminal, sampleOf, isSuccess]
      simp [countedAs, hcounted, hsample row.status hterminal hcounted]

/-- **One write** keeps the totals equal exactly when it counts the run once. -/
theorem totalsAgree_write_iff {write : MetricsWrite} (h : TotalsAgree db)
    (hstep : db.write write = some db') : TotalsAgree db' ↔ CountsOnce db write := by
  cases write with
  | enqueue runID request =>
    rw [MetricsDatabase.write, Option.map_eq_some_iff] at hstep
    obtain ⟨runs, hinsert, rfl⟩ := hstep
    refine iff_of_true (fun m since hsince => ?_) trivial
    rw [rawTotals, Table.sum_insert hinsert]
    have hnone : countedAs ⟨queuedRun runID request, none, none, none⟩ = none := rfl
    rw [hnone, sampleTotals_none, ite_self, add_zero]
    exact h m since hsince
  | save now timed stepApiMs =>
    cases hstep
    exact totalsAgree_save_iff h
  | skipOverlapping now runID =>
    cases hstep
    exact iff_of_true
      ((totalsAgree_rewriteRun_iff h).mpr fun row _ => countedAs_skip now row) trivial
  | abort now failureReason runID =>
    cases hstep
    rw [totalsAgree_rewriteRun_iff h]
    simp only [countedAs_abort_iff, CountsOnce]
  | requestCancel now runID =>
    cases hstep
    exact iff_of_true
      ((totalsAgree_rewriteRun_iff h).mpr fun row _ => countedAs_cancel now row) trivial

/-! ## Runs of writes -/

theorem totalsAgree_noMetrics : TotalsAgree noMetrics := fun _ _ _ => rfl

/-- **When the totals agree.**  Whatever is written, and in whatever order, the rows and the rollups
have the same totals in every state exactly when every write counts its run in both or in
neither. -/
theorem totals_agree_iff_countsOnce (writes : List MetricsWrite) :
    Along MetricsDatabase.write (fun _ _ db' => TotalsAgree db') noMetrics writes ↔
      Along MetricsDatabase.write (fun db write _ => CountsOnce db write) noMetrics writes :=
  along_state_iff_along (I := fun _ => True) (fun _ _ _ _ _ => trivial)
    (fun _ _ _ _ h hstep => totalsAgree_write_iff h hstep) trivial totalsAgree_noMetrics

/-- **Rolled-up and raw metrics agree** in every state of a run whose writes all count their run
once: counts, measured response times, minimum, maximum and average, for every monitor and every
window that starts on the hour. -/
theorem summaries_agree (writes : List MetricsWrite)
    (hcounts :
      Along MetricsDatabase.write (fun db write _ => CountsOnce db write) noMetrics writes) :
    Along MetricsDatabase.write (fun _ _ db' => SummariesAgree db') noMetrics writes := by
  refine Along.mono (fun _ _ db' _ h => ?_) ((totals_agree_iff_countsOnce writes).mpr hcounts)
  exact fun monitorID since hsince => summaries_eq_of_totals_eq (h monitorID since hsince)

def measuredRequest : QueueRequest where
  monitorId := 1
  revisionId := 1
  published := true
  triggerType := some .scheduled
  concurrencyPolicy := none
  deduplication := none
  queuedAt := 5
  recoverySafe := false

/-- The execution in the memory of its worker, with the steps it made. -/
def measuredExecution (status : Status) (steps : List TimedStep) : TimedRun where
  run := { queuedRun 1 measuredRequest with status := status }
  apiResponseTimeMs := none
  steps := steps

def answeredStep : TimedStep := ⟨[("apiResponseTimeMs", .num 120)], []⟩

/-- A scheduled run that succeeds with a response time is counted once by each of its saves. -/
theorem summaries_agree_answered :
    Along MetricsDatabase.write (fun _ _ db' => SummariesAgree db') noMetrics
      [.enqueue 1 measuredRequest, .save 6 (measuredExecution .running []) none,
        .save 9 (measuredExecution .success [answeredStep]) (some 120)] :=
  summaries_agree _ (by decide +kernel)

/-- A scheduled run that fails before its first request has no response time: `MetricSummary`
counts the network total `0` as one, the rollup counts none. -/
theorem summaries_differ_unanswered :
    ∃ db, runActions MetricsDatabase.write noMetrics
        [.enqueue 1 measuredRequest, .save 9 (measuredExecution .failed []) none] = some db ∧
      truncHour 0 = 0 ∧ (metricSummary 1 0 db).measuredRunCount = 1 ∧
      (metricRollupSummary 1 0 db).measuredRunCount = 0 := by
  refine ⟨_, rfl, rfl, ?_, ?_⟩
  · decide +kernel
  · decide +kernel

end Rhythm.Storage
