import Mathlib.Algebra.Ring.Int.Defs
import Rhythm.Storage.RunRepository

/-!
# Rhythm.Storage.Rollups

The hourly rollups of a monitor's runs (`monitor_metric_rollups_hourly`).  A
processed run is added to the row of its hour by one upsert; the row counts
the runs, sums and collects their response times, and keeps the least and the
greatest of them.

`rollups_exact`: whatever runs are processed, in whatever order, the columns
of every row agree with each other and with the collected response times.
-/

namespace Rhythm.Storage

open Runs

/-! ## Rows -/

/-- The first millisecond of the hour of `t`: `date_trunc('hour', t)`. -/
def truncHour (t : Time) : Time := t / 3600000 * 3600000

/-- A row of `monitor_metric_rollups_hourly`. -/
structure HourlyRollup where
  monitorId : MonitorId
  revisionId : RevisionId
  bucketStart : Time
  sampleCount : Nat
  successCount : Nat
  failureCount : Nat
  timeoutCount : Nat
  apiResponseSumMs : Int
  apiResponseMinMs : Option Int
  apiResponseMaxMs : Option Int
  apiResponseValuesMs : List Int
  deriving DecidableEq

def HourlyRollup.key (row : HourlyRollup) : MonitorId × Time := (row.monitorId, row.bucketStart)

/-- `monitor_metric_rollups_hourly`. -/
abbrev RollupTable := Table HourlyRollup HourlyRollup.key

/-! ## The upsert -/

/-- `SUCCESS` and `SUCCESS_WITH_WARNINGS`. -/
def isSuccess : Status → Bool
  | .success | .successWithWarnings => true
  | _ => false

/-- The row a run is inserted with when its hour has none. -/
def rollupOf (run : MonitorRun) (apiResponse : Option Int) : HourlyRollup where
  monitorId := run.monitorId
  revisionId := run.revisionId
  bucketStart := truncHour run.createdAt
  sampleCount := 1
  successCount := if isSuccess run.status then 1 else 0
  failureCount := if isSuccess run.status then 0 else 1
  timeoutCount := if run.status = .timedOut then 1 else 0
  apiResponseSumMs := apiResponse.getD 0
  apiResponseMinMs := apiResponse
  apiResponseMaxMs := apiResponse
  apiResponseValuesMs := apiResponse.toList

/-- `ON CONFLICT (monitor_id, bucket_start) DO UPDATE`: the row of the hour with the `EXCLUDED` one
added.  `LEAST` and `GREATEST` ignore a `NULL`; the revision stays the first one's. -/
def addRollup (excluded row : HourlyRollup) : HourlyRollup :=
  { row with
    sampleCount := row.sampleCount + 1
    successCount := row.successCount + excluded.successCount
    failureCount := row.failureCount + excluded.failureCount
    timeoutCount := row.timeoutCount + excluded.timeoutCount
    apiResponseSumMs := row.apiResponseSumMs + excluded.apiResponseSumMs
    apiResponseMinMs :=
      if excluded.apiResponseMinMs = none then row.apiResponseMinMs
      else row.apiResponseMinMs.merge min excluded.apiResponseMinMs
    apiResponseMaxMs :=
      if excluded.apiResponseMaxMs = none then row.apiResponseMaxMs
      else row.apiResponseMaxMs.merge max excluded.apiResponseMaxMs
    apiResponseValuesMs := row.apiResponseValuesMs ++ excluded.apiResponseValuesMs }

theorem addRollup_keepsKey (excluded : HourlyRollup) :
    Table.KeepsKey HourlyRollup.key (addRollup excluded) :=
  ⟨fun _ => rfl⟩

/-- `updateHourlyRollup`: a cancelled run is left out. -/
def updateHourlyRollup (run : MonitorRun) (apiResponse : Option Int) (rollups : RollupTable) :
    RollupTable :=
  if run.status = .cancelled then rollups
  else rollups.upsert addRollup addRollup_keepsKey (rollupOf run apiResponse)

/-! ## Exact rows -/

/-- `bound` is `NULL` exactly when there are no values, and otherwise the value that comes before
all of them: the least one for `≤`, the greatest one for `≥`. -/
def Extreme (before : Int → Int → Prop) (bound : Option Int) (values : List Int) : Prop :=
  (bound = none ↔ values = []) ∧
    ∀ b, bound = some b → b ∈ values ∧ ∀ value ∈ values, before b value

/-- The columns of a row agree: counts with counts, the sum and both bounds with the values. -/
structure HourlyRollup.Exact (row : HourlyRollup) : Prop where
  sample : row.sampleCount = row.successCount + row.failureCount
  timeout : row.timeoutCount ≤ row.failureCount
  measured : row.apiResponseValuesMs.length ≤ row.sampleCount
  sum : row.apiResponseSumMs = row.apiResponseValuesMs.sum
  min : Extreme (· ≤ ·) row.apiResponseMinMs row.apiResponseValuesMs
  max : Extreme (· ≥ ·) row.apiResponseMaxMs row.apiResponseValuesMs

section Extreme

variable {before : Int → Int → Prop} {pick : Int → Int → Int} {bound : Option Int}
  {values : List Int}

theorem extreme_toList (hrefl : ∀ a, before a a) (value : Option Int) :
    Extreme before value value.toList := by
  cases value with
  | none => simp [Extreme]
  | some v => simp [Extreme, hrefl]

theorem Extreme.append (h : Extreme before bound values)
    (hrefl : ∀ a, before a a) (htrans : ∀ a b c, before a b → before b c → before a c)
    (hpick : ∀ a b, pick a b = a ∨ pick a b = b)
    (hleft : ∀ a b, before (pick a b) a) (hright : ∀ a b, before (pick a b) b)
    (value : Option Int) :
    Extreme before (if value = none then bound else bound.merge pick value)
      (values ++ value.toList) := by
  obtain ⟨hnull, hfirst⟩ := h
  cases value with
  | none => simpa using ⟨hnull, hfirst⟩
  | some v =>
    rw [if_neg (Option.some_ne_none v), Option.toList_some]
    cases bound with
    | none =>
      rw [hnull.mp rfl, List.nil_append]
      exact extreme_toList hrefl (some v)
    | some b =>
      obtain ⟨hmem, hbefore⟩ := hfirst b rfl
      refine ⟨by simp, ?_⟩
      intro b' hb'
      have hb' : pick b v = b' := Option.some.inj hb'
      subst hb'
      constructor
      · rcases hpick b v with h | h
        · simp [h, hmem]
        · simp [h]
      · grind

end Extreme

theorem exact_rollupOf (run : MonitorRun) (apiResponse : Option Int) :
    (rollupOf run apiResponse).Exact where
  sample := by by_cases h : isSuccess run.status = true <;> simp [rollupOf, h]
  timeout := by
    by_cases h : run.status = .timedOut
    · simp [rollupOf, h, isSuccess]
    · simp [rollupOf, h]
  measured := by cases apiResponse <;> simp [rollupOf]
  sum := by cases apiResponse <;> simp [rollupOf]
  min := extreme_toList Int.le_refl apiResponse
  max := by
    refine extreme_toList ?_ apiResponse
    exact Int.le_refl

/-- **The step.**  An exact row stays exact when a run is added to it. -/
theorem HourlyRollup.Exact.addRollup {row : HourlyRollup} (h : row.Exact) (run : MonitorRun)
    (apiResponse : Option Int) : (addRollup (rollupOf run apiResponse) row).Exact := by
  have hnew := exact_rollupOf run apiResponse
  constructor
  case sample =>
    have hone : 1 = (rollupOf run apiResponse).successCount +
        (rollupOf run apiResponse).failureCount := hnew.sample
    simp only [Storage.addRollup, h.sample]
    omega
  case timeout => exact Nat.add_le_add h.timeout hnew.timeout
  case measured =>
    simp only [Storage.addRollup, List.length_append]
    exact Nat.add_le_add h.measured hnew.measured
  case sum =>
    simp only [Storage.addRollup, List.sum_append, h.sum, hnew.sum]
  case min =>
    exact h.min.append Int.le_refl (fun _ _ _ => Int.le_trans) (fun _ _ => by omega)
      (fun _ _ => Int.min_le_left ..) (fun _ _ => Int.min_le_right ..) apiResponse
  case max =>
    exact h.max.append Int.le_refl (fun _ _ _ hab hbc => Int.le_trans hbc hab)
      (fun _ _ => by omega) (fun _ _ => Int.le_max_left ..) (fun _ _ => Int.le_max_right ..)
      apiResponse

theorem exact_updateHourlyRollup {rollups : RollupTable} (h : ∀ row ∈ rollups, row.Exact)
    (run : MonitorRun) (apiResponse : Option Int) :
    ∀ row ∈ updateHourlyRollup run apiResponse rollups, row.Exact := by
  rw [updateHourlyRollup]
  split
  · exact h
  · exact Table.forall_mem_upsert h (exact_rollupOf run apiResponse)
      fun old _ _ hold => hold.addRollup run apiResponse

/-- The rollups after the runs of the list were processed, each with its response time. -/
def rollupsOf (processed : List (MonitorRun × Option Int)) : RollupTable :=
  processed.foldl (fun rollups p => updateHourlyRollup p.1 p.2 rollups) .empty

/-- **Hourly rollups are exact.**  Whatever runs were processed, with and without a response time
and in any order, every row's counts, sum, minimum and maximum agree with its values. -/
theorem rollups_exact (processed : List (MonitorRun × Option Int)) :
    ∀ row ∈ rollupsOf processed, row.Exact := by
  suffices hfold : ∀ rollups : RollupTable, (∀ row ∈ rollups, row.Exact) →
      ∀ row ∈ processed.foldl (fun rollups p => updateHourlyRollup p.1 p.2 rollups) rollups,
        row.Exact from
    hfold .empty fun row hrow => absurd hrow (Table.not_mem_empty row)
  induction processed with
  | nil => exact fun _ h => h
  | cons p processed ih =>
    intro rollups h
    rw [List.foldl_cons]
    exact ih _ (exact_updateHourlyRollup h p.1 p.2)

def processedRun (runID : RunId) (status : Status) : MonitorRun where
  id := runID
  monitorId := 1
  revisionId := 1
  status := status
  triggerType := .scheduled
  failureCategory := ""
  failureReason := ""
  failedStepId := ""
  durationMs := 120
  startedAt := some 7200000
  endedAt := some 7200120
  createdAt := 7200000
  cancelRequestedAt := none
  terminalProcessedAt := some 7200120

theorem rollups_exact_sample :
    ∃ row ∈ rollupsOf [(processedRun 1 .success, some 120), (processedRun 2 .timedOut, none)],
      row.sampleCount = 2 ∧ row.Exact := by
  have hrow : ⟨1, 1, 7200000, 2, 1, 1, 1, 120, some 120, some 120, [120]⟩ ∈
      rollupsOf [(processedRun 1 .success, some 120), (processedRun 2 .timedOut, none)] :=
    Table.mem_of_get? (k := (1, 7200000)) (by decide)
  exact ⟨_, hrow, rfl, rollups_exact _ _ hrow⟩

end Rhythm.Storage
