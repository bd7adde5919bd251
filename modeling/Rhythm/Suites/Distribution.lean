import Mathlib.Data.List.Sort
import Rhythm.Numeric
import Rhythm.Runs.Timing

/-!
# Rhythm.Suites.Distribution

What a deployment gate knows of a series of executions: the counts of their
outcomes and the distribution of their response times (`summarize`), and how
two distributions compare (`classify`).

Rates and percentages are exact rationals where the code has floats.
-/

namespace Rhythm.Suites

open Runs Numeric

/-! ## Metric points -/

/-- `HistoryStepMetricPoint`. -/
structure HistoryStepMetricPoint where
  stepDefinitionId : String
  stepName : String
  stepType : String
  status : Status
  apiResponseTimeMs : Option Int
  deriving DecidableEq

/-- `HistoryMetricPoint`, without the timings that the gate does not read. -/
structure HistoryMetricPoint where
  runId : RunId
  revisionId : RevisionId
  status : Status
  failureCategory : String
  createdAt : Time
  apiResponseTimeMs : Option Int
  executionDurationMs : Int
  steps : List HistoryStepMetricPoint
  deriving DecidableEq

/-- `metricPoint`: the steps with a recorded response time, and their total. -/
def metricPoint (run : ExecutedRun) : HistoryMetricPoint :=
  let steps := run.steps.filterMap fun step =>
    (recordedAPIResponseMS step.timing).map fun value =>
      { stepDefinitionId := step.stepDefinitionId
        stepName := step.stepName
        stepType := step.stepType
        status := step.status
        apiResponseTimeMs := some value : HistoryStepMetricPoint }
  { runId := run.id
    revisionId := run.revisionId
    status := run.status
    failureCategory := run.failureCategory
    createdAt := run.createdAt
    apiResponseTimeMs :=
      if steps = [] then none else some (steps.filterMap fun step => step.apiResponseTimeMs).sum
    executionDurationMs := run.durationMs
    steps := steps }

@[simp] theorem metricPoint_status (run : ExecutedRun) :
    (metricPoint run).status = run.status := rfl

/-! ## Distributions -/

/-- `MetricSeriesPoint`. -/
structure MetricSeriesPoint where
  runId : RunId
  valueMs : Int
  createdAt : Time
  deriving DecidableEq

/-- `Distribution`.  The failure categories are counted by their text. -/
structure Distribution where
  sampleCount : Nat
  completedCount : Nat
  successCount : Nat
  failureCount : Nat
  timeoutCount : Nat
  successRate : Rat
  errorRate : Rat
  timeoutRate : Rat
  minMs : Int
  averageMs : Int
  p50Ms : Int
  p75Ms : Int
  p90Ms : Int
  p95Ms : Int
  p99Ms : Int
  maxMs : Int
  standardDeviationMs : Rat
  failureCategories : List (String × Nat)
  series : List MetricSeriesPoint
  deriving DecidableEq

/-- `emptyDistribution`. -/
def emptyDistribution : Distribution where
  sampleCount := 0
  completedCount := 0
  successCount := 0
  failureCount := 0
  timeoutCount := 0
  successRate := 0
  errorRate := 0
  timeoutRate := 0
  minMs := 0
  averageMs := 0
  p50Ms := 0
  p75Ms := 0
  p90Ms := 0
  p95Ms := 0
  p99Ms := 0
  maxMs := 0
  standardDeviationMs := 0
  failureCategories := []
  series := []

/-- `percent`: a share in percent, to tenths. -/
def percent (value total : Nat) : Rat := roundTenths (value / total * 100)

/-- `deploymentPercentile` of sorted values, by nearest rank. -/
def deploymentPercentile (values : List Int) (percent : Nat) : Int :=
  values.getD (min (ceilPercent percent values.length - 1) (values.length - 1)) 0

def countCategory (counts : List (String × Nat)) (category : String) : List (String × Nat) :=
  match counts.lookup category with
  | none => counts ++ [(category, 1)]
  | some _ => counts.map fun count =>
      if count.1 = category then (count.1, count.2 + 1) else count

/-- What an execution that is counted adds to a distribution. -/
inductive Contribution where
  | succeeded (point : Option MetricSeriesPoint)
  | failed (category : String) (timedOut : Bool)
  deriving DecidableEq

def Contribution.isFailure : Contribution → Bool
  | .failed _ _ => true
  | .succeeded _ => false

def Contribution.isTimeout : Contribution → Bool
  | .failed _ timedOut => timedOut
  | .succeeded _ => false

def Contribution.point? : Contribution → Option MetricSeriesPoint
  | .succeeded point => point
  | .failed _ _ => none

def Contribution.category? : Contribution → Option String
  | .failed category _ => some category
  | .succeeded _ => none

def withValues (values : List Int) (distribution : Distribution) : Distribution :=
  let sorted := values.insertionSort (· ≤ ·)
  let average := sorted.sum.tdiv sorted.length
  let squares := (sorted.map fun value => (value - average).natAbs ^ 2).sum
  if sorted = [] then distribution
  else
    { distribution with
      minMs := sorted.headD 0
      maxMs := sorted.getLastD 0
      averageMs := average
      p50Ms := deploymentPercentile sorted 50
      p75Ms := deploymentPercentile sorted 75
      p90Ms := deploymentPercentile sorted 90
      p95Ms := deploymentPercentile sorted 95
      p99Ms := deploymentPercentile sorted 99
      standardDeviationMs := sqrtTenths squares sorted.length }

def distributionOf (contributions : List Contribution) : Distribution :=
  let completed := contributions.length
  let failures := (contributions.filter Contribution.isFailure).length
  let timeouts := (contributions.filter Contribution.isTimeout).length
  let series := contributions.filterMap Contribution.point?
  withValues (series.map MetricSeriesPoint.valueMs)
    { emptyDistribution with
      sampleCount := series.length
      completedCount := completed
      successCount := completed - failures
      failureCount := failures
      timeoutCount := timeouts
      successRate := if completed > 0 then percent (completed - failures) completed else 0
      errorRate := if completed > 0 then percent failures completed else 0
      timeoutRate := if completed > 0 then percent timeouts completed else 0
      failureCategories := (contributions.filterMap Contribution.category?).foldl countCategory []
      series := series }

/-! ## Summaries of monitor executions -/

/-- The statuses that `summarize` passes over. -/
def passedOver (status : Status) : Bool :=
  status = .queued || status = .starting || status = .running || status = .cancelled ||
    status = .skippedCondition

/-- The statuses that `summarize` counts as a success. -/
def succeeded (status : Status) : Bool := status = .success || status = .successWithWarnings

/-- The statuses that `summarize` counts as a failure: all others. -/
def failing (status : Status) : Bool := !passedOver status && !succeeded status

/-- What `summarize` makes of one point. -/
def HistoryMetricPoint.contribution? (point : HistoryMetricPoint) : Option Contribution :=
  if passedOver point.status then none
  else if succeeded point.status then
    some (.succeeded (point.apiResponseTimeMs.map fun value =>
      ⟨point.runId, value, point.createdAt⟩))
  else some (.failed point.failureCategory (point.status = .timedOut))

/-- **`summarize`.** -/
def summarize (points : List HistoryMetricPoint) : Distribution :=
  distributionOf (points.filterMap HistoryMetricPoint.contribution?)

@[simp] theorem failureCount_withValues (values : List Int) (distribution : Distribution) :
    (withValues values distribution).failureCount = distribution.failureCount := by
  simp only [withValues]
  split <;> rfl

theorem failureCount_summarize_pos {points : List HistoryMetricPoint} :
    0 < (summarize points).failureCount ↔ ∃ point ∈ points, failing point.status = true := by
  simp only [summarize, distributionOf, failureCount_withValues, List.length_pos_iff_exists_mem,
    List.mem_filter, List.mem_filterMap]
  constructor
  · grind [HistoryMetricPoint.contribution?, Contribution.isFailure, failing]
  · rintro ⟨point, hpoint, hfailing⟩
    obtain ⟨hcounted, hfailed⟩ :
        passedOver point.status = false ∧ succeeded point.status = false := by
      simpa [failing] using hfailing
    refine ⟨.failed point.failureCategory (point.status = .timedOut), ⟨point, hpoint, ?_⟩, rfl⟩
    simp [HistoryMetricPoint.contribution?, hcounted, hfailed]

/-! ## Comparison -/

/-- The fields of `DeploymentConfiguration` that the comparison and the sampling read. -/
structure DeploymentConfiguration where
  sampleCount : Nat
  minimumSamples : Nat
  regressionPercent : Rat
  regressionMinimumMs : Int
  /-- `MonitorRevisionIDs`; `none` is a monitor that the map does not name. -/
  monitorRevisionIds : MonitorId → Option RevisionId
  /-- `DynatraceRevisionNumbers`, by application and environment binding. -/
  dynatraceRevisionNumbers : List (String × Int)

inductive Classification where
  | unset | pending | insufficientHistory | normal | improved | regressed
  deriving DecidableEq

/-- How two distributions compare: the classification and the change of the 95th percentile, in
milliseconds and in percent. -/
structure Comparison where
  classification : Classification
  deltaMs : Int
  deltaPercent : Rat
  deriving DecidableEq

/-- `classify`. -/
def classify (base post : Distribution) (config : DeploymentConfiguration) : Comparison :=
  let delta := post.p95Ms - base.p95Ms
  if base.sampleCount < config.minimumSamples ∨ post.sampleCount < config.minimumSamples then
    ⟨.insufficientHistory, delta, 0⟩
  else
    let change := if base.p95Ms > 0 then roundTenths (delta / base.p95Ms * 100) else 0
    if delta ≥ config.regressionMinimumMs ∧ change ≥ config.regressionPercent then
      ⟨.regressed, delta, change⟩
    else if delta ≤ -config.regressionMinimumMs ∧ change ≤ -config.regressionPercent then
      ⟨.improved, delta, change⟩
    else ⟨.normal, delta, change⟩

end Rhythm.Suites
