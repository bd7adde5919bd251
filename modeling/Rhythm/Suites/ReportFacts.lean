import Rhythm.Suites.Decision

/-!
# Rhythm.Suites.ReportFacts

`BuildDeploymentReportFacts`: the evidence of a deployment run as it is reported, with the counts of
failed checks.  The report judges the same results as `deploymentDecisionWithBrowser`, by statuses
of its own; `sameStory_iff` says when the two agree.
-/

namespace Rhythm.Suites

open Runs Text
open Dynatrace (RuleResult)

/-! ## Results -/

/-- `BrowserSample`, without its identifier, its time and its monitor. -/
structure BrowserSample where
  browserRunId : String
  sampleNumber : Nat
  status : String
  durationMs : Int
  failureCategory : String
  deriving DecidableEq

/-- `BrowserComparison`, with the fields that the report reads besides. -/
structure BrowserResult extends BrowserComparison where
  samples : List BrowserSample
  reasons : List String
  deriving DecidableEq

/-- `DeploymentReport`, without its texts. -/
structure DeploymentReport where
  monitors : List MonitorComparison
  browserMonitors : List BrowserResult
  dynatraceResults : List DynatraceComparison
  elfResults : List CheckResult
  alertResults : List CheckResult
  deriving DecidableEq

def DeploymentReport.evidence (report : DeploymentReport) : Evidence where
  monitors := report.monitors
  browserMonitors := report.browserMonitors.map BrowserResult.toBrowserComparison
  dynatraceResults := report.dynatraceResults
  elfResults := report.elfResults
  alertResults := report.alertResults

/-! ## Facts -/

/-- `LatencyFact`. -/
structure LatencyFact where
  p50Ms : Int
  p95Ms : Int
  p99Ms : Int
  averageMs : Int
  successRate : Rat
  sampleCount : Nat
  failures : Nat
  timeouts : Nat
  deriving DecidableEq

/-- `StepFact`. -/
structure StepFact where
  name : String
  classification : Classification
  baselineP95Ms : Int
  postP95Ms : Int
  deltaPercent : Rat
  postFailures : Nat
  deriving DecidableEq

/-- `MonitorFact`.  The failed samples are kept as they are. -/
structure MonitorFact where
  monitorId : MonitorId
  name : String
  required : Bool
  classification : Classification
  deltaPercent : Rat
  baseline : LatencyFact
  post : LatencyFact
  reasons : List String
  failedSteps : List StepFact
  passedSteps : List StepFact
  failedSamples : List DeploymentSample
  passedSamples : Nat
  deriving DecidableEq

/-- `BrowserFact`. -/
structure BrowserFact where
  browserMonitorId : String
  name : String
  required : Bool
  classification : Classification
  deltaPercent : Rat
  baseline : LatencyFact
  post : LatencyFact
  reasons : List String
  failedSamples : List BrowserSample
  passedSamples : Nat
  deriving DecidableEq

/-- `CheckFact`, without the fields that are copied only. -/
structure CheckFact where
  required : Bool
  status : String
  queryId : String
  deriving DecidableEq

/-- `DynatraceFact`. -/
structure DynatraceFact where
  name : String
  required : Bool
  status : String
  decision : String
  gateMode : String
  applicationId : String
  failureCategory : String
  failureReason : String
  failedRules : List String
  deriving DecidableEq

/-- `checkFailed`. -/
def checkFailed (status : String) : Bool :=
  toUpper (trimSpace status) ∉
    ["SUCCESS", "SUCCESS_WITH_WARNINGS", "PASSED", "PASSED_WITH_WARNINGS", "PENDING", ""]

/-- `samplePassed`, on the status of a browser sample. -/
def samplePassed (status : String) : Bool :=
  toUpper (trimSpace status) ∈
    ["SUCCESS", "SUCCESS_WITH_WARNINGS", "PASSED", "PASSED_WITH_WARNINGS"]

/-- `samplePassed`, on the status of a run. -/
def DeploymentSample.passed (sample : DeploymentSample) : Bool :=
  sample.status = .success || sample.status = .successWithWarnings

def BrowserSample.passed (sample : BrowserSample) : Bool := samplePassed sample.status

/-- `stepFailed`. -/
def StepComparison.failed (step : StepComparison) : Bool :=
  step.comparison.classification = .regressed || step.post.failureCount > 0

def compactLatency (value : Distribution) : LatencyFact where
  p50Ms := value.p50Ms
  p95Ms := value.p95Ms
  p99Ms := value.p99Ms
  averageMs := value.averageMs
  successRate := value.successRate
  sampleCount := value.sampleCount
  failures := value.failureCount
  timeouts := value.timeoutCount

def compactStep (step : StepComparison) : StepFact where
  name := step.stepName
  classification := step.comparison.classification
  baselineP95Ms := step.baseline.p95Ms
  postP95Ms := step.post.p95Ms
  deltaPercent := step.comparison.deltaPercent
  postFailures := step.post.failureCount

/-- `compactMonitors`, for one. -/
def compactMonitor (item : MonitorComparison) : MonitorFact where
  monitorId := item.monitorId
  name := item.monitorName
  required := item.required
  classification := item.comparison.classification
  deltaPercent := item.comparison.deltaPercent
  baseline := compactLatency item.baseline
  post := compactLatency item.post
  reasons := item.reasons
  failedSteps := (item.steps.filter StepComparison.failed).map compactStep
  passedSteps := (item.steps.filter fun step => !step.failed).map compactStep
  failedSamples := item.samples.filter fun sample => !sample.passed
  passedSamples := item.samples.countP DeploymentSample.passed

/-- `compactBrowsers`, for one. -/
def compactBrowser (item : BrowserResult) : BrowserFact where
  browserMonitorId := item.browserMonitorId
  name := item.monitorName
  required := item.required
  classification := item.comparison.classification
  deltaPercent := item.comparison.deltaPercent
  baseline := compactLatency item.baseline
  post := compactLatency item.post
  reasons := item.reasons
  failedSamples := item.samples.filter fun sample => !sample.passed
  passedSamples := item.samples.countP BrowserSample.passed

/-- `compactChecks`, for one. -/
def compactCheck (item : CheckResult) : CheckFact where
  required := item.required
  status := item.status
  queryId := item.queryId

/-- The label of a failed rule, when it has a name or a reason. -/
def failedRule (rule : RuleResult) : Option String :=
  if equalFold rule.status "SUCCESS" || equalFold rule.status "PASS" then none
  else
    let name := trimSpace rule.ruleName
    let reason := trimSpace rule.reason
    let label := if reason = "" then name else if name = "" then reason
      else name ++ " — " ++ reason
    if label = "" then none else some label

/-- `compactDynatrace`, for one. -/
def compactDynatrace (item : DynatraceComparison) : DynatraceFact where
  name := item.name
  required := item.required
  status := item.status
  decision := item.decision
  gateMode := item.gateMode
  applicationId := item.applicationId
  failureCategory := item.failureCategory
  failureReason := item.failureReason
  failedRules := item.ruleResults.filterMap failedRule

/-! ## Counts -/

/-- `monitorFailed`. -/
def MonitorFact.failed (item : MonitorFact) : Bool :=
  item.classification = .regressed || item.failedSteps.length > 0 ||
    item.failedSamples.length > 0 || item.post.failures > 0

/-- `browserFailed`. -/
def BrowserFact.failed (item : BrowserFact) : Bool :=
  item.classification = .regressed || item.failedSamples.length > 0 || item.post.failures > 0

def CheckFact.failed (item : CheckFact) : Bool := checkFailed item.status

def DynatraceFact.failed (item : DynatraceFact) : Bool := checkFailed item.status

/-- `factRank`. -/
def factRank (failed required : Bool) : Nat :=
  if failed ∧ required then 0 else if failed then 1 else 2

/-- `sortFacts`, for one kind of facts: stable, by rank. -/
def sortFacts {α : Type} (failed required : α → Bool) (facts : List α) : List α :=
  facts.insertionSort fun a b =>
    factRank (failed a) (required a) ≤ factRank (failed b) (required b)

/-- `ReportFactCounts`, without the texts of the report. -/
structure ReportFactCounts where
  monitors : Nat
  failedMonitors : Nat
  browserMonitors : Nat
  failedBrowser : Nat
  elfChecks : Nat
  failedELF : Nat
  alertChecks : Nat
  failedAlerts : Nat
  dynatraceChecks : Nat
  failedDynatrace : Nat
  deriving DecidableEq

/-- `DeploymentReportFacts`, without the texts of the run. -/
structure DeploymentReportFacts where
  counts : ReportFactCounts
  monitors : List MonitorFact
  browserMonitors : List BrowserFact
  elfChecks : List CheckFact
  alertChecks : List CheckFact
  dynatraceChecks : List DynatraceFact
  deriving DecidableEq

/-- `BuildDeploymentReportFacts`. -/
def buildDeploymentReportFacts (report : DeploymentReport) : DeploymentReportFacts :=
  let monitors := sortFacts MonitorFact.failed MonitorFact.required
    (report.monitors.map compactMonitor)
  let browserMonitors := sortFacts BrowserFact.failed BrowserFact.required
    (report.browserMonitors.map compactBrowser)
  let elfChecks := sortFacts CheckFact.failed CheckFact.required
    (report.elfResults.map compactCheck)
  let alertChecks := sortFacts CheckFact.failed CheckFact.required
    (report.alertResults.map compactCheck)
  let dynatraceChecks := sortFacts DynatraceFact.failed DynatraceFact.required
    (report.dynatraceResults.map compactDynatrace)
  { counts :=
      { monitors := monitors.length
        failedMonitors := monitors.countP MonitorFact.failed
        browserMonitors := browserMonitors.length
        failedBrowser := browserMonitors.countP BrowserFact.failed
        elfChecks := elfChecks.length
        failedELF := elfChecks.countP CheckFact.failed
        alertChecks := alertChecks.length
        failedAlerts := alertChecks.countP CheckFact.failed
        dynatraceChecks := dynatraceChecks.length
        failedDynatrace := dynatraceChecks.countP DynatraceFact.failed }
    monitors
    browserMonitors
    elfChecks
    alertChecks
    dynatraceChecks }

def ReportFactCounts.failed (counts : ReportFactCounts) : Bool :=
  counts.failedMonitors > 0 || counts.failedBrowser > 0 || counts.failedELF > 0 ||
    counts.failedAlerts > 0 || counts.failedDynatrace > 0

/-- **The law of the report.**  Nothing is counted as failed in a deployment that is allowed, and
something is in one that is blocked. -/
def SameStory (report : DeploymentReport) : Prop :=
  ((deploymentDecisionWithBrowser report.evidence).1 = .allow →
    (buildDeploymentReportFacts report).counts.failed = false) ∧
  ((deploymentDecisionWithBrowser report.evidence).1 = .block →
    (buildDeploymentReportFacts report).counts.failed = true)

/-- A failed execution of a step, or a sample that did not pass: the decision looks at neither. -/
def MonitorComparison.overlooked (monitor : MonitorComparison) : Bool :=
  (monitor.steps.any fun step => step.post.failureCount > 0) ||
    monitor.samples.any fun sample => !sample.passed

def BrowserResult.overlooked (monitor : BrowserResult) : Bool :=
  monitor.samples.any fun sample => !sample.passed

/-- **The condition on the results.**  Where all is in order, there are no Dynatrace results, and
nothing was overlooked.  Where a Dynatrace result or a check blocks, some result has a status that
fails in the report, or some monitor is at fault or has something overlooked. -/
def Agreeing (report : DeploymentReport) : Prop :=
  (report.evidence.flagged = false →
    report.dynatraceResults = [] ∧
      (∀ monitor ∈ report.monitors, monitor.overlooked = false) ∧
      ∀ monitor ∈ report.browserMonitors, monitor.overlooked = false) ∧
  ((∃ result ∈ report.dynatraceResults, result.status ≠ "PASS" ∧ result.blocks = true) ∨
      (∃ result ∈ report.elfResults ++ report.alertResults, result.blocks = true) →
    (∃ result ∈ report.dynatraceResults, checkFailed result.status = true) ∨
      (∃ result ∈ report.elfResults ++ report.alertResults, checkFailed result.status = true) ∨
      (∃ monitor ∈ report.monitors, monitor.faulty = true ∨ monitor.overlooked = true) ∨
      ∃ monitor ∈ report.browserMonitors, monitor.faulty = true ∨ monitor.overlooked = true)

/-! ## What is counted -/

theorem count_sortFacts {α β : Type} (failed required : β → Bool) (compact : α → β)
    (items : List α) : 0 < (sortFacts failed required (items.map compact)).countP failed ↔
      ∃ item ∈ items, failed (compact item) = true := by
  rw [sortFacts, (List.perm_insertionSort _ _).countP_eq, List.countP_map, List.countP_pos_iff]
  rfl

theorem failed_compactMonitor (item : MonitorComparison) :
    (compactMonitor item).failed = true ↔ item.faulty = true ∨ item.overlooked = true := by
  simp only [MonitorFact.failed, compactMonitor, compactLatency, List.length_map,
    MonitorComparison.faulty, MonitorComparison.overlooked, Bool.or_eq_true, decide_eq_true_eq,
    gt_iff_lt, List.length_pos_iff_exists_mem, List.mem_filter, StepComparison.failed,
    List.any_eq_true]
  grind

theorem failed_compactBrowser (item : BrowserResult) :
    (compactBrowser item).failed = true ↔
      item.toBrowserComparison.faulty = true ∨ item.overlooked = true := by
  simp only [BrowserFact.failed, compactBrowser, compactLatency, BrowserComparison.faulty,
    BrowserResult.overlooked, Bool.or_eq_true, decide_eq_true_eq, gt_iff_lt,
    List.length_pos_iff_exists_mem, List.mem_filter, List.any_eq_true]
  grind

theorem failed_counts_iff (report : DeploymentReport) :
    (buildDeploymentReportFacts report).counts.failed = true ↔
      (∃ monitor ∈ report.monitors, monitor.faulty = true ∨ monitor.overlooked = true) ∨
      (∃ monitor ∈ report.browserMonitors, monitor.faulty = true ∨ monitor.overlooked = true) ∨
      (∃ result ∈ report.elfResults ++ report.alertResults, checkFailed result.status = true) ∨
      ∃ result ∈ report.dynatraceResults, checkFailed result.status = true := by
  simp only [ReportFactCounts.failed, buildDeploymentReportFacts, Bool.or_eq_true,
    decide_eq_true_eq, gt_iff_lt, count_sortFacts, failed_compactMonitor, failed_compactBrowser,
    CheckFact.failed, compactCheck, DynatraceFact.failed, compactDynatrace, List.mem_append,
    or_and_right, exists_or, or_assoc]

variable {report : DeploymentReport}

theorem orderly_iff : report.evidence.flagged = false ↔
    (∀ monitor ∈ report.monitors, monitor.flagged = false) ∧
    (∀ monitor ∈ report.browserMonitors, monitor.toBrowserComparison.flagged = false) ∧
    (∀ result ∈ report.dynatraceResults, result.status = "PASS") ∧
    ∀ result ∈ report.elfResults ++ report.alertResults, result.status = "SUCCESS" := by
  simp [Evidence.flagged, DeploymentReport.evidence, or_imp, forall_and, and_assoc]

theorem blocks_iff : report.evidence.blocks = true ↔
    (∃ monitor ∈ report.monitors, monitor.blocks = true) ∨
    (∃ monitor ∈ report.browserMonitors, monitor.toBrowserComparison.blocks = true) ∨
    (∃ result ∈ report.dynatraceResults, result.status ≠ "PASS" ∧ result.blocks = true) ∨
    ∃ result ∈ report.elfResults ++ report.alertResults, result.blocks = true := by
  simp [Evidence.blocks, DeploymentReport.evidence, or_and_right, exists_or, or_assoc]

theorem faulty_of_blocks {monitor : MonitorComparison} (h : monitor.blocks = true) :
    monitor.faulty = true := by
  rw [MonitorComparison.blocks, Bool.and_eq_true] at h
  exact h.2

theorem BrowserComparison.faulty_of_blocks {monitor : BrowserComparison}
    (h : monitor.blocks = true) : monitor.faulty = true := by
  rw [BrowserComparison.blocks, Bool.and_eq_true] at h
  exact h.2

/-- Where all is in order, the report counts nothing as failed when nothing was overlooked and there
are no Dynatrace results, whose status `PASS` fails in the report. -/
theorem failed_of_orderly (horder : report.evidence.flagged = false) :
    (buildDeploymentReportFacts report).counts.failed = false ↔
      report.dynatraceResults = [] ∧
      (∀ monitor ∈ report.monitors, monitor.overlooked = false) ∧
      ∀ monitor ∈ report.browserMonitors, monitor.overlooked = false := by
  obtain ⟨hmonitors, hbrowsers, hpass, hchecks⟩ := orderly_iff.mp horder
  rw [← Bool.not_eq_true, failed_counts_iff]
  constructor
  · intro hcounts
    simp only [not_or, not_exists, not_and, Bool.not_eq_true] at hcounts
    obtain ⟨hclear, hclear', -, hdynatrace⟩ := hcounts
    refine ⟨?_, fun monitor hm => (hclear monitor hm).2, fun monitor hm => (hclear' monitor hm).2⟩
    apply List.eq_nil_iff_forall_not_mem.mpr
    intro result hresult
    have hstatus := hdynatrace result hresult
    rw [hpass result hresult] at hstatus
    exact absurd hstatus (by decide)
  · rintro ⟨hnone, hclear, hclear'⟩ (⟨monitor, hmem, hfail⟩ | ⟨monitor, hmem, hfail⟩ |
      ⟨result, hmem, hfail⟩ | ⟨result, hmem, -⟩)
    · grind [MonitorComparison.flagged, Bool.or_eq_false_iff]
    · grind [BrowserComparison.flagged, Bool.or_eq_false_iff]
    · rw [hchecks result hmem] at hfail
      exact absurd hfail (by decide)
    · rw [hnone] at hmem
      exact absurd hmem List.not_mem_nil

theorem failed_of_monitor_blocks (h : (∃ monitor ∈ report.monitors, monitor.blocks = true) ∨
      ∃ monitor ∈ report.browserMonitors, monitor.toBrowserComparison.blocks = true) :
    (buildDeploymentReportFacts report).counts.failed = true := by
  rw [failed_counts_iff]
  obtain ⟨monitor, hmem, hmonitor⟩ | ⟨monitor, hmem, hmonitor⟩ := h
  · exact .inl ⟨monitor, hmem, .inl (faulty_of_blocks hmonitor)⟩
  · exact .inr (.inl ⟨monitor, hmem, .inl (BrowserComparison.faulty_of_blocks hmonitor)⟩)

/-- **The report and the gate.**  For every report: the counts of failed checks are in line with the
decision exactly when the condition holds of its results. -/
theorem sameStory_iff (report : DeploymentReport) : SameStory report ↔ Agreeing report := by
  rw [SameStory, decision_eq_allow_iff, decision_eq_block_iff]
  refine and_congr (forall_congr' failed_of_orderly) ⟨fun h hresults => ?_, fun h hblocks => ?_⟩
  · have hcounts := h (blocks_iff.mpr (.inr (.inr hresults)))
    obtain hmonitor | hbrowser | hcheck | hdynatrace := (failed_counts_iff report).mp hcounts
    · exact .inr (.inr (.inl hmonitor))
    · exact .inr (.inr (.inr hbrowser))
    · exact .inr (.inl hcheck)
    · exact .inl hdynatrace
  · obtain hmonitor | hbrowser | hresults := blocks_iff.mp hblocks
    · exact failed_of_monitor_blocks (.inl hmonitor)
    · exact failed_of_monitor_blocks (.inr hbrowser)
    · rw [failed_counts_iff]
      obtain hdynatrace | hcheck | hmonitor | hbrowser := h hresults
      · exact .inr (.inr (.inr hdynatrace))
      · exact .inr (.inr (.inl hcheck))
      · exact .inl hmonitor
      · exact .inr (.inl hbrowser)

def passedComparison : DynatraceComparison where
  checkId := "infrastructure"
  name := "Checkout hosts"
  applicationId := "checkout"
  environmentBindingId := "production"
  serviceId := ""
  required := true
  gateMode := "BLOCKING"
  baselineRunId := "run-1"
  postRunId := "run-2"
  status := "PASS"
  decision := "ALLOW"
  baselineSummary := some []
  postSummary := some []
  baselineResourceCount := 4
  postResourceCount := 4
  addedResources := 0
  missingResources := 0
  ruleResults := []
  ruleIds := []
  stabilizationSeconds := 60
  postWindowSeconds := 300
  failureCategory := ""
  failureReason := ""

/-- **An allowed deployment with a failed check.**  The infrastructure passed, and the report counts
it as failed. -/
theorem passed_infrastructure_counted : ¬ ∀ report : DeploymentReport, SameStory report := by
  intro h
  have hcounts := (h ⟨[], [], [passedComparison], [], []⟩).1 (by decide)
  revert hcounts
  decide

end Rhythm.Suites
