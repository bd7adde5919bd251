import Rhythm.Dynatrace.Rules
import Rhythm.Suites.Steps
import Rhythm.Suites.WorkflowJob

/-!
# Rhythm.Suites.Decision

`deploymentDecisionWithBrowser`: from the evidence of a deployment validation to
its gate decision.  Every piece of evidence that is not in order either blocks
or warns; `decision_eq_block_iff` and `decision_eq_allow_iff` say which
evidence makes the decision `BLOCK` and which leaves it at `ALLOW`.
-/

namespace Rhythm.Suites

open Runs Text
open Dynatrace (Summary RuleResult)

/-! ## Evidence -/

/-- `DeploymentSample`, without its identifier and its time.  `none` stands for a run identifier
left empty. -/
structure DeploymentSample where
  monitorId : MonitorId
  monitorRunId : Option RunId
  sampleNumber : Nat
  status : Status
  durationMs : Int
  failureCategory : String
  deriving DecidableEq

/-- `MonitorComparison`. -/
structure MonitorComparison where
  checkId : String
  monitorId : MonitorId
  monitorName : String
  revisionId : Option RevisionId
  required : Bool
  baseline : Distribution
  post : Distribution
  comparison : Comparison
  steps : List StepComparison
  samples : List DeploymentSample
  reasons : List String
  deriving DecidableEq

/-- The fields of `BrowserComparison` that the decision reads. -/
structure BrowserComparison where
  browserMonitorId : String
  monitorName : String
  required : Bool
  baseline : Distribution
  post : Distribution
  comparison : Comparison
  deriving DecidableEq

/-- `DynatraceComparison`, without the windows of the queries.  Its status and its decision are
texts: a failed query may leave them empty. -/
structure DynatraceComparison where
  checkId : String
  name : String
  applicationId : String
  environmentBindingId : String
  serviceId : String
  required : Bool
  gateMode : String
  baselineRunId : String
  postRunId : String
  status : String
  decision : String
  baselineSummary : Summary
  postSummary : Summary
  baselineResourceCount : Nat
  postResourceCount : Nat
  addedResources : Nat
  missingResources : Nat
  ruleResults : List RuleResult
  ruleIds : List String
  stabilizationSeconds : Nat
  postWindowSeconds : Nat
  failureCategory : String
  failureReason : String
  deriving DecidableEq

/-- The fields of `CheckResult` that the decision reads. -/
structure CheckResult where
  checkId : String
  queryId : String
  name : String
  required : Bool
  status : String
  deriving DecidableEq

/-- What the decision is computed from. -/
structure Evidence where
  monitors : List MonitorComparison
  browserMonitors : List BrowserComparison
  dynatraceResults : List DynatraceComparison
  elfResults : List CheckResult
  alertResults : List CheckResult
  deriving DecidableEq

/-! ## The decision -/

/-- The local variables of `deploymentDecisionWithBrowser`. -/
structure Tally where
  block : Bool
  warn : Bool
  warnings : List String
  reasons : List String
  deriving DecidableEq

def Tally.empty : Tally := ⟨false, false, [], []⟩

def Tally.addWarning (message : String) (tally : Tally) : Tally :=
  { tally with warn := true, warnings := tally.warnings ++ [message] }

def Tally.addReason (message : String) (tally : Tally) : Tally :=
  { tally with block := true, reasons := tally.reasons ++ [message] }

def Tally.flagged (tally : Tally) : Bool := tally.block || tally.warn

/-- A piece of evidence that is not in order: it blocks, or it warns. -/
def Tally.addFault (blocks : Bool) (message : String) (tally : Tally) : Tally :=
  if blocks then tally.addReason message else tally.addWarning message

/-- The monitor failed a sample, or it or one of its steps regressed. -/
def MonitorComparison.faulty (monitor : MonitorComparison) : Bool :=
  monitor.post.failureCount > 0 ||
    (monitor.comparison.classification = .regressed ||
      monitor.steps.any fun step => step.comparison.classification = .regressed)

def BrowserComparison.faulty (monitor : BrowserComparison) : Bool :=
  monitor.post.failureCount > 0 || monitor.comparison.classification = .regressed

def tallyMonitor (classification : Classification) (faulty required : Bool)
    (insufficient failed : String) (tally : Tally) : Tally :=
  let tally := if classification = .insufficientHistory then tally.addWarning insufficient
    else tally
  if faulty then tally.addFault required failed else tally

def tallyMonitorComparison (tally : Tally) (monitor : MonitorComparison) : Tally :=
  tallyMonitor monitor.comparison.classification monitor.faulty monitor.required
    (monitor.monitorName ++ " has insufficient comparison samples.")
    (monitor.monitorName ++ " failed functional or performance validation.") tally

def tallyBrowserComparison (tally : Tally) (monitor : BrowserComparison) : Tally :=
  tallyMonitor monitor.comparison.classification monitor.faulty monitor.required
    (monitor.monitorName ++
      " has insufficient compatible browser history for percentile gating.")
    (monitor.monitorName ++ " failed browser journey or synthetic performance validation.") tally

/-- A result that is not `PASS` blocks by its own decision, or by its status when it is required. -/
def DynatraceComparison.blocks (result : DynatraceComparison) : Bool :=
  result.decision = "BLOCK" ||
    result.required &&
      (result.status = "ERROR" || result.status = "NO_DATA" || result.status = "FAIL")

def tallyDynatraceComparison (tally : Tally) (result : DynatraceComparison) : Tally :=
  if result.status = "PASS" then tally
  else
    tally.addFault result.blocks
      (defaultString result.name "Dynatrace infrastructure" ++ " returned " ++
        defaultString result.status "incomplete evidence" ++ ".")

/-- `appendCheckFailures`, for one result. -/
def tallyCheckResult (label : String) (tally : Tally) (result : CheckResult) : Tally :=
  if result.status = "SUCCESS" then tally
  else
    tally.addFault result.required
      (defaultString result.name (defaultString result.queryId result.checkId) ++
        " failed its " ++ label ++ " check.")

/-- The loops of `deploymentDecisionWithBrowser`, one after the other. -/
def tallyEvidence (evidence : Evidence) : Tally :=
  let tally := evidence.monitors.foldl tallyMonitorComparison .empty
  let tally := evidence.browserMonitors.foldl tallyBrowserComparison tally
  let tally := evidence.dynatraceResults.foldl tallyDynatraceComparison tally
  let tally := evidence.elfResults.foldl (tallyCheckResult "ELF") tally
  evidence.alertResults.foldl (tallyCheckResult "OpenSearch alert") tally

/-- **`deploymentDecisionWithBrowser`**: the decision, the warnings and the reasons. -/
def deploymentDecisionWithBrowser (evidence : Evidence) :
    GateDecision × List String × List String :=
  let tally := tallyEvidence evidence
  (if tally.block then .block else if tally.warn then .allowWithWarnings else .allow,
    tally.warnings, tally.reasons)

/-! ## Which evidence blocks -/

theorem block_foldl {α : Type} {f : Tally → α → Tally} {blocks : α → Bool}
    (hf : ∀ tally item, (f tally item).block = (tally.block || blocks item)) (items : List α)
    (tally : Tally) : (items.foldl f tally).block = (tally.block || items.any blocks) := by
  induction items generalizing tally with
  | nil => simp
  | cons item items ih => rw [List.foldl_cons, ih, hf, List.any_cons, Bool.or_assoc]

theorem flagged_foldl {α : Type} {f : Tally → α → Tally} {flags : α → Bool}
    (hf : ∀ tally item, (f tally item).flagged = (tally.flagged || flags item)) (items : List α)
    (tally : Tally) : (items.foldl f tally).flagged = (tally.flagged || items.any flags) := by
  induction items generalizing tally with
  | nil => simp
  | cons item items ih => rw [List.foldl_cons, ih, hf, List.any_cons, Bool.or_assoc]

@[simp] theorem block_addFault (blocks : Bool) (message : String) (tally : Tally) :
    (tally.addFault blocks message).block = (tally.block || blocks) := by
  cases blocks <;> simp [Tally.addFault, Tally.addReason, Tally.addWarning]

@[simp] theorem flagged_addFault (blocks : Bool) (message : String) (tally : Tally) :
    (tally.addFault blocks message).flagged = true := by
  cases blocks <;> simp [Tally.addFault, Tally.addReason, Tally.addWarning, Tally.flagged]

@[simp] theorem flagged_addWarning (message : String) (tally : Tally) :
    (tally.addWarning message).flagged = true := by
  simp [Tally.addWarning, Tally.flagged]

def MonitorComparison.blocks (monitor : MonitorComparison) : Bool :=
  monitor.required && monitor.faulty

def BrowserComparison.blocks (monitor : BrowserComparison) : Bool :=
  monitor.required && monitor.faulty

def CheckResult.blocks (result : CheckResult) : Bool :=
  result.required && result.status ≠ "SUCCESS"

theorem block_tallyMonitor (classification : Classification) (faulty required : Bool)
    (insufficient failed : String) (tally : Tally) :
    (tallyMonitor classification faulty required insufficient failed tally).block =
      (tally.block || required && faulty) := by
  unfold tallyMonitor
  by_cases hhistory : classification = .insufficientHistory
  · cases faulty <;> simp [hhistory, Tally.addWarning]
  · cases faulty <;> simp [hhistory]

theorem block_tallyMonitorComparison (tally : Tally) (monitor : MonitorComparison) :
    (tallyMonitorComparison tally monitor).block = (tally.block || monitor.blocks) :=
  block_tallyMonitor ..

theorem block_tallyBrowserComparison (tally : Tally) (monitor : BrowserComparison) :
    (tallyBrowserComparison tally monitor).block = (tally.block || monitor.blocks) :=
  block_tallyMonitor ..

theorem block_tallyDynatraceComparison (tally : Tally) (result : DynatraceComparison) :
    (tallyDynatraceComparison tally result).block =
      (tally.block || (result.status ≠ "PASS" && result.blocks)) := by
  unfold tallyDynatraceComparison
  split <;> simp [*]

theorem block_tallyCheckResult (label : String) (tally : Tally) (result : CheckResult) :
    (tallyCheckResult label tally result).block = (tally.block || result.blocks) := by
  unfold tallyCheckResult
  split <;> simp [CheckResult.blocks, *]

def Evidence.blocks (evidence : Evidence) : Bool :=
  evidence.monitors.any MonitorComparison.blocks ||
    evidence.browserMonitors.any BrowserComparison.blocks ||
    (evidence.dynatraceResults.any fun result => result.status ≠ "PASS" && result.blocks) ||
    evidence.elfResults.any CheckResult.blocks || evidence.alertResults.any CheckResult.blocks

theorem block_tallyEvidence (evidence : Evidence) :
    (tallyEvidence evidence).block = evidence.blocks := by
  simp only [tallyEvidence, Evidence.blocks]
  rw [block_foldl (block_tallyCheckResult _), block_foldl (block_tallyCheckResult _),
    block_foldl block_tallyDynatraceComparison, block_foldl block_tallyBrowserComparison,
    block_foldl block_tallyMonitorComparison]
  simp [Tally.empty]

/-- **The decision is `BLOCK` exactly when some piece of evidence blocks.** -/
theorem decision_eq_block_iff {evidence : Evidence} :
    (deploymentDecisionWithBrowser evidence).1 = .block ↔ evidence.blocks = true := by
  grind [deploymentDecisionWithBrowser, block_tallyEvidence, tallyEvidence]

/-! ## Which evidence is in order -/

/-- A monitor without enough history, or with a fault, is not in order. -/
def MonitorComparison.flagged (monitor : MonitorComparison) : Bool :=
  monitor.comparison.classification = .insufficientHistory || monitor.faulty

def BrowserComparison.flagged (monitor : BrowserComparison) : Bool :=
  monitor.comparison.classification = .insufficientHistory || monitor.faulty

def Evidence.flagged (evidence : Evidence) : Bool :=
  evidence.monitors.any MonitorComparison.flagged ||
    evidence.browserMonitors.any BrowserComparison.flagged ||
    (evidence.dynatraceResults.any fun result => result.status ≠ "PASS") ||
    (evidence.elfResults.any fun result => result.status ≠ "SUCCESS") ||
    evidence.alertResults.any fun result => result.status ≠ "SUCCESS"

theorem flagged_tallyMonitor (classification : Classification) (faulty required : Bool)
    (insufficient failed : String) (tally : Tally) :
    (tallyMonitor classification faulty required insufficient failed tally).flagged =
      (tally.flagged || (decide (classification = .insufficientHistory) || faulty)) := by
  unfold tallyMonitor
  by_cases hhistory : classification = .insufficientHistory
  · cases faulty <;> simp [hhistory]
  · cases faulty <;> simp [hhistory]

theorem flagged_tallyMonitorComparison (tally : Tally) (monitor : MonitorComparison) :
    (tallyMonitorComparison tally monitor).flagged = (tally.flagged || monitor.flagged) :=
  flagged_tallyMonitor ..

theorem flagged_tallyBrowserComparison (tally : Tally) (monitor : BrowserComparison) :
    (tallyBrowserComparison tally monitor).flagged = (tally.flagged || monitor.flagged) :=
  flagged_tallyMonitor ..

theorem flagged_tallyDynatraceComparison (tally : Tally) (result : DynatraceComparison) :
    (tallyDynatraceComparison tally result).flagged =
      (tally.flagged || decide (result.status ≠ "PASS")) := by
  unfold tallyDynatraceComparison
  split <;> simp [*]

theorem flagged_tallyCheckResult (label : String) (tally : Tally) (result : CheckResult) :
    (tallyCheckResult label tally result).flagged =
      (tally.flagged || decide (result.status ≠ "SUCCESS")) := by
  unfold tallyCheckResult
  split <;> simp [*]

theorem flagged_tallyEvidence (evidence : Evidence) :
    (tallyEvidence evidence).flagged = evidence.flagged := by
  simp only [tallyEvidence, Evidence.flagged]
  rw [flagged_foldl (flagged_tallyCheckResult _), flagged_foldl (flagged_tallyCheckResult _),
    flagged_foldl flagged_tallyDynatraceComparison, flagged_foldl flagged_tallyBrowserComparison,
    flagged_foldl flagged_tallyMonitorComparison]
  simp [Tally.empty, Tally.flagged]

/-- **The decision is `ALLOW` exactly when every piece of evidence is in order.** -/
theorem decision_eq_allow_iff {evidence : Evidence} :
    (deploymentDecisionWithBrowser evidence).1 = .allow ↔ evidence.flagged = false := by
  rw [← flagged_tallyEvidence, Tally.flagged]
  simp only [deploymentDecisionWithBrowser]
  cases (tallyEvidence evidence).block with
  | true => simp
  | false => cases (tallyEvidence evidence).warn <;> simp

end Rhythm.Suites
