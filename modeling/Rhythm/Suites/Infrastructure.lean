import Rhythm.Suites.Samples

/-!
# Rhythm.Suites.Infrastructure

The Dynatrace checks of a deployment validation.  Each check becomes one
comparison for each of its services; the comparison queries its baseline and
its post-deployment window and compares the two runs by the rules that the
check selects.  The services that are called — the configuration, the two
queries, the configuration again when the runs are compared — are inputs, with
their errors.

`Slot.ending` says how a comparison ends from what the services answer;
`infrastructure_failsClosed_iff` says when an answer that is an error always
reaches the decision.
-/

namespace Rhythm.Suites

open Text
open Dynatrace (Configuration Run compareRuns)

/-! ## Services -/

/-- The answers that the Dynatrace checks of one validation receive. -/
structure DynatraceServices where
  /-- `GetConfiguration` for the check at a position. -/
  configuration : Nat → Except String Configuration
  /-- `Query` of the baseline window, for the comparison at a position: a run, and an error. -/
  baselineQuery : Nat → Run × Option String
  /-- `Query` of the post-deployment window. -/
  postQuery : Nat → Run × Option String
  /-- `GetConfiguration` within `CompareRuns`. -/
  comparedConfiguration : Nat → Except String Configuration

/-! ## Comparisons -/

/-- One comparison to be made: a check, the configuration it was built from, and a service. -/
structure Slot where
  check : Check
  configuration : Except String Configuration
  serviceId : String

/-- The two loops of `deploymentDynatraceComparisons`, over checks and over services. -/
def dynatraceSlots (services : DynatraceServices) (suite : Suite) : List Slot :=
  (suite.checksOfKind .dynatraceInfrastructure).zipIdx.flatMap fun (check, i) =>
    match services.configuration i with
    | .error message => [⟨check, .error message, ""⟩]
    | .ok configuration =>
      (if check.serviceIds = [] then [""] else check.serviceIds).map fun serviceID =>
        ⟨check, .ok configuration, serviceID⟩

/-- `hasExplicitRules`: an enabled rule, among the selected ones when the check selects any. -/
def hasExplicitRules (check : Check) (configuration : Configuration) : Bool :=
  configuration.rules.any fun rule =>
    rule.enabled && (check.ruleIds = [] || rule.id ∈ check.ruleIds)

/-- The comparison's `Required`. -/
def ruleRequired (check : Check) (configuration : Configuration) : Bool :=
  check.gateMode = "BLOCKING" && hasExplicitRules check configuration

/-- The configuration is not the one that the validation was queued with. -/
def revisionChanged (config : DeploymentConfiguration) (check : Check)
    (configuration : Configuration) : Bool :=
  (config.dynatraceRevisionNumbers.lookup
    (check.applicationId ++ "|" ++ check.environmentBindingId)).getD 0 ≠
      configuration.revisionNumber

/-- The comparison of a check whose configuration cannot be read. -/
def unavailableComparison (check : Check) (message : String) : DynatraceComparison where
  checkId := check.id
  name := check.name
  applicationId := check.applicationId
  environmentBindingId := check.environmentBindingId
  serviceId := ""
  required := false
  gateMode := check.gateMode
  baselineRunId := ""
  postRunId := ""
  status := "ERROR"
  decision := "ALLOW_WITH_WARNINGS"
  baselineSummary := none
  postSummary := none
  baselineResourceCount := 0
  postResourceCount := 0
  addedResources := 0
  missingResources := 0
  ruleResults := []
  ruleIds := []
  stabilizationSeconds := 0
  postWindowSeconds := 0
  failureCategory := "DYNATRACE_CONFIGURATION_UNAVAILABLE"
  failureReason := safeError message

def pendingComparison (check : Check) (configuration : Configuration) (serviceID : String) :
    DynatraceComparison where
  checkId := check.id
  name := defaultString check.name "Dynatrace infrastructure"
  applicationId := check.applicationId
  environmentBindingId := check.environmentBindingId
  serviceId := serviceID
  required := ruleRequired check configuration
  gateMode := check.gateMode
  baselineRunId := ""
  postRunId := ""
  status := "PENDING"
  decision := "PENDING"
  baselineSummary := some []
  postSummary := some []
  baselineResourceCount := 0
  postResourceCount := 0
  addedResources := 0
  missingResources := 0
  ruleResults := []
  ruleIds := check.ruleIds
  stabilizationSeconds := configuration.stabilizationSeconds
  postWindowSeconds := configuration.postWindowSeconds
  failureCategory := ""
  failureReason := ""

/-- The item that `deploymentDynatraceComparisons` appends. -/
def Slot.comparison (config : DeploymentConfiguration) (slot : Slot) : DynatraceComparison :=
  match slot.configuration with
  | .error message => unavailableComparison slot.check message
  | .ok configuration =>
    let item := pendingComparison slot.check configuration slot.serviceId
    if revisionChanged config slot.check configuration then
      { item with
        status := "ERROR"
        decision := "ALLOW_WITH_WARNINGS"
        failureCategory := "DYNATRACE_REVISION_CHANGED"
        failureReason := "The Dynatrace configuration changed after this deployment " ++
          "validation was queued." }
    else item

def skipsQueries (failureCategory : String) : Bool :=
  failureCategory = "DYNATRACE_REVISION_CHANGED" ||
    failureCategory = "DYNATRACE_CONFIGURATION_UNAVAILABLE"

def captureBaseline (answer : Run × Option String) (comparison : DynatraceComparison) :
    DynatraceComparison :=
  if skipsQueries comparison.failureCategory then comparison
  else
    let comparison := { comparison with
      baselineRunId := answer.1.id
      baselineSummary := answer.1.summary
      baselineResourceCount := answer.1.resourceCount }
    match answer.2 with
    | none => comparison
    | some message =>
      { comparison with
        status := answer.1.status
        failureCategory := defaultString answer.1.failureCategory "DYNATRACE_BASELINE_FAILED"
        failureReason := defaultString answer.1.failureReason (safeError message) }

/-- The status of a comparison whose rules were evaluated. -/
def statusOfDecision (decision : String) : String :=
  if decision = "BLOCK" then "FAIL"
  else if decision = "ALLOW_WITH_WARNINGS" then "WARNING"
  else "PASS"

/-- The post-deployment query of one comparison, and the comparison of its runs. -/
def comparePost (configuration : Except String Configuration) (answer : Run × Option String)
    (comparison : DynatraceComparison) : DynatraceComparison :=
  if skipsQueries comparison.failureCategory then comparison
  else
    let comparison := { comparison with
      postRunId := answer.1.id
      postSummary := answer.1.summary
      postResourceCount := answer.1.resourceCount
      addedResources := answer.1.resourceCount - comparison.baselineResourceCount
      missingResources := comparison.baselineResourceCount - answer.1.resourceCount }
    match answer.2 with
    | some message =>
      { comparison with
        status := answer.1.status
        decision := answer.1.decision
        failureCategory := defaultString answer.1.failureCategory "DYNATRACE_POST_QUERY_FAILED"
        failureReason := defaultString answer.1.failureReason (safeError message) }
    | none =>
      match compareRuns configuration comparison.serviceId comparison.baselineSummary answer.1
          comparison.ruleIds with
      | .error message =>
        { comparison with
          status := "ERROR"
          decision := "ALLOW_WITH_WARNINGS"
          failureCategory := "DYNATRACE_COMPARISON_FAILED"
          failureReason := safeError message }
      | .ok (results, decision) =>
        { comparison with
          ruleResults := results
          decision := decision
          status := statusOfDecision decision }

/-- The Dynatrace results of a validation: the comparisons, the loop of the baseline queries and
the loop of the post-deployment queries. -/
def dynatraceResults (services : DynatraceServices) (config : DeploymentConfiguration)
    (suite : Suite) : List DynatraceComparison :=
  let comparisons := (dynatraceSlots services suite).map (Slot.comparison config)
  let comparisons := comparisons.mapIdx fun j => captureBaseline (services.baselineQuery j)
  comparisons.mapIdx fun j =>
    comparePost (services.comparedConfiguration j) (services.postQuery j)

/-- The gate decision of a validation with these Dynatrace results. -/
def infrastructureDecision (services : DynatraceServices) (config : DeploymentConfiguration)
    (suite : Suite) (others : Evidence) : GateDecision :=
  (deploymentDecisionWithBrowser
    { others with dynatraceResults := dynatraceResults services config suite }).1

end Rhythm.Suites
