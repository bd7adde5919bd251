import Rhythm.Numeric
import Rhythm.Text

/-!
# Rhythm.Dynatrace.Rules

The rules of an application's infrastructure monitoring: how a rule is
evaluated against the statistics of a query (`evaluateRules`), what the results
decide (`classifyRun`), and the comparison of two queries (`compareRuns`).
Measurements are exact rationals where the code has floats.
-/

namespace Rhythm.Dynatrace

open Text Numeric

/-! ## Queries and rules -/

/-- `Statistics` of a metric. -/
structure Statistics where
  sampleCount : Nat
  minimum : Option Rat
  maximum : Option Rat
  average : Option Rat
  latest : Option Rat
  p50 : Option Rat
  p95 : Option Rat
  deriving DecidableEq

/-- `map[string]Statistics`; `none` is the nil map. -/
abbrev Summary := Option (List (String × Statistics))

/-- A metric that the map does not name has no measured value. -/
def Summary.statistics (summary : Summary) (metric : String) : Statistics :=
  ((summary.getD []).lookup metric).getD ⟨0, none, none, none, none, none, none⟩

/-- `Rule`, with the fields that its evaluation reads. -/
structure Rule where
  id : String
  serviceId : String
  name : String
  metric : String
  statistic : String
  operator : String
  threshold : Rat
  comparison : String
  gateMode : String
  minimumCoveragePercent : Option Rat
  enabled : Bool
  deriving DecidableEq

/-- `Configuration`, with the fields that a comparison reads. -/
structure Configuration where
  stabilizationSeconds : Nat
  postWindowSeconds : Nat
  revisionNumber : Int
  rules : List Rule
  deriving DecidableEq

/-- `Run`, with the fields that a comparison reads.  The zero value is what a query returns that
failed early. -/
structure Run where
  id : String
  status : String
  decision : String
  resourceCount : Nat
  coveredResourceCount : Nat
  coveragePercent : Rat
  summary : Summary
  failureCategory : String
  failureReason : String
  deriving DecidableEq

/-- `Run{}`. -/
def Run.zero : Run where
  id := ""
  status := ""
  decision := ""
  resourceCount := 0
  coveredResourceCount := 0
  coveragePercent := 0
  summary := none
  failureCategory := ""
  failureReason := ""

/-- `RuleResult`. -/
structure RuleResult where
  ruleId : String
  ruleName : String
  status : String
  gateMode : String
  metric : String
  statistic : String
  observed : Option Rat
  baseline : Option Rat
  threshold : Rat
  operator : String
  coveragePercent : Rat
  reason : String
  deriving DecidableEq

/-! ## Evaluation -/

/-- `statisticValue`. -/
def statisticValue (value : Statistics) (name : String) : Option Rat :=
  match toUpper name with
  | "AVERAGE" => value.average
  | "MAXIMUM" => value.maximum
  | "LATEST" => value.latest
  | "P50" => value.p50
  | "P95" => value.p95
  | _ => none

/-- `compare`. -/
def compare (value : Rat) (operator : String) (threshold : Rat) : Bool :=
  match operator with
  | "GT" => value > threshold
  | "GTE" => value ≥ threshold
  | "LT" => value < threshold
  | "LTE" => value ≤ threshold
  | "EQ" => value = threshold
  | _ => false

/-- The value that a rule compares with its threshold, or the status and the reason for which it
has none.  The first component is the baseline value of the result. -/
def ruleValue (rule : Rule) (observed : Rat) (baseline : Summary) :
    Option Rat × Except (String × String) Rat :=
  let comparison := toUpper rule.comparison
  if comparison = "BASELINE_ABSOLUTE" ∨ comparison = "BASELINE_PERCENT" then
    if baseline = none then
      (none, .error ("SKIPPED", "A baseline is required to evaluate this rule."))
    else
      match statisticValue (baseline.statistics (toUpper rule.metric)) rule.statistic with
      | none => (none, .error ("NO_DATA", "The baseline did not contain the selected metric."))
      | some base =>
        if comparison = "BASELINE_PERCENT" then
          if base = 0 then
            (some base,
              .error ("NO_DATA", "Percentage change cannot be calculated from a zero baseline."))
          else (some base, .ok ((observed - base) / |base| * 100))
        else (some base, .ok (observed - base))
  else (none, .ok observed)

/-- The body of the loop of `evaluateRules`. -/
def evaluateRule (rule : Rule) (summary : Summary) (coverage : Rat) (baseline : Summary) :
    RuleResult :=
  let observed := statisticValue (summary.statistics (toUpper rule.metric)) rule.statistic
  let result : RuleResult :=
    { ruleId := rule.id
      ruleName := rule.name
      status := "PASS"
      gateMode := rule.gateMode
      metric := rule.metric
      statistic := rule.statistic
      observed := observed
      baseline := none
      threshold := rule.threshold
      operator := rule.operator
      coveragePercent := coverage
      reason := "" }
  match rule.minimumCoveragePercent.filter fun minimum => coverage < minimum with
  | some minimum =>
    { result with
      status := "FAIL"
      reason := "Resource coverage " ++ formatFixed 1 coverage ++ "% is below the required " ++
        formatFixed 1 minimum ++ "%." }
  | none =>
    match observed with
    | none =>
      { result with
        status := "NO_DATA"
        reason := "The selected metric did not return a measured value." }
    | some observed =>
      match ruleValue rule observed baseline with
      | (base, .error (status, reason)) =>
        { result with baseline := base, status := status, reason := reason }
      | (base, .ok value) =>
        if compare value (toUpper rule.operator) rule.threshold then
          { result with
            baseline := base
            status := "FAIL"
            reason := "Observed " ++ formatFixed 2 value ++ " matched the failure condition " ++
              rule.operator ++ " " ++ formatFixed 2 rule.threshold ++ "." }
        else
          { result with
            baseline := base
            reason := "The measured value remained within the configured guardrail." }

/-- `evaluateRules`: the enabled rules of all services and of the given one. -/
def evaluateRules (rules : List Rule) (serviceID : String) (summary : Summary) (coverage : Rat)
    (baseline : Summary) : List RuleResult :=
  (rules.filter fun rule =>
      rule.enabled ∧ (rule.serviceId = "" ∨ rule.serviceId = serviceID)).map
    fun rule => evaluateRule rule summary coverage baseline

/-- The loop of `classifyRun`: the first failing blocking rule decides. -/
def classifyResults : List RuleResult → String × String → String × String
  | [], verdict => verdict
  | result :: results, verdict =>
    if result.status = "FAIL" ∨ result.status = "NO_DATA" then
      if toUpper result.gateMode = "BLOCKING" then ("FAIL", "BLOCK")
      else classifyResults results ("WARNING", "ALLOW_WITH_WARNINGS")
    else classifyResults results verdict

/-- `classifyRun`: a status and a decision. -/
def classifyRun (expected covered : Nat) (results : List RuleResult) : String × String :=
  classifyResults results
    (if expected = 0 ∨ covered = 0 then ("NO_DATA", "ALLOW_WITH_WARNINGS")
      else if covered < expected then ("PARTIAL_DATA", "ALLOW_WITH_WARNINGS")
      else ("PASS", "ALLOW"))

/-! ## Comparison -/

/-- `CompareRuns`, with the configuration that it reads: the results of the rules and the
decision. -/
def compareRuns (configuration : Except String Configuration) (serviceID : String)
    (baseline : Summary) (post : Run) (ruleIDs : List String) :
    Except String (List RuleResult × String) :=
  match configuration with
  | .error message => .error message
  | .ok config =>
    let rules := config.rules.filter fun rule =>
      ruleIDs = [] ∨ rule.id ∈ ruleIDs.map trimSpace
    let results := evaluateRules rules serviceID post.summary post.coveragePercent baseline
    let expected := max 1 (post.resourceCount * max 1 (post.summary.getD []).length)
    let decision := (classifyRun expected post.coveredResourceCount results).2
    if post.status = "ERROR" ∨ post.status = "NO_DATA" then
      if rules.any fun rule => rule.enabled && equalFold rule.gateMode "BLOCKING" then
        .ok (results, "BLOCK")
      else .ok (results, "ALLOW_WITH_WARNINGS")
    else .ok (results, decision)

def selectedRules (rules : List Rule) (ruleIDs : List String) : List Rule :=
  rules.filter fun rule => ruleIDs = [] ∨ rule.id ∈ ruleIDs.map trimSpace

theorem selectedRules_subset (rules : List Rule) (ruleIDs : List String) :
    selectedRules rules ruleIDs ⊆ rules :=
  List.filter_subset_self _

/-- The series that `CompareRuns` expects: one for each resource and measured metric. -/
def Run.comparedSeries (run : Run) : Nat :=
  max 1 (run.resourceCount * max 1 (run.summary.getD []).length)

section Compared

variable {config : Configuration} {serviceID : String} {baseline : Summary} {post : Run}
  {ruleIDs : List String}

theorem compareRuns_of_data (hstatus : ¬ (post.status = "ERROR" ∨ post.status = "NO_DATA")) :
    compareRuns (.ok config) serviceID baseline post ruleIDs =
      let results := evaluateRules (selectedRules config.rules ruleIDs) serviceID post.summary
        post.coveragePercent baseline
      .ok (results, (classifyRun post.comparedSeries post.coveredResourceCount results).2) := by
  simp only [compareRuns, if_neg hstatus]
  rfl

theorem compareRuns_of_noData (hstatus : post.status = "ERROR" ∨ post.status = "NO_DATA") :
    compareRuns (.ok config) serviceID baseline post ruleIDs =
      .ok (evaluateRules (selectedRules config.rules ruleIDs) serviceID post.summary
          post.coveragePercent baseline,
        if (selectedRules config.rules ruleIDs).any fun rule =>
            rule.enabled && equalFold rule.gateMode "BLOCKING" then "BLOCK"
        else "ALLOW_WITH_WARNINGS") := by
  grind [compareRuns, selectedRules]

end Compared

end Rhythm.Dynatrace
