import Mathlib.Tactic.FieldSimp
import Rhythm.Dynatrace.Coverage
import Rhythm.Json

/-!
# Rhythm.Dynatrace.StoredRuns

A query stores its run (`persistRun`), and what reads it back (`scanRun`) has no column for
the coverage and computes it again: from resources and metrics, where the query counted
series.  All the rest of a run returns as it was.

`storedBy_readsBack_iff`: a run reads back as it was exactly if both computations of its
coverage agree.
-/

namespace Rhythm.Dynatrace

/-! ## Texts of the columns -/

/-- `json.Marshal` of a pointer to a number, without `omitempty`. -/
def encodeNumber : Option Rat → Json
  | none => .null
  | some value => .num value

def decodeNumber : Json → Option Rat
  | .num value => some value
  | _ => none

def member (key : String) (value : Json) : Json :=
  (value.fields?.bind (·.lookup key)).getD .null

def decodeText : Json → String
  | .str value => value
  | _ => ""

def encodeStatistics (stats : Statistics) : Json :=
  .obj
    [("sampleCount", .num stats.sampleCount),
      ("minimum", encodeNumber stats.minimum),
      ("maximum", encodeNumber stats.maximum),
      ("average", encodeNumber stats.average),
      ("latest", encodeNumber stats.latest),
      ("p50", encodeNumber stats.p50),
      ("p95", encodeNumber stats.p95)]

def decodeStatistics (value : Json) : Statistics where
  sampleCount := ((decodeNumber (member "sampleCount" value)).getD 0).num.toNat
  minimum := decodeNumber (member "minimum" value)
  maximum := decodeNumber (member "maximum" value)
  average := decodeNumber (member "average" value)
  latest := decodeNumber (member "latest" value)
  p50 := decodeNumber (member "p50" value)
  p95 := decodeNumber (member "p95" value)

/-- The column `summary`; a nil map is `null`. -/
def encodeSummary : Summary → Json
  | none => .null
  | some entries => .obj (entries.map fun entry => (entry.1, encodeStatistics entry.2))

def decodeSummary (value : Json) : Summary :=
  value.fields?.map fun fields => fields.map fun field => (field.1, decodeStatistics field.2)

def optionalMember (key : String) (value : Option Rat) : List (String × Json) :=
  match value with
  | none => []
  | some value => [(key, .num value)]

def encodeRuleResult (result : RuleResult) : Json :=
  .obj
    ([("ruleId", .str result.ruleId),
        ("ruleName", .str result.ruleName),
        ("status", .str result.status),
        ("gateMode", .str result.gateMode),
        ("metric", .str result.metric),
        ("statistic", .str result.statistic)] ++
      optionalMember "observed" result.observed ++ optionalMember "baseline" result.baseline ++
      [("threshold", .num result.threshold),
        ("operator", .str result.operator),
        ("coveragePercent", .num result.coveragePercent),
        ("reason", .str result.reason)])

def decodeRuleResult (value : Json) : RuleResult where
  ruleId := decodeText (member "ruleId" value)
  ruleName := decodeText (member "ruleName" value)
  status := decodeText (member "status" value)
  gateMode := decodeText (member "gateMode" value)
  metric := decodeText (member "metric" value)
  statistic := decodeText (member "statistic" value)
  observed := decodeNumber (member "observed" value)
  baseline := decodeNumber (member "baseline" value)
  threshold := (decodeNumber (member "threshold" value)).getD 0
  operator := decodeText (member "operator" value)
  coveragePercent := (decodeNumber (member "coveragePercent" value)).getD 0
  reason := decodeText (member "reason" value)

/-- The column `rule_results`. -/
def encodeRuleResults (results : List RuleResult) : Json := .arr (results.map encodeRuleResult)

def decodeRuleResults (value : Json) : List RuleResult :=
  (value.items?.getD []).map decodeRuleResult

theorem decodeNumber_encodeNumber (value : Option Rat) :
    decodeNumber (encodeNumber value) = value := by
  cases value <;> rfl

theorem decodeStatistics_encodeStatistics (stats : Statistics) :
    decodeStatistics (encodeStatistics stats) = stats := by
  simp [decodeStatistics, encodeStatistics, member, Json.fields?, List.lookup_cons,
    decodeNumber_encodeNumber]
  rfl

theorem decodeSummary_encodeSummary (summary : Summary) :
    decodeSummary (encodeSummary summary) = summary := by
  cases summary with
  | none => rfl
  | some entries =>
    simp only [decodeSummary, encodeSummary, Json.fields?, Option.map_some, List.map_map]
    refine congrArg some ((List.map_congr_left fun entry _ => ?_).trans (List.map_id entries))
    rw [Function.comp_apply, decodeStatistics_encodeStatistics, id]

theorem decodeRuleResult_encodeRuleResult (result : RuleResult) :
    decodeRuleResult (encodeRuleResult result) = result := by
  obtain ⟨_, _, _, _, _, _, observed, baseline, _, _, _, _⟩ := result
  cases observed <;> cases baseline <;> rfl

theorem decodeRuleResults_encodeRuleResults (results : List RuleResult) :
    decodeRuleResults (encodeRuleResults results) = results := by
  simp only [decodeRuleResults, encodeRuleResults, Json.items?, Option.getD_some, List.map_map]
  refine (List.map_congr_left fun result _ => ?_).trans (List.map_id results)
  rw [Function.comp_apply, decodeRuleResult_encodeRuleResult, id]

/-! ## Rows -/

/-- A row of `dynatrace_runs`.  The columns `resources` and `request_evidence` hold what they
encode. -/
structure RunRow where
  id : String
  serviceId : Option String
  deploymentRunId : Option String
  status : String
  decision : String
  platform : String
  timeFrom : Time
  timeTo : Time
  resourceCount : Nat
  coveredResourceCount : Nat
  summary : Json
  resources : List ResourceMetric
  ruleResults : Json
  requestEvidence : Option RequestEvidence
  failureCategory : String
  failureReason : String
  correlationId : String

/-- `NULLIF($n, '')`. -/
def nullIfEmpty (value : String) : Option String := if value = "" then none else some value

/-- `persistRun`. -/
def persistRun (run : QueriedRun) : RunRow where
  id := run.id
  serviceId := nullIfEmpty run.serviceId
  deploymentRunId := nullIfEmpty run.deploymentRunId
  status := run.status
  decision := run.decision
  platform := run.platform
  timeFrom := run.timeFrom
  timeTo := run.timeTo
  resourceCount := run.resourceCount
  coveredResourceCount := run.coveredResourceCount
  summary := encodeSummary run.summary
  resources := run.resources
  ruleResults := encodeRuleResults run.ruleResults
  requestEvidence := run.requestEvidence
  failureCategory := run.failureCategory
  failureReason := run.failureReason
  correlationId := run.correlationId

/-- `scanRun`, with the `COALESCE` of its query. -/
def scanRun (row : RunRow) : QueriedRun :=
  let summary := decodeSummary row.summary
  { id := row.id
    status := row.status
    decision := row.decision
    resourceCount := row.resourceCount
    coveredResourceCount := row.coveredResourceCount
    coveragePercent := (storedCoverage row.resourceCount row.coveredResourceCount
      (summary.getD []).length).getD 0
    summary := summary
    failureCategory := row.failureCategory
    failureReason := row.failureReason
    serviceId := row.serviceId.getD ""
    deploymentRunId := row.deploymentRunId.getD ""
    platform := row.platform
    timeFrom := row.timeFrom
    timeTo := row.timeTo
    resources := row.resources
    ruleResults := decodeRuleResults row.ruleResults
    requestEvidence := row.requestEvidence
    correlationId := row.correlationId }

theorem getD_nullIfEmpty (value : String) : (nullIfEmpty value).getD "" = value := by
  unfold nullIfEmpty
  split
  · next h => exact h.symm
  · rfl

/-- **All but the coverage** of a run returns as it was. -/
theorem scanRun_persistRun (run : QueriedRun) : scanRun (persistRun run) = storedRun run := by
  simp only [scanRun, persistRun, storedRun, decodeSummary_encodeSummary,
    decodeRuleResults_encodeRuleResults, getD_nullIfEmpty]

/-! ## Reading back -/

def storedBy (store : RunStore) (upstream : Upstream) (config : QueryConfiguration)
    (input : QueryInput) : Option QueriedRun :=
  match store.persistFailure, collect upstream config input with
  | none, .ok answers => some (completedRun store.newId config input answers)
  | none, .error (.failed category reason) =>
    some (failedRun store.newId config input category reason)
  | _, _ => none

theorem query_fst (store : RunStore) (upstream : Upstream) (config : QueryConfiguration)
    (input : QueryInput) : (query store upstream (.ok config) input).1 =
      (storedBy store upstream config input).getD QueriedRun.zero := by
  simp only [query, storedBy]
  cases store.persistFailure with
  | some message | none =>
    cases collect upstream config input with
    | error failure => cases failure <;> rfl
    | ok answers => rfl

/-- What a stored run is read for: its verdict, its results and its coverage, and the
comparisons with it. -/
structure ReadsBack (run : QueriedRun) : Prop where
  status : (scanRun (persistRun run)).status = run.status
  decision : (scanRun (persistRun run)).decision = run.decision
  summary : (scanRun (persistRun run)).summary = run.summary
  ruleResults : (scanRun (persistRun run)).ruleResults = run.ruleResults
  resources : (scanRun (persistRun run)).resourceCount = run.resourceCount
  coveredResources : (scanRun (persistRun run)).coveredResourceCount = run.coveredResourceCount
  coverage : (scanRun (persistRun run)).coveragePercent = run.coveragePercent
  compared : ∀ configuration serviceID baseline ruleIDs,
    compareRuns configuration serviceID baseline (scanRun (persistRun run)).toRun ruleIDs =
      compareRuns configuration serviceID baseline run.toRun ruleIDs

/-- The share of the expected series that is covered, at most all of them, is the share of
covered resources for each measured metric. -/
def CoverageAgrees (answers : List PlatformAnswer) : Prop :=
  let series := allSeries answers
  let expected := expectedSeries answers
  let metrics := max 1 (summarizeResources series).length
  if expected = 0 then (coveredResourceIds series).length = 0
  else min (coveredSeries series) expected * ((resourceIds series).length * metrics) =
    (coveredResourceIds series).length * expected

section Coverage

variable {answers : List PlatformAnswer} {run : QueriedRun}

theorem readsBack_iff : ReadsBack run ↔
    (storedCoverage run.resourceCount run.coveredResourceCount
      (run.summary.getD []).length).getD 0 = run.coveragePercent := by
  constructor
  · intro h
    have hcoverage := h.coverage
    rw [scanRun_persistRun] at hcoverage
    exact hcoverage
  · intro h
    have hsame : scanRun (persistRun run) = run := by
      rw [scanRun_persistRun, storedRun, h]
    constructor <;> simp only [hsame, implies_true]

theorem min_percent (covered : Nat) {expected : Nat} (hpos : 0 < expected) :
    min 100 (covered / expected * 100 : Rat) = (min covered expected : Nat) / expected * 100 := by
  have hpos' : (0 : Rat) < expected := by exact_mod_cast hpos
  rcases Nat.le_total covered expected with hle | hle
  · have hle' : (covered : Rat) ≤ expected := by exact_mod_cast hle
    have hshare : (covered : Rat) / expected ≤ 1 := (div_le_one hpos').mpr hle'
    rw [Nat.min_eq_left hle, min_eq_right (by linarith)]
  · have hle' : (expected : Rat) ≤ covered := by exact_mod_cast hle
    have hshare : 1 ≤ (covered : Rat) / expected := (one_le_div hpos').mpr hle'
    rw [Nat.min_eq_right hle, min_eq_left (by linarith), div_self hpos'.ne', one_mul]

theorem percents_eq_iff {covered expected covered' expected' : Nat} (hpos : 0 < expected)
    (hpos' : 0 < expected') :
    (covered / expected * 100 : Rat) = covered' / expected' * 100 ↔
      covered * expected' = covered' * expected := by
  have hne : (expected : Rat) ≠ 0 := by exact_mod_cast hpos.ne'
  have hne' : (expected' : Rat) ≠ 0 := by exact_mod_cast hpos'.ne'
  rw [mul_left_inj' (by norm_num), div_eq_div_iff hne hne']
  norm_cast

theorem storedCoverage_eq {resources covered : Nat} (hpos : 0 < resources)
    (hle : covered ≤ resources) (metrics : Nat) :
    (storedCoverage resources covered metrics).getD 0 =
      (covered / (resources * max 1 metrics : Nat) * 100 : Rat) := by
  have hproduct : resources * 1 ≤ resources * max 1 metrics := Nat.mul_le_mul_left _ (by omega)
  have hexpected : 0 < resources * max 1 metrics := by omega
  rw [storedCoverage, if_pos hpos, percentOf_of_pos hexpected, Option.map_some, Option.getD_some,
    min_percent covered hexpected, Nat.min_eq_left (by omega)]

/-- **Both computations of the coverage** agree exactly if their shares do. -/
theorem readsBack_completedRun_iff (runID : String) (config : QueryConfiguration)
    (input : QueryInput) (answers : List PlatformAnswer) :
    ReadsBack (completedRun runID config input answers) ↔ CoverageAgrees answers := by
  rw [readsBack_iff]
  have hle : (coveredResourceIds (allSeries answers)).length ≤
      (resourceIds (allSeries answers)).length := coveredResourceIds_length_le
  have hcovered : 0 < coveredSeries (allSeries answers) →
      0 < (coveredResourceIds (allSeries answers)).length := fun hpos =>
    coveredResourceIds_length_pos_iff.mpr (coveredSeries_pos_iff.mp hpos)
  simp only [completedRun, CoverageAgrees, Option.getD_some]
  generalize expectedSeries answers = expected
  generalize coveredSeries (allSeries answers) = covered at hcovered ⊢
  generalize (coveredResourceIds (allSeries answers)).length = resources at hle hcovered ⊢
  generalize (resourceIds (allSeries answers)).length = total at hle ⊢
  generalize (summarizeResources (allSeries answers)).length = metrics
  by_cases htotal : total = 0
  · -- Without resources nothing is covered.
    have hresources : resources = 0 := by omega
    have hnone : covered = 0 := by omega
    subst htotal hresources hnone
    have hcoverage : (seriesCoverage expected 0).getD 0 = 0 := by
      grind [seriesCoverage, percentOf_of_pos, min_percent]
    rw [hcoverage]
    refine iff_of_true rfl ?_
    split
    · rfl
    · simp
  have htotalPos : 0 < total := by omega
  have hproduct : total * 1 ≤ total * max 1 metrics := Nat.mul_le_mul_left _ (by omega)
  have hexpected' : 0 < total * max 1 metrics := by omega
  rw [storedCoverage_eq htotalPos hle]
  by_cases hexpected : expected = 0
  · rw [seriesCoverage, if_neg (by omega), if_pos hexpected, Option.getD_some]
    have hne : ((total * max 1 metrics : Nat) : Rat) ≠ 0 := by exact_mod_cast hexpected'.ne'
    constructor
    · intro hzero
      have hshare : (resources : Rat) = 0 := by
        by_contra hresources
        exact mul_ne_zero (div_ne_zero hresources hne) (by norm_num) hzero
      exact_mod_cast hshare
    · rintro rfl
      simp
  · have hpos : 0 < expected := by omega
    rw [seriesCoverage, if_pos hpos, percentOf_of_pos hpos, if_neg hexpected, Option.map_some,
      Option.getD_some, min_percent covered hpos, eq_comm, percents_eq_iff hpos hexpected']

theorem readsBack_failedRun (runID : String) (config : QueryConfiguration) (input : QueryInput)
    (category reason : String) : ReadsBack (failedRun runID config input category reason) :=
  readsBack_iff.mpr rfl

/-- **Stored runs read back** as they were exactly if both computations of the coverage agree. -/
theorem storedBy_readsBack_iff (store : RunStore) (upstream : Upstream)
    (config : QueryConfiguration) (input : QueryInput)
    (hstored : storedBy store upstream config input = some run) :
    ReadsBack run ↔
      ∀ answers, collect upstream config input = .ok answers → CoverageAgrees answers := by
  unfold storedBy at hstored
  split at hstored
  · next answers _ hcollect =>
    cases hstored
    rw [readsBack_completedRun_iff]
    refine ⟨fun h answers' hanswers => ?_, fun h => h answers hcollect⟩
    rw [hcollect, Except.ok.injEq] at hanswers
    exact hanswers ▸ h
  · next category reason _ hcollect =>
    cases hstored
    refine iff_of_true (readsBack_failedRun ..) fun answers hanswers => ?_
    rw [hcollect] at hanswers
    cases hanswers
  · cases hstored

/-- A query of a container that answers all four selectors. -/
theorem storedBy_readsBack_iff_container :
    ReadsBack containerRun ↔ ∀ answers,
      collect containerUpstream containerConfiguration containerInput = .ok answers →
        CoverageAgrees answers :=
  storedBy_readsBack_iff containerStore containerUpstream containerConfiguration containerInput
    (by decide +kernel)

/-- The run has a coverage of 100 percent, and reads back with 50. -/
theorem container_not_readsBack :
    ¬∀ store upstream config input run, storedBy store upstream config input = some run →
      ReadsBack run := by
  intro h
  have hcoverage := (h containerStore containerUpstream containerConfiguration containerInput
    containerRun (by decide +kernel)).coverage
  revert hcoverage
  decide +kernel

end Coverage

end Rhythm.Dynatrace
