import Mathlib.Data.List.Dedup
import Mathlib.Tactic.Linarith
import Mathlib.Tactic.Positivity
import Rhythm.Dynatrace.Query

/-!
# Rhythm.Dynatrace.Coverage

When a fully covered query is allowed.  `Query` counts series: a platform is
expected to answer with one for each resource and selector.  `CompareRuns`
counts again: it expects one for each resource and measured metric, and takes
the covered resources for the covered series.

`compareRuns_fullCoverage_iff`: a run with full coverage whose rules pass is
allowed exactly if it does not measure both metrics.
-/

namespace Rhythm.Dynatrace

/-! ## Percentages -/

section Percent

variable {expected covered : Nat}

theorem percentOf_of_pos (hpos : 0 < expected) :
    percentOf covered expected = some (covered / expected * 100 : Rat) := by
  rw [percentOf, if_neg (by omega)]

theorem min_percentOf_bounds (hpos : 0 < expected) :
    ∃ percent, (percentOf covered expected).map (min 100) = some percent ∧
      0 ≤ percent ∧ percent ≤ 100 := by
  refine ⟨min 100 (covered / expected * 100 : Rat), by rw [percentOf_of_pos hpos]; rfl, ?_,
    min_le_left _ _⟩
  have hquotient : (0 : Rat) ≤ covered / expected * 100 := by positivity
  exact le_min (by norm_num) hquotient

theorem seriesCoverage_bounds (expected covered : Nat) :
    ∃ percent, seriesCoverage expected covered = some percent ∧ 0 ≤ percent ∧ percent ≤ 100 := by
  by_cases hpos : 0 < expected
  · rw [seriesCoverage, if_pos hpos]
    exact min_percentOf_bounds hpos
  · rw [seriesCoverage, if_neg hpos]
    exact ⟨0, rfl, le_refl 0, by norm_num⟩

theorem storedCoverage_bounds (resourceCount covered metrics : Nat) :
    ∃ percent, storedCoverage resourceCount covered metrics = some percent ∧
      0 ≤ percent ∧ percent ≤ 100 := by
  by_cases hpos : 0 < resourceCount
  · rw [storedCoverage, if_pos hpos]
    exact min_percentOf_bounds (Nat.mul_pos hpos (by omega))
  · rw [storedCoverage, if_neg hpos]
    exact ⟨0, rfl, le_refl 0, by norm_num⟩

end Percent

/-! ## Rules that pass -/

section Rules

variable {rule : Rule} {rules : List Rule} {summary baseline : Summary} {coverage : Rat}
  {serviceID : String}

theorem evaluateRule_none_of_pass
    (h : (evaluateRule rule summary coverage baseline).status = "PASS") :
    (evaluateRule rule summary coverage none).status = "PASS" ∨
      (evaluateRule rule summary coverage none).status = "SKIPPED" := by
  simp only [evaluateRule] at h ⊢
  cases hminimum : rule.minimumCoveragePercent.filter fun minimum => coverage < minimum with
  | some minimum => rw [hminimum] at h; simp at h
  | none =>
    rw [hminimum] at h
    cases hobserved : statisticValue (summary.statistics (Text.toUpper rule.metric))
        rule.statistic with
    | none => rw [hobserved] at h; simp at h
    | some observed =>
      grind [Text.toUpper, ruleValue]

def RuleResult.Passes (result : RuleResult) : Prop :=
  ¬ (result.status = "FAIL" ∨ result.status = "NO_DATA")

theorem classifyResults_of_passes {results : List RuleResult} {verdict : String × String}
    (h : ∀ result ∈ results, result.Passes) : classifyResults results verdict = verdict := by
  induction results generalizing verdict with
  | nil => rfl
  | cons result results ih =>
    rw [classifyResults, if_neg (h result List.mem_cons_self)]
    exact ih fun other hother => h other (List.mem_cons_of_mem _ hother)

/-- Every enabled rule that applies to the service passes. -/
def RulesPass (rules : List Rule) (serviceID : String) (summary : Summary) (coverage : Rat)
    (baseline : Summary) : Prop :=
  ∀ rule ∈ rules, rule.enabled = true → rule.serviceId = "" ∨ rule.serviceId = serviceID →
    (evaluateRule rule summary coverage baseline).status = "PASS"

theorem mem_evaluateRules {result : RuleResult} :
    result ∈ evaluateRules rules serviceID summary coverage baseline ↔
      ∃ rule ∈ rules, rule.enabled = true ∧ (rule.serviceId = "" ∨ rule.serviceId = serviceID) ∧
        evaluateRule rule summary coverage baseline = result := by
  simp [evaluateRules, and_assoc]

theorem RulesPass.subset {fewer : List Rule}
    (h : RulesPass rules serviceID summary coverage baseline)
    (hsubset : fewer ⊆ rules) : RulesPass fewer serviceID summary coverage baseline :=
  fun rule hmem => h rule (hsubset hmem)

theorem RulesPass.passes (h : RulesPass rules serviceID summary coverage baseline) :
    ∀ result ∈ evaluateRules rules serviceID summary coverage baseline, result.Passes := by
  intro result hresult
  obtain ⟨rule, hmem, henabled, hservice, rfl⟩ := mem_evaluateRules.mp hresult
  rw [RuleResult.Passes, h rule hmem henabled hservice]
  decide

theorem RulesPass.passes_none (h : RulesPass rules serviceID summary coverage baseline) :
    ∀ result ∈ evaluateRules rules serviceID summary coverage none, result.Passes := by
  intro result hresult
  obtain ⟨rule, hmem, henabled, hservice, rfl⟩ := mem_evaluateRules.mp hresult
  rw [RuleResult.Passes]
  rcases evaluateRule_none_of_pass (h rule hmem henabled hservice) with hstatus | hstatus
  · rw [hstatus]; decide
  · rw [hstatus]; decide

end Rules

/-! ## Measured metrics -/

section Measures

variable {resources : List ResourceMetric} {metric : String}

def Measures (resources : List ResourceMetric) (metric : String) : Prop :=
  ∃ resource ∈ resources, resource.metric = metric ∧ ∃ value, some value ∈ resource.series

theorem mem_measuredValues {maxima : Bool} {value : Rat} :
    value ∈ measuredValues resources metric maxima ↔
      ∃ resource ∈ resources, (resource.metric = metric ∧
        (resource.aggregation = "MAX" ↔ maxima = true)) ∧ some value ∈ resource.series := by
  cases maxima <;> simp [measuredValues, and_assoc]

theorem metricStatistics_isSome : (metricStatistics resources metric).isSome = true ↔
    Measures resources metric := by
  have hnone : (metricStatistics resources metric).isSome = true ↔
      ¬ (measuredValues resources metric false = [] ∧
        measuredValues resources metric true = []) := by
    simp only [metricStatistics]
    split
    · rename_i hempty
      simp [hempty]
    · rename_i hempty
      split <;> simp [hempty]
  rw [hnone]
  constructor
  · intro h
    rw [not_and_or] at h
    rcases h with h | h
    · obtain ⟨value, hvalue⟩ := List.exists_mem_of_ne_nil _ h
      obtain ⟨resource, hmem, ⟨hmetric, -⟩, hseries⟩ := mem_measuredValues.mp hvalue
      exact ⟨resource, hmem, hmetric, value, hseries⟩
    · obtain ⟨value, hvalue⟩ := List.exists_mem_of_ne_nil _ h
      obtain ⟨resource, hmem, ⟨hmetric, -⟩, hseries⟩ := mem_measuredValues.mp hvalue
      exact ⟨resource, hmem, hmetric, value, hseries⟩
  · rintro ⟨resource, hmem, hmetric, value, hseries⟩ ⟨haverages, hmaxima⟩
    have hall : ∀ maxima : Bool, (resource.aggregation = "MAX" ↔ maxima = true) →
        value ∈ measuredValues resources metric maxima := fun maxima haggregation =>
      mem_measuredValues.mpr ⟨resource, hmem, ⟨hmetric, haggregation⟩, hseries⟩
    by_cases haggregation : resource.aggregation = "MAX"
    · have hmember := hall true (by simp [haggregation])
      rw [hmaxima] at hmember
      simp at hmember
    · have hmember := hall false (by simp [haggregation])
      rw [haverages] at hmember
      simp at hmember

theorem summarizeResources_length :
    (summarizeResources resources).length ≤ 1 ↔
      ¬ (Measures resources "CPU" ∧ Measures resources "MEMORY") := by
  rw [← metricStatistics_isSome, ← metricStatistics_isSome]
  simp only [summarizeResources, List.filterMap_cons, List.filterMap_nil]
  cases metricStatistics resources "CPU" with
  | none | some cpu => cases metricStatistics resources "MEMORY" <;> simp

end Measures

/-! ## Full coverage -/

section Full

variable {answers : List PlatformAnswer} {series : List ResourceMetric}

/-- Each resource that a platform answers with has a measurement for each of its selectors. -/
def FullCoverage (answers : List PlatformAnswer) : Prop :=
  ∀ answer ∈ answers, ∀ resource ∈ resourceIds answer.series, ∀ selector ∈ answer.selectors,
    ∃ metric ∈ answer.series, metric.resourceId = resource ∧ metric.selector = selector ∧
      metric.Covered

/-- The answers that `CompareRuns` counts as `Query` does: some series is expected, each resource
is covered, and only one of the two metrics is measured. -/
structure OneMetric (answers : List PlatformAnswer) : Prop where
  expected : 0 < expectedSeries answers
  covered : ∀ metric ∈ allSeries answers, metric.resourceId ∈ coveredResourceIds (allSeries answers)
  single : ¬ (Measures (allSeries answers) "CPU" ∧ Measures (allSeries answers) "MEMORY")

theorem mem_resourceIds {resource : String} :
    resource ∈ resourceIds series ↔ ∃ metric ∈ series, metric.resourceId = resource := by
  simp [resourceIds]

theorem mem_coveredResourceIds {resource : String} :
    resource ∈ coveredResourceIds series ↔
      ∃ metric ∈ series, metric.Covered ∧ metric.resourceId = resource := by
  simp [coveredResourceIds, mem_resourceIds, and_assoc]

theorem coveredResourceIds_subset : coveredResourceIds series ⊆ resourceIds series := by
  intro resource hresource
  obtain ⟨metric, hmem, -, hid⟩ := mem_coveredResourceIds.mp hresource
  exact mem_resourceIds.mpr ⟨metric, hmem, hid⟩

theorem coveredResourceIds_length_le :
    (coveredResourceIds series).length ≤ (resourceIds series).length :=
  (List.nodup_dedup _).subperm coveredResourceIds_subset |>.length_le

theorem resourceIds_length_le_iff :
    (resourceIds series).length ≤ (coveredResourceIds series).length ↔
      ∀ metric ∈ series, metric.resourceId ∈ coveredResourceIds series := by
  have hsubperm : (coveredResourceIds series).Subperm (resourceIds series) :=
    (List.nodup_dedup _).subperm coveredResourceIds_subset
  constructor
  · intro hlength metric hmem
    have hperm := hsubperm.perm_of_length_le hlength
    exact hperm.mem_iff.mpr (mem_resourceIds.mpr ⟨metric, hmem, rfl⟩)
  · intro hcovered
    have hsubset : resourceIds series ⊆ coveredResourceIds series := by
      intro resource hresource
      obtain ⟨metric, hmem, rfl⟩ := mem_resourceIds.mp hresource
      exact hcovered metric hmem
    exact ((List.nodup_dedup _).subperm hsubset).length_le

theorem coveredSeries_pos_iff : 0 < coveredSeries series ↔ ∃ metric ∈ series, metric.Covered := by
  simp [coveredSeries, List.length_pos_iff_exists_mem]

theorem coveredResourceIds_length_pos_iff :
    0 < (coveredResourceIds series).length ↔ ∃ metric ∈ series, metric.Covered := by
  rw [List.length_pos_iff_exists_mem]
  constructor
  · rintro ⟨resource, hresource⟩
    obtain ⟨metric, hmem, hcovered, -⟩ := mem_coveredResourceIds.mp hresource
    exact ⟨metric, hmem, hcovered⟩
  · rintro ⟨metric, hmem, hcovered⟩
    exact ⟨metric.resourceId, mem_coveredResourceIds.mpr ⟨metric, hmem, hcovered, rfl⟩⟩

theorem FullCoverage.exists_covered (h : FullCoverage answers) (hpos : 0 < expectedSeries answers) :
    ∃ metric ∈ allSeries answers, metric.Covered := by
  obtain ⟨expected, hexpected, hne⟩ : ∃ n ∈ answers.map (·.expected), n ≠ 0 := by
    by_contra hnone
    push Not at hnone
    rw [expectedSeries, List.sum_eq_zero hnone] at hpos
    omega
  obtain ⟨answer, hanswer, rfl⟩ := List.mem_map.mp hexpected
  obtain ⟨hresources, hselectors⟩ := Nat.mul_ne_zero_iff.mp hne
  obtain ⟨resource, hresource⟩ := List.length_pos_iff_exists_mem.mp (by omega :
    0 < (resourceIds answer.series).length)
  obtain ⟨selector, hselector⟩ := List.length_pos_iff_exists_mem.mp (by omega :
    0 < answer.selectors.length)
  obtain ⟨metric, hmem, -, -, hcovered⟩ := h answer hanswer resource hresource selector hselector
  exact ⟨metric, List.mem_flatMap.mpr ⟨answer, hanswer, hmem⟩, hcovered⟩

theorem counts_agree_iff (h : FullCoverage answers) :
    (0 < expectedSeries answers ∧ 0 < coveredSeries (allSeries answers) ∧
        0 < (coveredResourceIds (allSeries answers)).length ∧
        max 1 ((resourceIds (allSeries answers)).length *
          max 1 (summarizeResources (allSeries answers)).length) ≤
            (coveredResourceIds (allSeries answers)).length) ↔ OneMetric answers := by
  have hle : (coveredResourceIds (allSeries answers)).length ≤
      (resourceIds (allSeries answers)).length := coveredResourceIds_length_le
  constructor
  · rintro ⟨hexpected, -, hpos, hcount⟩
    have hresources : 0 < (resourceIds (allSeries answers)).length := by omega
    have hmetrics : (summarizeResources (allSeries answers)).length ≤ 1 := by
      grind [resourceIds, allSeries, summarizeResources, Nat.mul_le_mul_left]
    rw [max_eq_left hmetrics, Nat.mul_one] at hcount
    exact ⟨hexpected, resourceIds_length_le_iff.mp (by omega),
      summarizeResources_length.mp hmetrics⟩
  · intro hone
    have hcovered := h.exists_covered hone.expected
    have hmetrics := summarizeResources_length.mpr hone.single
    have hresources := resourceIds_length_le_iff.mpr hone.covered
    have hpos := coveredResourceIds_length_pos_iff.mpr hcovered
    refine ⟨hone.expected, coveredSeries_pos_iff.mpr hcovered, hpos, ?_⟩
    rw [max_eq_left hmetrics, Nat.mul_one]
    omega

end Full

/-! ## The comparison -/

section Comparison

variable {store : RunStore} {upstream : Upstream} {config : QueryConfiguration}
  {input : QueryInput} {answers : List PlatformAnswer} {run : QueriedRun} {baseline : Summary}
  {ruleIDs : List String}

theorem classifyRun_of_passes {expected covered : Nat} {results : List RuleResult}
    (h : ∀ result ∈ results, result.Passes) :
    classifyRun expected covered results =
      if expected = 0 ∨ covered = 0 then ("NO_DATA", "ALLOW_WITH_WARNINGS")
      else if covered < expected then ("PARTIAL_DATA", "ALLOW_WITH_WARNINGS")
      else ("PASS", "ALLOW") :=
  classifyResults_of_passes h

theorem completedRun_status (runID : String)
    (hpass : RulesPass config.rules input.serviceId
      (completedRun runID config input answers).summary
      (completedRun runID config input answers).coveragePercent baseline) :
    ((completedRun runID config input answers).status = "ERROR" ∨
        (completedRun runID config input answers).status = "NO_DATA") ↔
      ¬ (0 < expectedSeries answers ∧ 0 < coveredSeries (allSeries answers)) := by
  have hstatus : (completedRun runID config input answers).status =
      (classifyRun (expectedSeries answers) (coveredSeries (allSeries answers))
        (evaluateRules config.rules input.serviceId
          (completedRun runID config input answers).summary
          (completedRun runID config input answers).coveragePercent none)).1 := rfl
  rw [hstatus, classifyRun_of_passes hpass.passes_none]
  by_cases hnone : expectedSeries answers = 0 ∨ coveredSeries (allSeries answers) = 0
  · rw [if_pos hnone]
    simp only [or_true, true_iff]
    omega
  · rw [if_neg hnone]
    have hpos : 0 < expectedSeries answers ∧ 0 < coveredSeries (allSeries answers) := by omega
    split <;> simp [hpos]

theorem classifyRun_allow_iff {expected covered : Nat} {results : List RuleResult}
    (h : ∀ result ∈ results, result.Passes) :
    (classifyRun expected covered results).2 = "ALLOW" ↔
      0 < expected ∧ 0 < covered ∧ expected ≤ covered := by
  grind [classifyRun_of_passes]

theorem compareRuns_allow_iff {configuration : Configuration} {serviceID : String} {post : Run}
    (hpass : RulesPass configuration.rules serviceID post.summary post.coveragePercent baseline) :
    (∃ results, compareRuns (.ok configuration) serviceID baseline post ruleIDs =
        .ok (results, "ALLOW")) ↔
      ¬ (post.status = "ERROR" ∨ post.status = "NO_DATA") ∧ 0 < post.coveredResourceCount ∧
        post.comparedSeries ≤ post.coveredResourceCount := by
  by_cases hstatus : post.status = "ERROR" ∨ post.status = "NO_DATA"
  · rw [compareRuns_of_noData hstatus]
    simp only [hstatus, not_true_eq_false, false_and, iff_false]
    rintro ⟨results, hresults⟩
    rw [Except.ok.injEq, Prod.mk.injEq] at hresults
    have hdecision := hresults.2
    split at hdecision <;> simp at hdecision
  · rw [compareRuns_of_data hstatus]
    have hpasses := (hpass.subset (selectedRules_subset configuration.rules ruleIDs)).passes
    have hpos : 0 < post.comparedSeries := lt_max_of_lt_left Nat.one_pos
    simp only [Except.ok.injEq, Prod.mk.injEq, exists_eq_left', hstatus, not_false_eq_true,
      true_and]
    rw [classifyRun_allow_iff hpasses]
    simp only [hpos, true_and]

/-- **Full coverage.**  A query that measured each resource for each selector and whose applicable
rules pass is allowed by `CompareRuns` exactly if only one metric is measured.  Its coverage, fresh
and read back, is a percentage. -/
theorem compareRuns_fullCoverage_iff (store : RunStore) (upstream : Upstream)
    (config : QueryConfiguration) (input : QueryInput) (answers : List PlatformAnswer)
    (run : QueriedRun) (baseline : Summary) (ruleIDs : List String)
    (hcollect : collect upstream config input = .ok answers)
    (hquery : query store upstream (.ok config) input = (run, none)) :
    (FullCoverage answers →
      RulesPass config.rules input.serviceId run.summary run.coveragePercent baseline →
      ((∃ results, compareRuns (.ok config.toConfiguration) input.serviceId baseline run.toRun
          ruleIDs = .ok (results, "ALLOW")) ↔ OneMetric answers)) ∧
    (seriesCoverage (expectedSeries answers) (coveredSeries (allSeries answers)) =
        some run.coveragePercent ∧ 0 ≤ run.coveragePercent ∧ run.coveragePercent ≤ 100) ∧
    (storedCoverage run.resourceCount run.coveredResourceCount (run.summary.getD []).length =
        some (storedRun run).coveragePercent ∧ 0 ≤ (storedRun run).coveragePercent ∧
      (storedRun run).coveragePercent ≤ 100) := by
  obtain ⟨collected, hcollected, rfl⟩ := query_ok hquery
  have hsame : collected = answers := by
    rw [hcollect, Except.ok.injEq] at hcollected
    exact hcollected.symm
  subst hsame
  refine ⟨fun hfull hpass => ?_, ?_, ?_⟩
  · rw [compareRuns_allow_iff hpass, completedRun_status store.newId hpass, not_not,
      ← counts_agree_iff hfull, and_assoc]
    rfl
  · obtain ⟨percent, hpercent, hbounds⟩ :=
      seriesCoverage_bounds (expectedSeries collected) (coveredSeries (allSeries collected))
    simp only [completedRun, hpercent, Option.getD_some, true_and]
    exact hbounds
  · obtain ⟨percent, hpercent, hbounds⟩ := storedCoverage_bounds
      (completedRun store.newId config input collected).resourceCount
      (completedRun store.newId config input collected).coveredResourceCount
      ((completedRun store.newId config input collected).summary.getD []).length
    simp only [storedRun, hpercent, Option.getD_some, true_and]
    exact hbounds

end Comparison

/-! ## One container with both metrics -/

def containerSeries (metric aggregation selector : String) (value : Rat) : ResourceMetric where
  resourceId := "checkout-7f9"
  metric := metric
  aggregation := aggregation
  selector := selector
  statistics := statistics [value] (some value)
  series := [some value]

/-- A provider that answers each of the four selectors of one container. -/
def containerProvider : Provider where
  metricDescriptor _ _ := .ok ⟨["avg", "max"]⟩
  queryMetric _ _ :=
    ([containerSeries "CPU" "AVG"
        "builtin:containers.cpu.usagePercent:splitBy(\"Container\"):avg:names" 40,
      containerSeries "CPU" "MAX"
        "builtin:containers.cpu.usagePercent:splitBy(\"Container\"):max:names" 55,
      containerSeries "MEMORY" "AVG"
        "builtin:containers.memory.usagePercent:splitBy(\"Container\"):avg:names" 60,
      containerSeries "MEMORY" "MAX"
        "builtin:containers.memory.usagePercent:splitBy(\"Container\"):max:names" 62],
      "request-1", none)

def containerProfile : ConnectionProfile where
  kind := "TELEMETRY"
  profileType := "DYNATRACE"
  active := true
  baseUrl := "https://dynatrace.example"
  tokenSecretRef := "token"

def containerUpstream : Upstream where
  library :=
    { profile := some containerProfile
      resolveSecret := some
      materialFailure := none }
  provider := containerProvider
  parsesWithHost _ := false

def cpuRule : Rule where
  id := "cpu"
  serviceId := ""
  name := "CPU"
  metric := "CPU"
  statistic := "AVERAGE"
  operator := "GT"
  threshold := 90
  comparison := "ABSOLUTE"
  gateMode := "BLOCKING"
  minimumCoveragePercent := some 100
  enabled := true

def containerConfiguration : QueryConfiguration where
  stabilizationSeconds := 600
  postWindowSeconds := 900
  revisionNumber := 1
  rules := [cpuRule]
  credentialSecretRef := ""
  platforms := ["HYDRA"]
  managementZones := ["checkout"]
  metricMappings := ⟨"", "", "", "", "", ""⟩
  resourceMappings := []
  serviceOverrides := []

def containerInput : QueryInput where
  serviceId := ""
  timeFrom := 1000
  timeTo := 901000

def containerStore : RunStore := ⟨"run-1", none⟩

def containerAnswers : List PlatformAnswer :=
  match collect containerUpstream containerConfiguration containerInput with
  | .ok answers => answers
  | .error _ => []

def containerRun : QueriedRun :=
  (query containerStore containerUpstream (.ok containerConfiguration) containerInput).1

instance (answers : List PlatformAnswer) : Decidable (FullCoverage answers) :=
  inferInstanceAs (Decidable (∀ answer ∈ answers, ∀ resource ∈ resourceIds answer.series,
    ∀ selector ∈ answer.selectors, ∃ metric ∈ answer.series, metric.resourceId = resource ∧
      metric.selector = selector ∧ metric.Covered))

instance (rules : List Rule) (serviceID : String) (summary : Summary) (coverage : Rat)
    (baseline : Summary) : Decidable (RulesPass rules serviceID summary coverage baseline) :=
  inferInstanceAs (Decidable (∀ rule ∈ rules, rule.enabled = true →
    rule.serviceId = "" ∨ rule.serviceId = serviceID →
      (evaluateRule rule summary coverage baseline).status = "PASS"))

theorem collect_container :
    collect containerUpstream containerConfiguration containerInput = .ok containerAnswers := by
  decide +kernel

theorem query_container :
    query containerStore containerUpstream (.ok containerConfiguration) containerInput =
      (containerRun, none) := by
  decide +kernel

theorem fullCoverage_container : FullCoverage containerAnswers := by decide +kernel

theorem rulesPass_container :
    RulesPass containerConfiguration.rules "" containerRun.summary containerRun.coveragePercent
      (some []) := by
  decide +kernel

/-- A container with all four series: coverage of 100 percent, a rule that passes, and a warning. -/
theorem compareRuns_container_warns :
    FullCoverage containerAnswers ∧
      RulesPass containerConfiguration.rules "" containerRun.summary containerRun.coveragePercent
        (some []) ∧
      containerRun.coveragePercent = 100 ∧
      ¬ ∃ results, compareRuns (.ok containerConfiguration.toConfiguration) "" (some [])
        containerRun.toRun [] = .ok (results, "ALLOW") := by
  refine ⟨fullCoverage_container, rulesPass_container, by decide +kernel, ?_⟩
  have hwarns : (compareRuns (.ok containerConfiguration.toConfiguration) "" (some [])
      containerRun.toRun []).map Prod.snd = .ok "ALLOW_WITH_WARNINGS" := by decide +kernel
  rintro ⟨results, hresults⟩
  rw [hresults] at hwarns
  simp [Except.map] at hwarns

theorem compareRuns_fullCoverage_iff_container :
    (∃ results, compareRuns (.ok containerConfiguration.toConfiguration) "" (some [])
        containerRun.toRun [] = .ok (results, "ALLOW")) ↔ OneMetric containerAnswers :=
  (compareRuns_fullCoverage_iff containerStore containerUpstream containerConfiguration
    containerInput containerAnswers containerRun (some []) [] collect_container
    query_container).1 fullCoverage_container rulesPass_container

end Rhythm.Dynatrace
