import Rhythm.Dynatrace.Latest

/-!
# Rhythm.Dynatrace.RuleLaws

The laws of `evaluateRules` and `classifyRun`.  A result is at fault when it is `FAIL` or
`NO_DATA`; which rules are at fault is a question about their observed values alone
(`Rule.Faults`), and the verdict asks whether some rule is at fault, and whether a blocking
one is.  So no order of the rules matters.

The order of the resources reaches the rules through the latest values.
`evaluation_exact_iff`: it changes no verdict exactly if the last values of all averaged
series lead to the same answers to these two questions.
-/

namespace Rhythm.Dynatrace

open Text Numeric

/-! ## Rules at fault -/

/-- `FAIL` or `NO_DATA`. -/
def RuleResult.AtFault (result : RuleResult) : Prop :=
  result.status = "FAIL" ∨ result.status = "NO_DATA"

instance (result : RuleResult) : Decidable result.AtFault := inferInstanceAs (Decidable (_ ∨ _))

def Rule.Relative (rule : Rule) : Prop :=
  toUpper rule.comparison = "BASELINE_ABSOLUTE" ∨ toUpper rule.comparison = "BASELINE_PERCENT"

instance (rule : Rule) : Decidable rule.Relative := inferInstanceAs (Decidable (_ ∨ _))

/-- The failure condition of a rule that compares with a baseline value. -/
def Rule.FaultsAgainst (rule : Rule) (observed : Rat) : Option Rat → Prop
  | none => True
  | some base =>
    if toUpper rule.comparison = "BASELINE_PERCENT" then
      base = 0 ∨ compare ((observed - base) / |base| * 100) (toUpper rule.operator) rule.threshold
    else compare (observed - base) (toUpper rule.operator) rule.threshold

/-- The rule is at fault: its coverage is too low, it has no value, or its value meets the
failure condition.  Without any baseline a relative rule is skipped. -/
def Rule.Faults (rule : Rule) (coverage : Rat) (baseline : Summary) (observed : Option Rat) :
    Prop :=
  (∃ minimum, rule.minimumCoveragePercent = some minimum ∧ coverage < minimum) ∨
    match observed with
    | none => True
    | some observed =>
      if rule.Relative then
        baseline ≠ none ∧ rule.FaultsAgainst observed
          (statisticValue (baseline.statistics (toUpper rule.metric)) rule.statistic)
      else compare observed (toUpper rule.operator) rule.threshold

section Rules

variable {rule : Rule} {rules rules' : List Rule} {summary baseline : Summary} {coverage : Rat}
  {serviceID : String}

def Rule.FailsAt (rule : Rule) : Except (String × String) Rat → Prop
  | .error (status, _) => status = "FAIL" ∨ status = "NO_DATA"
  | .ok value => compare value (toUpper rule.operator) rule.threshold

theorem failsAt_ruleValue_iff (observed : Rat) :
    rule.FailsAt (ruleValue rule observed baseline).2 ↔
      if rule.Relative then
        baseline ≠ none ∧ rule.FaultsAgainst observed
          (statisticValue (baseline.statistics (toUpper rule.metric)) rule.statistic)
      else compare observed (toUpper rule.operator) rule.threshold := by
  have hspelled : rule.Relative ↔ toUpper rule.comparison = "BASELINE_ABSOLUTE" ∨
      toUpper rule.comparison = "BASELINE_PERCENT" := Iff.rfl
  simp only [ruleValue]
  by_cases hrelative : rule.Relative
  · rw [if_pos hrelative, if_pos (hspelled.mp hrelative)]
    by_cases hbaseline : baseline = none
    · rw [if_pos hbaseline]
      exact iff_of_false (by simp [Rule.FailsAt]) fun h => h.1 hbaseline
    · rw [if_neg hbaseline, and_iff_right hbaseline]
      cases statisticValue (baseline.statistics (toUpper rule.metric)) rule.statistic with
      | none => exact iff_of_true (.inr rfl) trivial
      | some base =>
        simp only [Rule.FaultsAgainst]
        by_cases hpercent : toUpper rule.comparison = "BASELINE_PERCENT"
        · rw [if_pos hpercent, if_pos hpercent]
          by_cases hzero : base = 0
          · rw [if_pos hzero]
            exact iff_of_true (.inr rfl) (.inl hzero)
          · rw [if_neg hzero, or_iff_right hzero]
            rfl
        · rw [if_neg hpercent, if_neg hpercent]
          rfl
  · rw [if_neg hrelative, if_neg (mt hspelled.mpr hrelative)]
    rfl

/-- **A result is at fault** exactly if its rule is. -/
theorem atFault_evaluateRule_iff : (evaluateRule rule summary coverage baseline).AtFault ↔
    rule.Faults coverage baseline
      (statisticValue (summary.statistics (toUpper rule.metric)) rule.statistic) := by
  simp only [evaluateRule, Rule.Faults]
  generalize statisticValue (summary.statistics (toUpper rule.metric)) rule.statistic = observed
  cases hminimum : rule.minimumCoveragePercent.filter fun minimum => coverage < minimum with
  | some minimum =>
    obtain ⟨hsome, hlow⟩ := Option.filter_eq_some_iff.mp hminimum
    exact iff_of_true (.inl rfl) (.inl ⟨minimum, hsome, of_decide_eq_true hlow⟩)
  | none =>
    have henough : ¬∃ minimum, rule.minimumCoveragePercent = some minimum ∧
        coverage < minimum := by
      rintro ⟨minimum, hsome, hlow⟩
      rw [hsome, Option.filter_some, if_pos (by simpa using hlow)] at hminimum
      cases hminimum
    rw [or_iff_right henough]
    cases observed with
    | none => exact iff_of_true (.inr rfl) trivial
    | some observed =>
      dsimp only
      rw [← failsAt_ruleValue_iff]
      generalize ruleValue rule observed baseline = value
      obtain ⟨base, value⟩ := value
      cases value with
      | error status => rfl
      | ok value =>
        by_cases hfails : compare value (toUpper rule.operator) rule.threshold = true
        · simp only [hfails, if_true]
          exact iff_of_true (.inl rfl) hfails
        · simp only [hfails]
          exact iff_of_false (by simp [RuleResult.AtFault]) hfails

end Rules

/-! ## The verdict -/

/-- The gate mode is `BLOCKING`. -/
def RuleResult.Blocking (result : RuleResult) : Prop := toUpper result.gateMode = "BLOCKING"

instance (result : RuleResult) : Decidable result.Blocking :=
  inferInstanceAs (Decidable (_ = _))

def Rule.Blocking (rule : Rule) : Prop := toUpper rule.gateMode = "BLOCKING"

/-- The rule is enabled, and for all services or the given one. -/
def Rule.Applies (rule : Rule) (serviceID : String) : Prop :=
  rule.enabled = true ∧ (rule.serviceId = "" ∨ rule.serviceId = serviceID)

/-- The verdict of `classifyRun`, from whether a blocking result is at fault and whether any is. -/
def verdictOf (expected covered : Nat) (blocked faulted : Bool) : String × String :=
  if blocked then ("FAIL", "BLOCK")
  else if faulted then ("WARNING", "ALLOW_WITH_WARNINGS")
  else if expected = 0 ∨ covered = 0 then ("NO_DATA", "ALLOW_WITH_WARNINGS")
  else if covered < expected then ("PARTIAL_DATA", "ALLOW_WITH_WARNINGS")
  else ("PASS", "ALLOW")

def blockedBy (results : List RuleResult) : Bool :=
  results.any fun result => result.AtFault ∧ result.Blocking

def faultedBy (results : List RuleResult) : Bool := results.any fun result => result.AtFault

section Verdict

variable {results results' : List RuleResult} {verdict : String × String} {rule : Rule}
  {rules rules' : List Rule} {summary baseline : Summary} {coverage : Rat} {serviceID : String}
  {expected covered : Nat}

theorem classifyResults_eq : classifyResults results verdict =
    if blockedBy results then ("FAIL", "BLOCK")
    else if faultedBy results then ("WARNING", "ALLOW_WITH_WARNINGS")
    else verdict := by
  induction results generalizing verdict with
  | nil => rfl
  | cons result results ih =>
    have hfault : result.AtFault ↔ result.status = "FAIL" ∨ result.status = "NO_DATA" := Iff.rfl
    have hblocking : result.Blocking ↔ toUpper result.gateMode = "BLOCKING" := Iff.rfl
    simp only [classifyResults, ← hfault, ← hblocking, ih, blockedBy, faultedBy, List.any_cons]
    by_cases hatFault : result.AtFault
    · by_cases hblocks : result.Blocking <;> simp [hatFault, hblocks]
    · simp [hatFault]

theorem classifyRun_eq : classifyRun expected covered results =
    verdictOf expected covered (blockedBy results) (faultedBy results) :=
  classifyResults_eq

theorem decision_verdictOf_eq_block {blocked faulted : Bool} :
    (verdictOf expected covered blocked faulted).2 = "BLOCK" ↔ blocked = true := by
  grind [verdictOf]

theorem verdictOf_eq_iff {blocked blocked' faulted faulted' : Bool} :
    verdictOf expected covered blocked faulted = verdictOf expected covered blocked' faulted' ↔
      blocked = blocked' ∧ (blocked = false → faulted = faulted') := by
  unfold verdictOf
  cases blocked <;> cases blocked' <;> cases faulted <;> cases faulted' <;> simp <;>
    (repeat' split) <;> simp

theorem mem_evaluateRules_iff {result : RuleResult} :
    result ∈ evaluateRules rules serviceID summary coverage baseline ↔
      ∃ rule ∈ rules, rule.Applies serviceID ∧
        evaluateRule rule summary coverage baseline = result := by
  simp [evaluateRules, Rule.Applies, and_assoc]

theorem blocking_evaluateRule :
    (evaluateRule rule summary coverage baseline).Blocking ↔ rule.Blocking := by
  have hmode : (evaluateRule rule summary coverage baseline).gateMode = rule.gateMode := by
    simp only [evaluateRule]
    split
    · rfl
    · split
      · rfl
      · split
        · rfl
        · split <;> rfl
  rw [RuleResult.Blocking, hmode, Rule.Blocking]

theorem blockedBy_evaluateRules_iff :
    blockedBy (evaluateRules rules serviceID summary coverage baseline) = true ↔
      ∃ rule ∈ rules, rule.Applies serviceID ∧ rule.Blocking ∧
        (evaluateRule rule summary coverage baseline).AtFault := by
  simp only [blockedBy, List.any_eq_true, decide_eq_true_eq]
  constructor
  · rintro ⟨result, hresult, hfault, hblocks⟩
    obtain ⟨rule, hrule, happlies, rfl⟩ := mem_evaluateRules_iff.mp hresult
    exact ⟨rule, hrule, happlies, blocking_evaluateRule.mp hblocks, hfault⟩
  · rintro ⟨rule, hrule, happlies, hblocks, hfault⟩
    exact ⟨_, mem_evaluateRules_iff.mpr ⟨rule, hrule, happlies, rfl⟩, hfault,
      blocking_evaluateRule.mpr hblocks⟩

theorem faultedBy_evaluateRules_iff :
    faultedBy (evaluateRules rules serviceID summary coverage baseline) = true ↔
      ∃ rule ∈ rules, rule.Applies serviceID ∧
        (evaluateRule rule summary coverage baseline).AtFault := by
  simp only [faultedBy, List.any_eq_true, decide_eq_true_eq]
  constructor
  · rintro ⟨result, hresult, hfault⟩
    obtain ⟨rule, hrule, happlies, rfl⟩ := mem_evaluateRules_iff.mp hresult
    exact ⟨rule, hrule, happlies, hfault⟩
  · rintro ⟨rule, hrule, happlies, hfault⟩
    exact ⟨_, mem_evaluateRules_iff.mpr ⟨rule, hrule, happlies, rfl⟩, hfault⟩

/-- **The order of the rules** changes no verdict. -/
theorem classifyRun_of_perm (h : rules.Perm rules') :
    classifyRun expected covered (evaluateRules rules serviceID summary coverage baseline) =
      classifyRun expected covered (evaluateRules rules' serviceID summary coverage baseline) := by
  have hresults : (evaluateRules rules serviceID summary coverage baseline).Perm
      (evaluateRules rules' serviceID summary coverage baseline) := (h.filter _).map _
  rw [classifyRun_eq, classifyRun_eq, blockedBy, blockedBy, faultedBy, faultedBy, hresults.any_eq,
    hresults.any_eq]

end Verdict

/-! ## Latest values -/

/-- The latest value of a metric in a summary of the resources, in their order. -/
def latestIn (resources : List ResourceMetric) (metric : String) : Option Rat :=
  if metric ∈ ["CPU", "MEMORY"] then (measuredValues resources metric false).getLast? else none

/-- A value that the series of the metric could leave as its latest. -/
def Attains (resources : List ResourceMetric) (metric : String) : Option Rat → Prop
  | none => measuredValues resources metric false = []
  | some value => ∃ resource ∈ resources, resource.Averages metric ∧
      resource.lastValue = some value

/-- Latest values of the summarized metrics, each of some series. -/
def Attainable (resources : List ResourceMetric) (latest : String → Option Rat) : Prop :=
  ∀ metric, if metric ∈ ["CPU", "MEMORY"] then Attains resources metric (latest metric)
    else latest metric = none

/-- The statistics of a metric, with another latest value. -/
def withLatest (stats : Statistics) (latest : Option Rat) : Statistics :=
  { stats with latest := latest }

section Latest

variable {resources resources' : List ResourceMetric} {metric : String}
  {latest : String → Option Rat}

theorem lookup_summarizeResources : (summarizeResources resources).lookup metric =
    if metric ∈ ["CPU", "MEMORY"] then metricStatistics resources metric else none := by
  simp only [summarizeResources, List.filterMap_cons, List.filterMap_nil]
  by_cases hcpu : metric = "CPU"
  · subst hcpu
    cases metricStatistics resources "CPU" <;> cases metricStatistics resources "MEMORY" <;>
      simp [List.lookup_cons]
  · by_cases hmemory : metric = "MEMORY"
    · subst hmemory
      cases metricStatistics resources "CPU" <;> cases metricStatistics resources "MEMORY" <;>
        simp [List.lookup_cons]
    · have hcpu' : (metric == "CPU") = false := by simpa using hcpu
      have hmemory' : (metric == "MEMORY") = false := by simpa using hmemory
      cases metricStatistics resources "CPU" <;> cases metricStatistics resources "MEMORY" <;>
        simp [List.lookup_cons, hcpu, hmemory, hcpu', hmemory']

theorem metricStatistics_perm (h : resources.Perm resources') :
    metricStatistics resources' metric = (metricStatistics resources metric).map fun stats =>
      withLatest stats (measuredValues resources' metric false).getLast? := by
  have haverages := measuredValues_perm h metric false
  have hmaxima := measuredValues_perm h metric true
  have hsorted := insertionSort_eq_of_perm haverages
  have hsorted' := insertionSort_eq_of_perm hmaxima
  simp only [metricStatistics]
  generalize measuredValues resources metric false = averages at haverages hsorted
  generalize measuredValues resources' metric false = averages' at haverages hsorted
  generalize measuredValues resources metric true = maxima at hmaxima hsorted'
  generalize measuredValues resources' metric true = maxima' at hmaxima hsorted'
  have hnoAverage : averages' = [] ↔ averages = [] :=
    ⟨fun hnil => (hnil ▸ haverages).eq_nil, fun hnil => (hnil ▸ haverages).symm.eq_nil⟩
  have hnoMaximum : maxima' = [] ↔ maxima = [] :=
    ⟨fun hnil => (hnil ▸ hmaxima).eq_nil, fun hnil => (hnil ▸ hmaxima).symm.eq_nil⟩
  have hstats : statistics averages' averages'.getLast? =
      withLatest (statistics averages averages.getLast?) averages'.getLast? := by
    simp only [statistics, withLatest, hnoAverage, hsorted]
    split
    · next hnil => rw [hnoAverage.mpr hnil, List.getLast?_nil]
    · rfl
  simp only [hnoAverage, hnoMaximum, hstats, hsorted']
  split
  · rfl
  · split <;> rfl

/-- **The order of the resources** reaches a summary through its latest values. -/
theorem statistics_summarizeResources_perm (h : resources.Perm resources') (metric : String) :
    Summary.statistics (some (summarizeResources resources')) metric =
      withLatest (Summary.statistics (some (summarizeResources resources)) metric)
        (latestIn resources' metric) := by
  simp only [Summary.statistics, Option.getD_some, lookup_summarizeResources, latestIn]
  split
  · rw [metricStatistics_perm h]
    cases hstats : metricStatistics resources metric with
    | some stats => rfl
    | none =>
      have hlatest := latest_metricStatistics resources' metric
      rw [metricStatistics_perm h, hstats] at hlatest
      rw [← hlatest]
      rfl
  · rfl

theorem attainable_latestIn (h : resources.Perm resources') :
    Attainable resources (latestIn resources') := by
  intro metric
  simp only [latestIn]
  split
  · cases hlast : (measuredValues resources' metric false).getLast? with
    | none =>
      have hvalues := measuredValues_perm h metric false
      rw [List.getLast?_eq_none_iff.mp hlast] at hvalues
      exact hvalues.eq_nil
    | some value =>
      obtain ⟨resource, hresource, haverages, hvalue⟩ := exists_lastValue hlast
      exact ⟨resource, h.mem_iff.mpr hresource, haverages, hvalue⟩
  · rfl

/-- A series moved to the end makes its last value the latest of its metric, and changes nothing
for another metric. -/
theorem exists_perm_latest {value : Option Rat} (h : Attains resources metric value) :
    ∃ resources', resources.Perm resources' ∧
      (measuredValues resources' metric false).getLast? = value ∧
      ∀ other, other ≠ metric →
        measuredValues resources' other false = measuredValues resources other false := by
  cases value with
  | none => exact ⟨resources, .refl _, by rw [(h : _ = []), List.getLast?_nil], fun _ _ => rfl⟩
  | some value =>
    obtain ⟨resource, hresource, haverages, hvalue⟩ := h
    obtain ⟨before, after, rfl⟩ := List.append_of_mem hresource
    refine ⟨before ++ after ++ [resource],
      List.perm_middle.trans (List.perm_append_singleton _ _).symm,
      getLast?_measuredValues_concat haverages hvalue, fun other hother => ?_⟩
    have hnot : ¬resource.Averages other := fun hsame => hother (hsame.1.symm.trans haverages.1)
    rw [measuredValues_concat_of_not hnot, measuredValues_averages, measuredValues_averages]
    simp [hnot]

theorem Attains.of_perm {value : Option Rat} (h : Attains resources metric value)
    (hperm : resources.Perm resources') : Attains resources' metric value := by
  cases value with
  | none =>
    have hvalues := measuredValues_perm hperm metric false
    rw [(h : measuredValues resources metric false = [])] at hvalues
    exact hvalues.symm.eq_nil
  | some value =>
    obtain ⟨resource, hresource, haverages, hvalue⟩ := h
    exact ⟨resource, hperm.mem_iff.mp hresource, haverages, hvalue⟩

/-- **Every choice of latest values** is that of some order. -/
theorem exists_perm_latestIn (h : Attainable resources latest) :
    ∃ resources', resources.Perm resources' ∧ latestIn resources' = latest := by
  have hcpu : Attains resources "CPU" (latest "CPU") := h "CPU"
  have hmemory : Attains resources "MEMORY" (latest "MEMORY") := h "MEMORY"
  obtain ⟨first, hfirst, hfirstLatest, -⟩ := exists_perm_latest hcpu
  obtain ⟨second, hsecond, hsecondLatest, hkeeps⟩ := exists_perm_latest (hmemory.of_perm hfirst)
  refine ⟨second, hfirst.trans hsecond, funext fun metric => ?_⟩
  unfold latestIn
  split
  · next hmetric =>
    rw [List.mem_pair] at hmetric
    rcases hmetric with rfl | rfl
    · rw [hkeeps "CPU" (by decide), hfirstLatest]
    · exact hsecondLatest
  · next hmetric =>
    have hnone := h metric
    rw [if_neg hmetric] at hnone
    exact hnone.symm

end Latest

/-! ## Divisions -/

def divide? (x y : Rat) : Option Rat := if y = 0 then none else some (x / y)

/-- `ruleValue`, with checked divisions. -/
def ruleValue? (rule : Rule) (observed : Rat) (baseline : Summary) :
    Option (Option Rat × Except (String × String) Rat) :=
  let comparison := toUpper rule.comparison
  if comparison = "BASELINE_ABSOLUTE" ∨ comparison = "BASELINE_PERCENT" then
    if baseline = none then
      some (none, .error ("SKIPPED", "A baseline is required to evaluate this rule."))
    else
      match statisticValue (baseline.statistics (toUpper rule.metric)) rule.statistic with
      | none =>
        some (none, .error ("NO_DATA", "The baseline did not contain the selected metric."))
      | some base =>
        if comparison = "BASELINE_PERCENT" then
          if base = 0 then
            some (some base,
              .error ("NO_DATA", "Percentage change cannot be calculated from a zero baseline."))
          else (divide? (observed - base) |base|).map fun quotient =>
            (some base, .ok (quotient * 100))
        else some (some base, .ok (observed - base))
  else some (none, .ok observed)

/-- `statistics`, with checked divisions. -/
def statistics? (values : List Rat) (latest : Option Rat) : Option Statistics :=
  let sorted := values.insertionSort (· ≤ ·)
  if values = [] then some ⟨0, none, none, none, none, none, none⟩
  else
    (divide? sorted.sum sorted.length).map fun average =>
      { sampleCount := sorted.length
        minimum := sorted.head?
        maximum := sorted.getLast?
        average := some average
        latest := latest
        p50 := some (percentile sorted 50)
        p95 := some (percentile sorted 95) }

theorem ruleValue?_eq (rule : Rule) (observed : Rat) (baseline : Summary) :
    ruleValue? rule observed baseline = some (ruleValue rule observed baseline) := by
  simp only [ruleValue?, ruleValue]
  generalize statisticValue (baseline.statistics (toUpper rule.metric)) rule.statistic = base
  split
  · grind [divide?]
  · rfl

theorem statistics?_eq (values : List Rat) (latest : Option Rat) :
    statistics? values latest = some (statistics values latest) := by
  simp only [statistics?, statistics]
  split
  · rfl
  · next hvalues =>
    have hcount : ((values.insertionSort (· ≤ ·)).length : Rat) ≠ 0 := by
      rw [List.length_insertionSort, Nat.cast_ne_zero, ← Nat.pos_iff_ne_zero,
        List.length_pos_iff]
      exact hvalues
    rw [divide?, if_neg hcount]
    rfl

/-! ## Exactness -/

/-- The verdict of the rules on a summary of the resources. -/
def ruleVerdict (rules : List Rule) (serviceID : String) (resources : List ResourceMetric)
    (expected covered : Nat) (coverage : Rat) (baseline : Summary) : String × String :=
  classifyRun expected covered
    (evaluateRules rules serviceID (some (summarizeResources resources)) coverage baseline)

/-- The evaluation of the rules blocks exactly on a blocking rule at fault, divides by no zero,
and gives one verdict in every order of the rules and of the resources. -/
structure EvaluationExact (rules : List Rule) (serviceID : String)
    (resources : List ResourceMetric) (expected covered : Nat) (coverage : Rat)
    (baseline : Summary) : Prop where
  blocks : ∀ summary : Summary,
    (classifyRun expected covered
        (evaluateRules rules serviceID summary coverage baseline)).2 = "BLOCK" ↔
      ∃ rule ∈ rules, rule.Applies serviceID ∧ rule.Blocking ∧
        (evaluateRule rule summary coverage baseline).AtFault
  permuted : ∀ rules' resources', rules.Perm rules' → resources.Perm resources' →
    ruleVerdict rules' serviceID resources' expected covered coverage baseline =
      ruleVerdict rules serviceID resources expected covered coverage baseline
  compared : ∀ rule ∈ rules, ∀ observed,
    ruleValue? rule observed baseline = some (ruleValue rule observed baseline)
  averaged : ∀ values latest, statistics? values latest = some (statistics values latest)

/-- What a rule observes in a summary with other latest values. -/
def Rule.observedAt (rule : Rule) (summary : Summary) (latest : String → Option Rat) :
    Option Rat :=
  statisticValue
    (withLatest (summary.statistics (toUpper rule.metric)) (latest (toUpper rule.metric)))
    rule.statistic

/-- Among the rules with a condition, one is at fault with these latest values. -/
def FaultAmong (rules : List Rule) (resources : List ResourceMetric) (coverage : Rat)
    (baseline : Summary) (condition : Rule → Prop) (latest : String → Option Rat) : Prop :=
  ∃ rule ∈ rules, condition rule ∧ rule.Faults coverage baseline
    (rule.observedAt (some (summarizeResources resources)) latest)

/-- All attainable latest values give the same answer to that question. -/
def FaultSettled (rules : List Rule) (resources : List ResourceMetric) (coverage : Rat)
    (baseline : Summary) (condition : Rule → Prop) (answer : Prop) : Prop :=
  ∀ latest, Attainable resources latest →
    (FaultAmong rules resources coverage baseline condition latest ↔ answer)

/-- Whether a blocking rule that applies is at fault is settled, and if none is, whether any
rule that applies is. -/
def VerdictSettled (rules : List Rule) (serviceID : String) (resources : List ResourceMetric)
    (coverage : Rat) (baseline : Summary) : Prop :=
  FaultSettled rules resources coverage baseline
      (fun rule => rule.Applies serviceID ∧ rule.Blocking) True ∨
    FaultSettled rules resources coverage baseline
        (fun rule => rule.Applies serviceID ∧ rule.Blocking) False ∧
      (FaultSettled rules resources coverage baseline (·.Applies serviceID) True ∨
        FaultSettled rules resources coverage baseline (·.Applies serviceID) False)

section Exact

variable {rules : List Rule} {serviceID : String} {resources resources' : List ResourceMetric}
  {coverage : Rat} {baseline : Summary} {rule : Rule}

theorem atFault_perm_iff (h : resources.Perm resources') :
    (evaluateRule rule (some (summarizeResources resources')) coverage baseline).AtFault ↔
      rule.Faults coverage baseline
        (rule.observedAt (some (summarizeResources resources)) (latestIn resources')) := by
  rw [atFault_evaluateRule_iff, statistics_summarizeResources_perm h]
  rfl

theorem blockedBy_perm_iff (h : resources.Perm resources') :
    blockedBy (evaluateRules rules serviceID (some (summarizeResources resources')) coverage
        baseline) = true ↔
      FaultAmong rules resources coverage baseline
        (fun rule => rule.Applies serviceID ∧ rule.Blocking) (latestIn resources') := by
  rw [blockedBy_evaluateRules_iff]
  simp only [atFault_perm_iff h, FaultAmong, and_assoc]

theorem faultedBy_perm_iff (h : resources.Perm resources') :
    faultedBy (evaluateRules rules serviceID (some (summarizeResources resources')) coverage
        baseline) = true ↔
      FaultAmong rules resources coverage baseline (·.Applies serviceID)
        (latestIn resources') := by
  rw [faultedBy_evaluateRules_iff]
  simp only [atFault_perm_iff h, FaultAmong]

/-- One verdict in every order: the answers for all attainable latest values are those for the
order given. -/
theorem faultAmong_of_permuted {expected covered : Nat}
    (h : ∀ resources', resources.Perm resources' →
      ruleVerdict rules serviceID resources' expected covered coverage baseline =
        ruleVerdict rules serviceID resources expected covered coverage baseline)
    {latest : String → Option Rat} (hlatest : Attainable resources latest) :
    let results := evaluateRules rules serviceID (some (summarizeResources resources)) coverage
      baseline
    (FaultAmong rules resources coverage baseline
        (fun rule => rule.Applies serviceID ∧ rule.Blocking) latest ↔
          blockedBy results = true) ∧
      (blockedBy results = false →
        (FaultAmong rules resources coverage baseline (·.Applies serviceID) latest ↔
          faultedBy results = true)) := by
  obtain ⟨resources', hperm, rfl⟩ := exists_perm_latestIn hlatest
  have hverdict := h resources' hperm
  rw [ruleVerdict, ruleVerdict, classifyRun_eq, classifyRun_eq, verdictOf_eq_iff] at hverdict
  obtain ⟨hblocked, hfaulted⟩ := hverdict
  rw [← blockedBy_perm_iff hperm, ← faultedBy_perm_iff hperm, hblocked]
  refine ⟨Iff.rfl, fun hnot => ?_⟩
  rw [hfaulted (hblocked.trans hnot)]

variable {answer : Prop}

theorem FaultSettled.iff_of_perm {condition : Rule → Prop}
    (h : FaultSettled rules resources coverage baseline condition answer)
    (hperm : resources.Perm resources') :
    FaultAmong rules resources coverage baseline condition (latestIn resources') ↔
      FaultAmong rules resources coverage baseline condition (latestIn resources) :=
  (h _ (attainable_latestIn hperm)).trans (h _ (attainable_latestIn (.refl _))).symm

theorem blockedBy_of_settled (h : FaultSettled rules resources coverage baseline
      (fun rule => rule.Applies serviceID ∧ rule.Blocking) answer)
    (hperm : resources.Perm resources') :
    blockedBy (evaluateRules rules serviceID (some (summarizeResources resources')) coverage
        baseline) =
      blockedBy (evaluateRules rules serviceID (some (summarizeResources resources)) coverage
        baseline) :=
  Bool.eq_iff_iff.mpr ((blockedBy_perm_iff hperm).trans
    ((h.iff_of_perm hperm).trans (blockedBy_perm_iff (.refl _)).symm))

theorem faultedBy_of_settled
    (h : FaultSettled rules resources coverage baseline (·.Applies serviceID) answer)
    (hperm : resources.Perm resources') :
    faultedBy (evaluateRules rules serviceID (some (summarizeResources resources')) coverage
        baseline) =
      faultedBy (evaluateRules rules serviceID (some (summarizeResources resources)) coverage
        baseline) :=
  Bool.eq_iff_iff.mpr ((faultedBy_perm_iff hperm).trans
    ((h.iff_of_perm hperm).trans (faultedBy_perm_iff (.refl _)).symm))

theorem ruleVerdict_of_settled (h : VerdictSettled rules serviceID resources coverage baseline)
    (expected covered : Nat) (hperm : resources.Perm resources') :
    ruleVerdict rules serviceID resources' expected covered coverage baseline =
      ruleVerdict rules serviceID resources expected covered coverage baseline := by
  rw [ruleVerdict, ruleVerdict, classifyRun_eq, classifyRun_eq, verdictOf_eq_iff]
  rcases h with hblocked | ⟨hblocked, hfaulted | hfaulted⟩
  · refine ⟨blockedBy_of_settled hblocked hperm, fun hnot => ?_⟩
    rw [← Bool.not_eq_true, blockedBy_perm_iff hperm] at hnot
    exact absurd ((hblocked _ (attainable_latestIn hperm)).mpr trivial) hnot
  · exact ⟨blockedBy_of_settled hblocked hperm, fun _ => faultedBy_of_settled hfaulted hperm⟩
  · exact ⟨blockedBy_of_settled hblocked hperm, fun _ => faultedBy_of_settled hfaulted hperm⟩

def latestRule : Rule where
  id := "latest"
  serviceId := ""
  name := "Latest CPU"
  metric := "CPU"
  statistic := "LATEST"
  operator := "GT"
  threshold := 80
  comparison := "ABSOLUTE"
  gateMode := "BLOCKING"
  minimumCoveragePercent := none
  enabled := true

end Exact

end Rhythm.Dynatrace
