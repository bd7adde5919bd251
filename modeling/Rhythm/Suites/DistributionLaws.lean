import Rhythm.BrowserMonitors.Queue
import Rhythm.Ranks
import Rhythm.Suites.Distribution
import Rhythm.Text

/-!
# Rhythm.Suites.DistributionLaws

The laws of a distribution.  `summarize` and `summarizeBrowserRuns` are one loop over
the executions that count, with counters of their own for each outcome, and then a sort
of the response times.

`Distribution.Consistent` says how the numbers of one distribution hang together, and
`Distribution.SameNumbers` that two distributions differ in the order of their series at
most.
-/

namespace Rhythm.Suites

open Runs Numeric

/-! ## The loop -/

/-- The body of the loop: the counters of the result, and the response times. -/
def tallyContribution (state : Distribution × List Int) :
    Contribution → Distribution × List Int
  | .succeeded point =>
    let result := { state.1 with
      completedCount := state.1.completedCount + 1
      successCount := state.1.successCount + 1 }
    match point with
    | none => (result, state.2)
    | some point =>
      ({ result with series := result.series ++ [point] }, state.2 ++ [point.valueMs])
  | .failed category timedOut =>
    ({ state.1 with
        completedCount := state.1.completedCount + 1
        failureCount := state.1.failureCount + 1
        failureCategories := countCategory state.1.failureCategories category
        timeoutCount := if timedOut then state.1.timeoutCount + 1 else state.1.timeoutCount },
      state.2)

def closeTally (state : Distribution × List Int) : Distribution :=
  let result := state.1
  withValues state.2
    { result with
      sampleCount := state.2.length
      successRate :=
        if result.completedCount > 0 then percent result.successCount result.completedCount else 0
      errorRate :=
        if result.completedCount > 0 then percent result.failureCount result.completedCount else 0
      timeoutRate :=
        if result.completedCount > 0 then percent result.timeoutCount result.completedCount
        else 0 }

def tallyContributions (contributions : List Contribution) : Distribution :=
  closeTally (contributions.foldl tallyContribution (emptyDistribution, []))

/-- `browsermonitors.Run`, with the duration and the time that a summary reads. -/
structure MeasuredBrowserRun extends BrowserMonitors.BrowserRun where
  durationMs : Int
  createdAt : Time

/-- What `summarizeBrowserRuns` makes of one run. -/
def MeasuredBrowserRun.contribution? (run : MeasuredBrowserRun) : Option Contribution :=
  match run.status with
  | .queued | .starting | .running | .analyzing | .cancelled => none
  | .success | .successWithWarnings =>
    some (.succeeded
      (if run.durationMs > 0 then some ⟨run.id, run.durationMs, run.createdAt⟩ else none))
  | .failed | .timedOut | .aborted =>
    some (.failed (Text.defaultString run.failureCategory "BROWSER_FAILURE")
      (run.status = .timedOut))

/-- **`summarizeBrowserRuns`.** -/
def summarizeBrowserRuns (items : List MeasuredBrowserRun) : Distribution :=
  tallyContributions (items.filterMap MeasuredBrowserRun.contribution?)

section Loop

variable {contributions contributions' : List Contribution}

def countersOf (contributions : List Contribution) : Distribution × List Int :=
  let failures := (contributions.filter Contribution.isFailure).length
  let series := contributions.filterMap Contribution.point?
  ({ emptyDistribution with
      completedCount := contributions.length
      successCount := contributions.length - failures
      failureCount := failures
      timeoutCount := (contributions.filter Contribution.isTimeout).length
      failureCategories := (contributions.filterMap Contribution.category?).foldl countCategory []
      series := series },
    series.map MetricSeriesPoint.valueMs)

theorem tallyContribution_countersOf (contribution : Contribution) :
    tallyContribution (countersOf contributions) contribution =
      countersOf (contributions ++ [contribution]) := by
  have hfailures : (contributions.filter Contribution.isFailure).length ≤ contributions.length :=
    List.length_filter_le _ _
  cases contribution with
  | succeeded point =>
    have hsuccess :
        contributions.length - (contributions.filter Contribution.isFailure).length + 1 =
          contributions.length + 1 - (contributions.filter Contribution.isFailure).length := by
      omega
    cases point with
    | none | some point =>
      simp [tallyContribution, countersOf, List.filterMap_cons, Contribution.isFailure,
        Contribution.isTimeout, Contribution.point?, Contribution.category?, hsuccess]
  | failed category timedOut =>
    cases timedOut <;>
      simp [tallyContribution, countersOf, List.filter_cons, Contribution.isFailure,
        Contribution.isTimeout, Contribution.point?, Contribution.category?]

theorem foldl_tallyContribution :
    contributions.foldl tallyContribution (emptyDistribution, []) = countersOf contributions := by
  induction contributions using List.reverseRecOn with
  | nil => rfl
  | append_singleton contributions contribution ih =>
    rw [List.foldl_concat, ih, tallyContribution_countersOf]

/-- **The loop with its counters** makes the distribution. -/
theorem tallyContributions_eq :
    tallyContributions contributions = distributionOf contributions := by
  rw [tallyContributions, foldl_tallyContribution]
  simp only [closeTally, countersOf, distributionOf, List.length_map]
  rfl

end Loop

/-! ## Failure categories -/

section Categories

variable {counts : List (String × Nat)} {categories categories' : List String}

theorem lookup_increment {key category : String} :
    (counts.map fun count => if count.1 = key then (count.1, count.2 + 1) else count).lookup
        category =
      (counts.lookup category).map fun count => if category = key then count + 1 else count := by
  induction counts with
  | nil => rfl
  | cons count counts ih =>
    grind

theorem lookup_countCategory (key category : String) :
    (countCategory counts key).lookup category =
      if category = key then some ((counts.lookup key).getD 0 + 1)
      else counts.lookup category := by
  unfold countCategory
  cases hkey : counts.lookup key with
  | none =>
    grind
  | some n =>
    simp only [lookup_increment]
    by_cases hcategory : category = key
    · simp [hcategory, hkey]
    · simp [hcategory]

theorem lookup_foldl_countCategory (category : String) :
    (categories.foldl countCategory []).lookup category =
      if category ∈ categories then some (categories.count category) else none := by
  induction categories using List.reverseRecOn with
  | nil => rfl
  | append_singleton categories last ih =>
    rw [List.foldl_concat, lookup_countCategory]
    by_cases hlast : category = last
    · subst hlast
      by_cases hmem : category ∈ categories
      · simp [ih, hmem]
      · simp [ih, hmem, List.count_eq_zero_of_not_mem hmem]
    · have hcount : [last].count category = 0 :=
        List.count_eq_zero_of_not_mem (by simpa using hlast)
      simp [hlast, ih, hcount]

theorem keys_countCategory (key : String) : (countCategory counts key).map Prod.fst =
    if key ∈ counts.map Prod.fst then counts.map Prod.fst else counts.map Prod.fst ++ [key] := by
  grind [countCategory, List.map_map, List.map_congr_left]

theorem nodup_countCategory (h : (counts.map Prod.fst).Nodup) (key : String) :
    ((countCategory counts key).map Prod.fst).Nodup := by
  rw [keys_countCategory]
  split
  · exact h
  · next hmem =>
    rw [← List.concat_eq_append]
    exact h.concat hmem

theorem sum_increment {key : String} (h : (counts.map Prod.fst).Nodup)
    (hmem : key ∈ counts.map Prod.fst) :
    ((counts.map fun count => if count.1 = key then (count.1, count.2 + 1) else count).map
      Prod.snd).sum = (counts.map Prod.snd).sum + 1 := by
  induction counts with
  | nil => simp at hmem
  | cons count counts ih =>
    rw [List.map_cons, List.nodup_cons] at h
    rw [List.map_cons, List.map_cons, List.map_cons, List.sum_cons, List.sum_cons]
    by_cases hcount : count.1 = key
    · -- The key is counted here, and no other entry has it.
      have hrest : (counts.map fun count =>
          if count.1 = key then (count.1, count.2 + 1) else count) = counts := by
        refine (List.map_congr_left fun other hother => if_neg ?_).trans (List.map_id counts)
        rintro rfl
        exact h.1 (hcount ▸ List.mem_map_of_mem hother)
      rw [hrest, if_pos hcount]
      omega
    · rw [if_neg hcount, ih h.2 ((List.mem_cons.mp hmem).resolve_left fun hkey => hcount hkey.symm)]
      omega

theorem categories_foldl_countCategory (categories : List String) :
    ((categories.foldl countCategory []).map Prod.fst).Nodup ∧
      ((categories.foldl countCategory []).map Prod.snd).sum = categories.length := by
  induction categories using List.reverseRecOn with
  | nil => exact ⟨List.nodup_nil, rfl⟩
  | append_singleton categories last ih =>
    rw [List.foldl_concat]
    refine ⟨nodup_countCategory ih.1 last, ?_⟩
    rw [List.length_append, List.length_singleton, ← ih.2]
    generalize categories.foldl countCategory [] = counts at ih ⊢
    unfold countCategory
    cases hlast : counts.lookup last with
    | none => simp
    | some n =>
      obtain ⟨before, after, hcounts, -⟩ := List.lookup_eq_some_iff.mp hlast
      exact sum_increment ih.1 (by simp [hcounts])

end Categories

/-! ## Consistent numbers -/

def Distribution.values (distribution : Distribution) : List Int :=
  distribution.series.map MetricSeriesPoint.valueMs

/-- The percentiles of a distribution, each with its share. -/
def Distribution.percentiles (distribution : Distribution) : List (Nat × Int) :=
  [(50, distribution.p50Ms), (75, distribution.p75Ms), (90, distribution.p90Ms),
    (95, distribution.p95Ms), (99, distribution.p99Ms)]

/-- How the numbers of a distribution hang together. -/
structure Distribution.Consistent (distribution : Distribution) : Prop where
  completed : distribution.completedCount = distribution.successCount + distribution.failureCount
  timeouts : distribution.timeoutCount ≤ distribution.failureCount
  samples : distribution.sampleCount ≤ distribution.successCount
  sampled : distribution.sampleCount = distribution.values.length
  /-- The failure categories are the entries of a map. -/
  keys : (distribution.failureCategories.map Prod.fst).Nodup
  categories : (distribution.failureCategories.map Prod.snd).sum = distribution.failureCount
  ordered : 0 < distribution.sampleCount →
    distribution.minMs ≤ distribution.p50Ms ∧ distribution.p50Ms ≤ distribution.p75Ms ∧
      distribution.p75Ms ≤ distribution.p90Ms ∧ distribution.p90Ms ≤ distribution.p95Ms ∧
      distribution.p95Ms ≤ distribution.p99Ms ∧ distribution.p99Ms ≤ distribution.maxMs
  shares : 0 < distribution.sampleCount → ∀ percentile ∈ distribution.percentiles,
    percentile.2 ∈ distribution.values ∧ percentile.1 * distribution.sampleCount ≤
      100 * distribution.values.countP (· ≤ percentile.2)

/-- The same numbers; the series may be in another order, and so may the entries of the map of
failure categories. -/
structure Distribution.SameNumbers (distribution distribution' : Distribution) : Prop where
  numbers : { distribution with failureCategories := [], series := [] } =
    { distribution' with failureCategories := [], series := [] }
  categories : ∀ category, distribution.failureCategories.lookup category =
    distribution'.failureCategories.lookup category
  series : distribution.series.Perm distribution'.series

section Laws

variable {values : List Int} {contributions contributions' : List Contribution}

theorem counts_distributionOf (contributions : List Contribution) :
    (distributionOf contributions).sampleCount =
        (contributions.filterMap Contribution.point?).length ∧
      (distributionOf contributions).completedCount = contributions.length ∧
      (distributionOf contributions).successCount =
        contributions.length - (contributions.filter Contribution.isFailure).length ∧
      (distributionOf contributions).failureCount =
        (contributions.filter Contribution.isFailure).length ∧
      (distributionOf contributions).timeoutCount =
        (contributions.filter Contribution.isTimeout).length := by
  simp only [distributionOf, withValues]
  split <;> exact ⟨rfl, rfl, rfl, rfl, rfl⟩

theorem lists_distributionOf (contributions : List Contribution) :
    (distributionOf contributions).failureCategories =
        (contributions.filterMap Contribution.category?).foldl countCategory [] ∧
      (distributionOf contributions).series = contributions.filterMap Contribution.point? := by
  simp only [distributionOf, withValues]
  split <;> exact ⟨rfl, rfl⟩

theorem exists_deploymentPercentile {sorted : List Int} (h : sorted ≠ []) (percent : Nat) :
    nearestRank sorted percent = some (deploymentPercentile sorted percent) := by
  obtain ⟨value, -, hvalue⟩ := exists_nearestRank h percent
  have hpercentile : deploymentPercentile sorted percent = value := by
    rw [deploymentPercentile, List.getD_eq_getElem?_getD]
    exact congrArg (·.getD 0) hvalue
  rw [hvalue, hpercentile]

theorem deploymentPercentile_mono {sorted : List Int} (h : sorted ≠ [])
    (hsorted : sorted.Pairwise (· ≤ ·)) {percent percent' : Nat} (hle : percent ≤ percent') :
    deploymentPercentile sorted percent ≤ deploymentPercentile sorted percent' :=
  nearestRank_mono hsorted hle (exists_deploymentPercentile h _) (exists_deploymentPercentile h _)

theorem ordered_withValues (h : values ≠ []) (distribution : Distribution) :
    (withValues values distribution).minMs ≤ (withValues values distribution).p50Ms ∧
      (withValues values distribution).p50Ms ≤ (withValues values distribution).p75Ms ∧
      (withValues values distribution).p75Ms ≤ (withValues values distribution).p90Ms ∧
      (withValues values distribution).p90Ms ≤ (withValues values distribution).p95Ms ∧
      (withValues values distribution).p95Ms ≤ (withValues values distribution).p99Ms ∧
      (withValues values distribution).p99Ms ≤ (withValues values distribution).maxMs := by
  have hsorted := List.pairwise_insertionSort (· ≤ ·) values
  have hne := insertionSort_ne_nil h
  simp only [withValues, if_neg hne]
  generalize values.insertionSort (· ≤ ·) = sorted at hsorted hne
  refine ⟨?_, deploymentPercentile_mono hne hsorted (by decide),
    deploymentPercentile_mono hne hsorted (by decide),
    deploymentPercentile_mono hne hsorted (by decide),
    deploymentPercentile_mono hne hsorted (by decide), ?_⟩
  · refine head_le_nearestRank hsorted (exists_deploymentPercentile hne 50) ?_
    rw [List.headD_eq_head?_getD, List.head?_eq_some_head hne, Option.getD_some]
  · refine nearestRank_le_getLast hsorted (exists_deploymentPercentile hne 99) ?_
    rw [List.getLastD_eq_getLast?, List.getLast?_eq_some_getLast hne, Option.getD_some]

theorem shares_withValues (h : values ≠ []) (distribution : Distribution) :
    ∀ percentile ∈ (withValues values distribution).percentiles, percentile.2 ∈ values ∧
      percentile.1 * values.length ≤ 100 * values.countP (· ≤ percentile.2) := by
  have hsorted := List.pairwise_insertionSort (· ≤ ·) values
  have hperm := List.perm_insertionSort (· ≤ ·) values
  have hne := insertionSort_ne_nil h
  have hshare : ∀ percent, 0 < percent → percent ≤ 100 →
      deploymentPercentile (values.insertionSort (· ≤ ·)) percent ∈ values ∧
        percent * values.length ≤ 100 * values.countP
          (· ≤ deploymentPercentile (values.insertionSort (· ≤ ·)) percent) := by
    intro percent hpos hle
    have hrank := exists_deploymentPercentile hne percent
    refine ⟨hperm.mem_iff.mp (mem_of_nearestRank hrank), ?_⟩
    rw [← hperm.length_eq, ← hperm.countP_eq]
    exact (nearestRank_le_iff hsorted hpos hle hrank).mp le_rfl
  intro percentile hpercentile
  simp only [Distribution.percentiles, withValues, if_neg hne, List.mem_cons, List.not_mem_nil,
    or_false] at hpercentile
  rcases hpercentile with rfl | rfl | rfl | rfl | rfl <;> exact hshare _ (by decide) (by decide)

theorem length_points_le :
    (contributions.filterMap Contribution.point?).length +
      (contributions.filter Contribution.isFailure).length ≤ contributions.length := by
  induction contributions with
  | nil => exact le_rfl
  | cons contribution contributions ih =>
    cases contribution with
    | succeeded point =>
      grind [Contribution.point?, Contribution.isFailure]
    | failed category timedOut =>
      simp only [List.filterMap_cons, List.filter_cons, Contribution.point?,
        Contribution.isFailure, List.length_cons, if_true]
      omega

theorem length_categories : (contributions.filterMap Contribution.category?).length =
    (contributions.filter Contribution.isFailure).length := by
  induction contributions with
  | nil => rfl
  | cons contribution contributions ih =>
    cases contribution <;> simp [List.filterMap_cons, List.filter_cons, Contribution.category?,
      Contribution.isFailure, ih]

theorem length_timeouts_le : (contributions.filter Contribution.isTimeout).length ≤
    (contributions.filter Contribution.isFailure).length := by
  rw [← List.countP_eq_length_filter, ← List.countP_eq_length_filter]
  refine List.countP_mono_left fun contribution _ htimeout => ?_
  cases contribution with
  | succeeded point => cases htimeout
  | failed category timedOut => rfl

/-- **A distribution is consistent.** -/
theorem consistent_distributionOf (contributions : List Contribution) :
    (distributionOf contributions).Consistent := by
  have hpoints := @length_points_le contributions
  obtain ⟨hkeys, hsum⟩ :=
    categories_foldl_countCategory (contributions.filterMap Contribution.category?)
  obtain ⟨hsample, hcompleted, hsuccess, hfailure, htimeout⟩ := counts_distributionOf contributions
  obtain ⟨hcategories, hseries⟩ := lists_distributionOf contributions
  have hvalues : (distributionOf contributions).values =
      (contributions.filterMap Contribution.point?).map MetricSeriesPoint.valueMs := by
    rw [Distribution.values, hseries]
  have hne : 0 < (distributionOf contributions).sampleCount →
      (contributions.filterMap Contribution.point?).map MetricSeriesPoint.valueMs ≠ [] := by
    intro hpos
    rw [← List.length_pos_iff, List.length_map, ← hsample]
    exact hpos
  exact
    { completed := by omega
      timeouts := by rw [htimeout, hfailure]; exact length_timeouts_le
      samples := by omega
      sampled := by rw [hvalues, List.length_map, hsample]
      keys := hcategories ▸ hkeys
      categories := by rw [hcategories, hsum, hfailure, length_categories]
      ordered := fun hpos => ordered_withValues (hne hpos) _
      shares := by
        intro hpos percentile hpercentile
        have hshares := shares_withValues (hne hpos) _ percentile hpercentile
        rw [hvalues, hsample]
        rw [List.length_map] at hshares
        exact hshares }

/-- **The order of the executions** changes no number. -/
theorem sameNumbers_distributionOf (h : contributions.Perm contributions') :
    (distributionOf contributions).SameNumbers (distributionOf contributions') := by
  have hpoints := h.filterMap Contribution.point?
  have hcategories := h.filterMap Contribution.category?
  obtain ⟨hcategories₁, hseries₁⟩ := lists_distributionOf contributions
  obtain ⟨hcategories₂, hseries₂⟩ := lists_distributionOf contributions'
  refine ⟨?_, fun category => ?_, ?_⟩
  · have hsorted := insertionSort_eq_of_perm (hpoints.map MetricSeriesPoint.valueMs)
    simp only [distributionOf, withValues, hsorted, hpoints.length_eq, h.length_eq,
      (h.filter Contribution.isFailure).length_eq, (h.filter Contribution.isTimeout).length_eq]
    split <;> rfl
  · grind [lookup_foldl_countCategory]
  · rw [hseries₁, hseries₂]
    exact hpoints

theorem summarize_eq_tally (points : List HistoryMetricPoint) : summarize points =
    tallyContributions (points.filterMap HistoryMetricPoint.contribution?) :=
  tallyContributions_eq.symm

/-- **Distributions are consistent**, of monitor executions and of browser runs, and no number
depends on the order of the executions. -/
theorem summaries_consistent :
    (∀ points, summarize points =
          tallyContributions (points.filterMap HistoryMetricPoint.contribution?) ∧
        (summarize points).Consistent ∧
        ∀ points', points.Perm points' → (summarize points).SameNumbers (summarize points')) ∧
      ∀ items, (summarizeBrowserRuns items).Consistent ∧
        ∀ items', items.Perm items' →
          (summarizeBrowserRuns items).SameNumbers (summarizeBrowserRuns items') := by
  refine ⟨fun points => ⟨summarize_eq_tally points, consistent_distributionOf _, ?_⟩, ?_⟩
  · intro points' h
    exact sameNumbers_distributionOf (h.filterMap _)
  · intro items
    simp only [summarizeBrowserRuns, tallyContributions_eq]
    exact ⟨consistent_distributionOf _, fun items' h => sameNumbers_distributionOf (h.filterMap _)⟩

def passedJourney : MeasuredBrowserRun :=
  ⟨⟨1, 1, .success, none, "", "", "", 0, none⟩, 2000, 10⟩

def lateJourney : MeasuredBrowserRun :=
  ⟨⟨2, 1, .timedOut, none, "", "", "", 0, none⟩, 30000, 20⟩

/-- Two browser runs, in both orders. -/
theorem summaries_consistent_swapped :
    (summarizeBrowserRuns [passedJourney, lateJourney]).SameNumbers
      (summarizeBrowserRuns [lateJourney, passedJourney]) :=
  (summaries_consistent.2 [passedJourney, lateJourney]).2 _ (List.Perm.swap _ _ [])

end Laws

end Rhythm.Suites
