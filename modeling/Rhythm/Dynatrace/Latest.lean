import Mathlib.Data.Finset.Max
import Rhythm.Dynatrace.Query
import Rhythm.Ranks

/-!
# Rhythm.Dynatrace.Latest

What the order of the resources does to a summary.  The counts, the percentiles and the
extremes come from sorted values, so no order matters to them.  The latest value is the
one that the loop over the resources meets last, whatever its time.

`summarizeResources_independent_iff`: the summary depends on no order, and its numbers are
in order and of their time, exactly if the averaged series of a metric end with one value
and the series of maxima reach at least the 95th percentile of the averages.
-/

namespace Rhythm.Dynatrace

/-! ## Values of a metric -/

def ResourceMetric.Averages (resource : ResourceMetric) (metric : String) : Prop :=
  resource.metric = metric ∧ resource.aggregation ≠ "MAX"

instance (resource : ResourceMetric) (metric : String) : Decidable (resource.Averages metric) :=
  inferInstanceAs (Decidable (_ ∧ _))

def ResourceMetric.lastValue (resource : ResourceMetric) : Option Rat :=
  (resource.series.filterMap id).getLast?

section Values

variable {resources resources' : List ResourceMetric} {resource : ResourceMetric}
  {metric : String} {value : Rat}

theorem measuredValues_averages : measuredValues resources metric false =
    (resources.filter fun resource => resource.Averages metric).flatMap
      fun resource => resource.series.filterMap id := by
  refine congrArg (List.flatMap _) (List.filter_congr fun resource _ => ?_)
  rw [decide_eq_decide]
  simp [ResourceMetric.Averages]

theorem measuredValues_perm (h : resources.Perm resources') (metric : String) (maxima : Bool) :
    (measuredValues resources metric maxima).Perm (measuredValues resources' metric maxima) :=
  (h.filter _).flatMap_right _

theorem exists_lastValue (h : (measuredValues resources metric false).getLast? = some value) :
    ∃ resource ∈ resources, resource.Averages metric ∧ resource.lastValue = some value := by
  rw [measuredValues_averages, List.getLast?_flatMap] at h
  obtain ⟨resource, hresource, hvalue⟩ := List.exists_of_findSome?_eq_some h
  rw [List.mem_reverse, List.mem_filter, decide_eq_true_iff] at hresource
  exact ⟨resource, hresource.1, hresource.2, hvalue⟩

theorem getLast?_measuredValues_concat (haverages : resource.Averages metric)
    (hlast : resource.lastValue = some value) :
    (measuredValues (resources ++ [resource]) metric false).getLast? = some value := by
  rw [measuredValues_averages, List.filter_append, List.flatMap_append]
  have hend : ([resource].filter fun resource => resource.Averages metric) = [resource] := by
    simp [haverages]
  rw [hend, List.flatMap_singleton, List.getLast?_append, ← ResourceMetric.lastValue, hlast]
  rfl

theorem measuredValues_concat_of_not (h : ¬resource.Averages metric) :
    measuredValues (resources ++ [resource]) metric false =
      measuredValues resources metric false := by
  rw [measuredValues_averages, measuredValues_averages, List.filter_append]
  simp [h]

end Values

/-! ## Statistics of a metric -/

section Metric

variable {resources resources' : List ResourceMetric} {metric : String} {stats : Statistics}

theorem latest_metricStatistics (resources : List ResourceMetric) (metric : String) :
    (metricStatistics resources metric).bind (·.latest) =
      (measuredValues resources metric false).getLast? := by
  have hlatest : (statistics (measuredValues resources metric false)
      (measuredValues resources metric false).getLast?).latest =
        (measuredValues resources metric false).getLast? := by
    simp only [statistics]
    split
    · next hempty => rw [hempty]; rfl
    · rfl
  simp only [metricStatistics]
  split
  · next hempty => rw [hempty.1]; rfl
  · split <;> exact hlatest

theorem sampleCount_metricStatistics (h : metricStatistics resources metric = some stats) :
    stats.sampleCount = (measuredValues resources metric false).length := by
  have hcount : (statistics (measuredValues resources metric false)
      (measuredValues resources metric false).getLast?).sampleCount =
        (measuredValues resources metric false).length := by
    simp only [statistics]
    split
    · next hempty => rw [hempty]; rfl
    · exact List.length_insertionSort _ _
  simp only [metricStatistics] at h
  split at h
  · cases h
  · split at h <;> cases h <;> exact hcount

theorem statistics_of_perm {values values' : List Rat} (h : values.Perm values')
    (latest : Option Rat) : statistics values latest = statistics values' latest := by
  have hempty : values = [] ↔ values' = [] :=
    ⟨fun hnil => (hnil ▸ h).symm.eq_nil, fun hnil => (hnil ▸ h).eq_nil⟩
  simp only [statistics, insertionSort_eq_of_perm h, hempty]

theorem metricStatistics_of_perm (h : resources.Perm resources')
    (hlatest : (measuredValues resources metric false).getLast? =
      (measuredValues resources' metric false).getLast?) :
    metricStatistics resources metric = metricStatistics resources' metric := by
  have haverages := measuredValues_perm h metric false
  have hmaxima := measuredValues_perm h metric true
  have hnoAverage : measuredValues resources metric false = [] ↔
      measuredValues resources' metric false = [] :=
    ⟨fun hnil => (hnil ▸ haverages).symm.eq_nil, fun hnil => (hnil ▸ haverages).eq_nil⟩
  have hnoMaximum : measuredValues resources metric true = [] ↔
      measuredValues resources' metric true = [] :=
    ⟨fun hnil => (hnil ▸ hmaxima).symm.eq_nil, fun hnil => (hnil ▸ hmaxima).eq_nil⟩
  simp only [metricStatistics, hlatest, statistics_of_perm haverages, hnoAverage, hnoMaximum,
    insertionSort_eq_of_perm hmaxima]

theorem mem_summarizeResources {entry : String × Statistics} :
    entry ∈ summarizeResources resources ↔ entry.1 ∈ ["CPU", "MEMORY"] ∧
      metricStatistics resources entry.1 = some entry.2 := by
  rw [summarizeResources, List.mem_filterMap]
  constructor
  · rintro ⟨metric, hmetric, hentry⟩
    obtain ⟨stats, hstats, rfl⟩ := Option.map_eq_some_iff.mp hentry
    exact ⟨hmetric, hstats⟩
  · rintro ⟨hmetric, hstats⟩
    exact ⟨entry.1, hmetric, by rw [hstats]; rfl⟩

theorem summarizeResources_eq_iff : summarizeResources resources = summarizeResources resources' ↔
    ∀ metric ∈ ["CPU", "MEMORY"],
      metricStatistics resources metric = metricStatistics resources' metric := by
  constructor
  · intro h metric hmetric
    ext stats
    have hmem := @mem_summarizeResources resources (metric, stats)
    have hmem' := @mem_summarizeResources resources' (metric, stats)
    rw [h] at hmem
    simpa [hmetric] using hmem.symm.trans hmem'
  · intro h
    exact List.filterMap_congr fun metric hmetric => by rw [h metric hmetric]

end Metric

/-! ## Agreement -/

def LatestAgrees (resources : List ResourceMetric) (metric : String) : Prop :=
  ∀ first ∈ resources, ∀ second ∈ resources, first.Averages metric → second.Averages metric →
    ∀ value value', first.lastValue = some value → second.lastValue = some value' →
      value = value'

/-- Where maxima are measured, some maximum reaches 95 percent of the averages. -/
def PeaksReach (resources : List ResourceMetric) (metric : String) : Prop :=
  measuredValues resources metric true ≠ [] →
    95 * (measuredValues resources metric false).length ≤
      100 * (measuredValues resources metric false).countP
        fun value => (measuredValues resources metric true).any fun peak => value ≤ peak

theorem peaksReach_of_eq_none {resources : List ResourceMetric} {metric : String}
    (h : metricStatistics resources metric = none) : PeaksReach resources metric := by
  simp only [metricStatistics] at h
  split at h
  · next hempty => exact fun hmaxima => absurd hempty.2 hmaxima
  · split at h <;> cases h

def Statistics.Ordered (stats : Statistics) : Prop :=
  0 < stats.sampleCount → ∃ minimum p50 p95 maximum, stats.minimum = some minimum ∧
    stats.p50 = some p50 ∧ stats.p95 = some p95 ∧ stats.maximum = some maximum ∧
      minimum ≤ p50 ∧ p50 ≤ p95 ∧ p95 ≤ maximum

section Agreement

variable {resources resources' : List ResourceMetric} {metric : String} {stats : Statistics}

theorem LatestAgrees.getLast?_eq (h : LatestAgrees resources metric)
    (hperm : resources.Perm resources') :
    (measuredValues resources metric false).getLast? =
      (measuredValues resources' metric false).getLast? := by
  have hvalues := measuredValues_perm hperm metric false
  cases hlast : (measuredValues resources metric false).getLast? with
  | none =>
    rw [List.getLast?_eq_none_iff] at hlast
    rw [hlast] at hvalues
    rw [hvalues.symm.eq_nil, List.getLast?_nil]
  | some value =>
    cases hlast' : (measuredValues resources' metric false).getLast? with
    | none =>
      rw [List.getLast?_eq_none_iff] at hlast'
      rw [hlast'] at hvalues
      rw [hvalues.eq_nil] at hlast
      cases hlast
    | some value' =>
      obtain ⟨first, hfirst, haverages, hvalue⟩ := exists_lastValue hlast
      obtain ⟨second, hsecond, haverages', hvalue'⟩ := exists_lastValue hlast'
      rw [h first hfirst second (hperm.mem_iff.mpr hsecond) haverages haverages' value value'
        hvalue hvalue']

theorem exists_perm_concat {α : Type} {items : List α} {item : α} (h : item ∈ items) :
    ∃ rest, items.Perm (rest ++ [item]) := by
  obtain ⟨before, after, rfl⟩ := List.append_of_mem h
  exact ⟨before ++ after, List.perm_middle.trans (List.perm_append_singleton _ _).symm⟩

/-- **One latest value in every order** exactly if the series end with one value. -/
theorem latestAgrees_iff {α : Type} (series : α → ResourceMetric) (items : List α) :
    LatestAgrees (items.map series) metric ↔ ∀ items', items.Perm items' →
      metricStatistics (items'.map series) metric = metricStatistics (items.map series) metric := by
  constructor
  · intro h items' hperm
    have hseries := hperm.map series
    exact (metricStatistics_of_perm hseries (h.getLast?_eq hseries)).symm
  · intro h first hfirst second hsecond haverages haverages' value value' hvalue hvalue'
    -- Each of the two series, moved to the end, provides the latest value.
    have hlatest : ∀ resource ∈ items.map series, resource.Averages metric →
        ∀ value, resource.lastValue = some value →
          (metricStatistics (items.map series) metric).bind (·.latest) = some value := by
      intro resource hresource haverages value hvalue
      obtain ⟨item, hitem, rfl⟩ := List.mem_map.mp hresource
      obtain ⟨rest, hperm⟩ := exists_perm_concat hitem
      rw [← h _ hperm, latest_metricStatistics, List.map_append]
      exact getLast?_measuredValues_concat haverages hvalue
    have hfirst' := hlatest first hfirst haverages value hvalue
    rw [hlatest second hsecond haverages' value' hvalue'] at hfirst'
    exact (Option.some.inj hfirst').symm

theorem le_greatest_iff {values : List Rat} {greatest value : Rat}
    (h : (values.insertionSort (· ≤ ·)).getLast? = some greatest) :
    value ≤ greatest ↔ (values.any fun peak => value ≤ peak) = true := by
  have hperm := List.perm_insertionSort (· ≤ ·) values
  rw [List.any_eq_true]
  constructor
  · intro hle
    exact ⟨greatest, hperm.mem_iff.mp (List.mem_of_getLast? h), by simpa using hle⟩
  · rintro ⟨peak, hpeak, hle⟩
    exact (of_decide_eq_true hle).trans
      (le_getLast_of_pairwise (List.pairwise_insertionSort _ _) (hperm.mem_iff.mpr hpeak) h)

theorem nearestRank_percentile {sorted : List Rat} (h : sorted ≠ []) (percent : Nat) :
    nearestRank sorted percent = some (percentile sorted percent) := by
  obtain ⟨value, -, hvalue⟩ := exists_nearestRank h percent
  have hpercentile : percentile sorted percent = value := congrArg (·.getD 0) hvalue
  rw [hvalue, hpercentile]

theorem ordered_statistics_iff {values : List Rat} (hvalues : values ≠ []) {latest : Option Rat}
    {greatest : Rat} :
    ({ statistics values latest with maximum := some greatest } : Statistics).Ordered ↔
      95 * values.length ≤ 100 * values.countP (· ≤ greatest) := by
  have hsorted := List.pairwise_insertionSort (· ≤ ·) values
  have hperm := List.perm_insertionSort (· ≤ ·) values
  have hne := insertionSort_ne_nil hvalues
  have hp50 := nearestRank_percentile hne 50
  have hp95 := nearestRank_percentile hne 95
  have hreach : _ ≤ greatest ↔ _ :=
    nearestRank_le_iff hsorted (by decide) (by decide) hp95
  rw [hperm.length_eq, hperm.countP_eq] at hreach
  rw [← hreach]
  simp only [Statistics.Ordered, statistics, if_neg hvalues]
  constructor
  · intro h
    obtain ⟨minimum, p50, p95, maximum, -, -, hp95', hmaximum, -, -, hle⟩ :=
      h (List.length_pos_iff.mpr hne)
    rw [Option.some.inj hp95', Option.some.inj hmaximum]
    exact hle
  · intro hle _
    exact ⟨_, _, _, _, List.head?_eq_some_head hne, rfl, rfl, rfl,
      head_le_nearestRank hsorted hp50 (List.head?_eq_some_head hne),
      nearestRank_mono hsorted (by decide) hp50 hp95, hle⟩

/-- **The numbers are in order** exactly if the maxima reach the percentile. -/
theorem ordered_iff (h : metricStatistics resources metric = some stats) :
    stats.Ordered ↔ PeaksReach resources metric := by
  unfold PeaksReach
  simp only [metricStatistics] at h
  generalize measuredValues resources metric false = averages at h ⊢
  generalize measuredValues resources metric true = maxima at h ⊢
  by_cases haverages : averages = []
  · -- Without averages there are no samples.
    subst haverages
    refine iff_of_true (fun hpos => ?_) fun _ => by simp
    have hnone : stats.sampleCount = 0 := by
      split at h
      · cases h
      · split at h <;> cases h <;> rfl
    omega
  rw [if_neg fun hnone => haverages hnone.1] at h
  by_cases hmaxima : maxima = []
  · rw [if_pos hmaxima, Option.some.injEq] at h
    subst h
    obtain ⟨greatest, hgreatest⟩ : ∃ greatest,
        (averages.insertionSort (· ≤ ·)).getLast? = some greatest :=
      ⟨_, List.getLast?_eq_some_getLast (insertionSort_ne_nil haverages)⟩
    have hstats : statistics averages averages.getLast? =
        { statistics averages averages.getLast? with maximum := some greatest } := by
      simp only [statistics, if_neg haverages, hgreatest]
    rw [hstats, ordered_statistics_iff haverages]
    have hall : averages.countP (· ≤ greatest) = averages.length := by
      rw [List.countP_eq_length]
      intro value hvalue
      rw [decide_eq_true_iff]
      exact le_getLast_of_pairwise (List.pairwise_insertionSort _ _)
        ((List.perm_insertionSort _ _).mem_iff.mpr hvalue) hgreatest
    exact iff_of_true (by omega) fun hne => absurd hmaxima hne
  · rw [if_neg hmaxima, Option.some.injEq] at h
    subst h
    obtain ⟨greatest, hgreatest⟩ : ∃ greatest,
        (maxima.insertionSort (· ≤ ·)).getLast? = some greatest :=
      ⟨_, List.getLast?_eq_some_getLast (insertionSort_ne_nil hmaxima)⟩
    rw [hgreatest, ordered_statistics_iff haverages]
    have hcount : averages.countP (· ≤ greatest) =
        averages.countP fun value => maxima.any fun peak => value ≤ peak :=
      List.countP_congr fun value _ => by rw [decide_eq_true_iff, le_greatest_iff hgreatest]
    rw [hcount]
    exact ⟨fun hreach _ => hreach, fun hreach => hreach hmaxima⟩

end Agreement

/-! ## Points in time -/

/-- `SeriesPoint`. -/
structure SeriesPoint where
  timestamp : Time
  value : Option Rat
  deriving DecidableEq

/-- `ResourceMetric` with the times of its points, which are in order. -/
structure TimedMetric extends ResourceMetric where
  points : List SeriesPoint
  series_eq : series = points.map SeriesPoint.value
  ordered : points.Pairwise fun earlier later => earlier.timestamp ≤ later.timestamp

/-- The series without their times, which is all that a summary reads. -/
def untimed (resources : List TimedMetric) : List ResourceMetric :=
  resources.map TimedMetric.toResourceMetric

def averagedPoints (resources : List TimedMetric) (metric : String) : List SeriesPoint :=
  (resources.filter fun resource => resource.Averages metric).flatMap
    fun resource => resource.points.filter fun point => point.value.isSome

def IsLatest (resources : List TimedMetric) (metric : String) (point : SeriesPoint) : Prop :=
  point ∈ averagedPoints resources metric ∧
    ∀ other ∈ averagedPoints resources metric, other.timestamp ≤ point.timestamp

/-- A summary depends on no order of the resources, its numbers are in order, and its latest
values are of the latest points. -/
structure SummaryIndependent (resources : List TimedMetric) : Prop where
  permuted : ∀ resources', resources.Perm resources' →
    summarizeResources (untimed resources') = summarizeResources (untimed resources)
  ordered : ∀ entry ∈ summarizeResources (untimed resources), entry.2.Ordered
  latest : ∀ entry ∈ summarizeResources (untimed resources), 0 < entry.2.sampleCount →
    ∃ point, IsLatest resources entry.1 point ∧ entry.2.latest = point.value

section Timed

variable {resources : List TimedMetric} {resource : TimedMetric} {metric : String}
  {point : SeriesPoint}

theorem mem_averagedPoints : point ∈ averagedPoints resources metric ↔
    ∃ resource ∈ resources, resource.Averages metric ∧ point ∈ resource.points ∧
      point.value.isSome = true := by
  simp [averagedPoints, and_assoc]

/-- The last measured point of a series has its last value, and no measured point of the series
is later. -/
theorem exists_lastPoint (hpoint : point ∈ resource.points)
    (hmeasured : point.value.isSome = true) :
    ∃ last ∈ resource.points, last.value.isSome = true ∧ resource.lastValue = last.value ∧
      point.timestamp ≤ last.timestamp := by
  have hordered := resource.ordered
  rw [ResourceMetric.lastValue, resource.series_eq, List.filterMap_map]
  generalize resource.points = points at hpoint hordered
  induction points using List.reverseRecOn with
  | nil => simp at hpoint
  | append_singleton points last ih =>
    rw [List.pairwise_append] at hordered
    obtain ⟨hbefore, -, hlater⟩ := hordered
    cases hlast : last.value with
    | some value =>
      refine ⟨last, by simp, by simp [hlast], ?_, ?_⟩
      · simp [List.filterMap_append, hlast]
      · rcases List.mem_append.mp hpoint with hmem | hmem
        · exact hlater point hmem last (List.mem_singleton.mpr rfl)
        · rw [List.mem_singleton.mp hmem]
    | none =>
      have hmem : point ∈ points := by
        refine (List.mem_append.mp hpoint).resolve_right fun hmem => ?_
        rw [List.mem_singleton.mp hmem, hlast] at hmeasured
        cases hmeasured
      obtain ⟨found, hfound, hsome, hvalue, htime⟩ := ih hmem hbefore
      refine ⟨found, List.mem_append_left _ hfound, hsome, ?_, htime⟩
      rw [← hvalue]
      simp [List.filterMap_append, hlast]

theorem exists_isLatest (h : averagedPoints resources metric ≠ []) :
    ∃ point, IsLatest resources metric point := by
  obtain ⟨point, hpoint, hlatest⟩ := Finset.exists_max_image
    (averagedPoints resources metric).toFinset SeriesPoint.timestamp
    (List.toFinset_nonempty_iff _ |>.mpr h)
  exact ⟨point, List.mem_toFinset.mp hpoint,
    fun other hother => hlatest other (List.mem_toFinset.mpr hother)⟩

theorem mem_untimed {series : ResourceMetric} : series ∈ untimed resources ↔
    ∃ resource ∈ resources, resource.toResourceMetric = series :=
  List.mem_map

theorem LatestAgrees.isLatest (h : LatestAgrees (untimed resources) metric) {value : Rat}
    (hvalue : (measuredValues (untimed resources) metric false).getLast? = some value) :
    ∃ point, IsLatest resources metric point ∧ point.value = some value := by
  obtain ⟨series, hseries, haverages, hlast⟩ := exists_lastValue hvalue
  obtain ⟨resource, hresource, rfl⟩ := mem_untimed.mp hseries
  have hpoints : averagedPoints resources metric ≠ [] := by
    have hmem := List.mem_of_getLast? hlast
    rw [resource.series_eq, List.filterMap_map, List.mem_filterMap] at hmem
    obtain ⟨point, hpoint, hsome⟩ := hmem
    have hmeasured : point.value = some value := hsome
    exact List.ne_nil_of_mem (mem_averagedPoints.mpr
      ⟨resource, hresource, haverages, hpoint, by rw [hmeasured]; rfl⟩)
  obtain ⟨latest, hmem, hlatest⟩ := exists_isLatest hpoints
  obtain ⟨other, hother, haverages', hpoint, hmeasured⟩ := mem_averagedPoints.mp hmem
  obtain ⟨last, hlastPoint, hlastSome, hlastValue, htime⟩ := exists_lastPoint hpoint hmeasured
  obtain ⟨value', hvalue'⟩ := Option.isSome_iff_exists.mp hlastSome
  have hsame : value = value' := h _ hseries _ (mem_untimed.mpr ⟨other, hother, rfl⟩) haverages
    haverages' value value' hlast (hlastValue.trans hvalue')
  refine ⟨last, ⟨mem_averagedPoints.mpr ⟨other, hother, haverages', hlastPoint, hlastSome⟩, ?_⟩,
    by rw [hvalue', hsame]⟩
  intro point hpoint
  exact (hlatest point hpoint).trans htime

/-- **Summaries in any order**: a summary depends on no order of the resources, its numbers are
in order and its latest values of the latest points, exactly if the averaged series of each
metric end with one value and its maxima, where some are measured, reach 95 percent of the
averages. -/
theorem summarizeResources_independent_iff (resources : List TimedMetric) :
    SummaryIndependent resources ↔ ∀ metric ∈ ["CPU", "MEMORY"],
      LatestAgrees (untimed resources) metric ∧ PeaksReach (untimed resources) metric := by
  constructor
  · intro h metric hmetric
    refine ⟨(latestAgrees_iff _ resources).mpr fun resources' hperm => ?_, ?_⟩
    · exact summarizeResources_eq_iff.mp (h.permuted resources' hperm) metric hmetric
    · cases hstats : metricStatistics (untimed resources) metric with
      | none => exact peaksReach_of_eq_none hstats
      | some stats =>
        exact (ordered_iff hstats).mp
          (h.ordered (metric, stats) (mem_summarizeResources.mpr ⟨hmetric, hstats⟩))
  · intro h
    refine ⟨fun resources' hperm => ?_, fun entry hentry => ?_, fun entry hentry hpos => ?_⟩
    · rw [summarizeResources_eq_iff]
      intro metric hmetric
      exact (latestAgrees_iff _ resources).mp (h metric hmetric).1 resources' hperm
    · obtain ⟨hmetric, hstats⟩ := mem_summarizeResources.mp hentry
      exact (ordered_iff hstats).mpr (h entry.1 hmetric).2
    · obtain ⟨hmetric, hstats⟩ := mem_summarizeResources.mp hentry
      have hlatest := latest_metricStatistics (untimed resources) entry.1
      rw [hstats, Option.bind_some] at hlatest
      cases hvalue : (measuredValues (untimed resources) entry.1 false).getLast? with
      | none =>
        rw [sampleCount_metricStatistics hstats, List.getLast?_eq_none_iff.mp hvalue] at hpos
        cases hpos
      | some value =>
        obtain ⟨point, hpoint, hsame⟩ := (h entry.1 hmetric).1.isLatest hvalue
        exact ⟨point, hpoint, by rw [hlatest, hvalue, hsame]⟩

def cpuAt (resourceID : String) (timestamp : Time) (value : Rat) : TimedMetric where
  resourceId := resourceID
  metric := "CPU"
  aggregation := "AVG"
  selector := ""
  statistics := statistics [value] (some value)
  series := [some value]
  points := [⟨timestamp, some value⟩]
  series_eq := rfl
  ordered := List.pairwise_singleton _ _

/-- A host measured 20 at time 10 and another 90 at time 5: the latest value is 90 in this
order, and 20 in the other. -/
theorem summarizeResources_order_matters :
    ¬∀ resources, SummaryIndependent resources := by
  intro h
  have hswapped := (h [cpuAt "a" 10 20, cpuAt "b" 5 90]).permuted
    [cpuAt "b" 5 90, cpuAt "a" 10 20] (List.Perm.swap _ _ [])
  revert hswapped
  decide +kernel

end Timed

end Rhythm.Dynatrace
