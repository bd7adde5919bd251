import Rhythm.Buckets
import Rhythm.Runs.Domain

/-!
# Rhythm.Runs.MetricSeries

The metric series of a monitor, which the service computes from a list of runs
(`AttachSeriesBucketCounts`) and the repository in SQL (`MetricSeries`): one point for each time
bucket, with the slowest run of the bucket and the counts of all.  Windows of more than 30 days are
read from rollups instead, which are not modelled.

* `series_attached` and `series_metricSeries` — what both return;
* `conserves_iff` — the two conserve the runs, and agree, exactly if no run was skipped as
  overlapping, no response status lies outside its class and no bucket too many is used.
-/

namespace Rhythm.Runs.MetricSeries

/-! ## Points -/

/-- `HistoryMetricPoint`, without the fields that are only carried along; times are in
nanoseconds. -/
structure Point where
  runID : String
  status : Status
  createdAt : Int
  apiResponseTimeMS : Option Int
  /-- The HTTP status of the last attempt; 0 stands for none. -/
  responseStatus : Option Nat
  deriving DecidableEq

/-- `HistoryBucketCounts`. -/
structure Counts where
  success : Nat := 0
  failed : Nat := 0
  timeout : Nat := 0
  class1xx : Nat := 0
  class2xx : Nat := 0
  class3xx : Nat := 0
  class4xx : Nat := 0
  class5xx : Nat := 0
  httpTimeout : Nat := 0
  noResponse : Nat := 0
  deriving DecidableEq

/-- A point with its bucket counts. -/
structure SeriesPoint where
  point : Point
  counts : Counts
  deriving DecidableEq

/-- The width of a bucket in seconds, for a window of whole seconds: the quotient of such numbers
rounds up in floating point as it does exactly. -/
def bucketSeconds (seconds maxPoints : Nat) : Nat :=
  max 1 ((seconds + maxPoints - 1) / maxPoints)

def second : Nat := 10 ^ 9

/-! ## In the service -/

/-- `countsHTTPOutcome`.  The text `SKIPPED` is no status of the service: it falls to the
default. -/
def countsHTTPOutcome : Status → Bool
  | .queued | .starting | .running | .cancelled | .skippedCondition => false
  | _ => true

def countedStatus (point : Point) : Option Nat := point.responseStatus.filter (0 < ·)

def incrementOutcome (counts : Counts) (status : Status) : Counts :=
  match status with
  | .success | .successWithWarnings => { counts with success := counts.success + 1 }
  | .timedOut => { counts with timeout := counts.timeout + 1 }
  | .failed | .aborted => { counts with failed := counts.failed + 1 }
  | _ => counts

def incrementClass (counts : Counts) (responseStatus : Nat) : Counts :=
  match responseStatus / 100 with
  | 1 => { counts with class1xx := counts.class1xx + 1 }
  | 2 => { counts with class2xx := counts.class2xx + 1 }
  | 3 => { counts with class3xx := counts.class3xx + 1 }
  | 4 => { counts with class4xx := counts.class4xx + 1 }
  | 5 => { counts with class5xx := counts.class5xx + 1 }
  | _ => counts

/-- `incrementBucketCounts`. -/
def incrementBucketCounts (counts : Counts) (point : Point) : Counts :=
  let counts := incrementOutcome counts point.status
  if !countsHTTPOutcome point.status then counts
  else
    match countedStatus point with
    | some responseStatus => incrementClass counts responseStatus
    | none =>
      if point.status = .timedOut then { counts with httpTimeout := counts.httpTimeout + 1 }
      else { counts with noResponse := counts.noResponse + 1 }

/-- A bucket and the slowest of its runs so far. -/
structure Bucket where
  key : Int
  counts : Counts
  representative : Point

def api (point : Point) : Int := point.apiResponseTimeMS.getD (-1)

/-- One more run of a bucket.  The first one represents it until a slower comes, or an equally slow
one that was created later. -/
def addPoint (bucket : Bucket) (point : Point) : Bucket :=
  { bucket with
    counts := incrementBucketCounts bucket.counts point
    representative :=
      if api bucket.representative < api point ∨ api point = api bucket.representative ∧
          bucket.representative.createdAt < point.createdAt then point
      else bucket.representative }

def bucketKey (windowStart : Int) (bucketSeconds : Nat) (point : Point) : Int :=
  max 0 (point.createdAt - windowStart) / (bucketSeconds * second : Nat)

/-- `AttachSeriesBucketCounts`. -/
def attachSeriesBucketCounts (points : List Point) (windowStart : Int) (seconds maxPoints : Nat) :
    List SeriesPoint :=
  let key := bucketKey windowStart (bucketSeconds seconds (max 1 maxPoints))
  let buckets := points.foldl (collectRow key Bucket.key (fun point => ⟨key point, {}, point⟩)
    addPoint) []
  (buckets.insertionSort fun a b => a.key ≤ b.key).map fun bucket =>
    ⟨bucket.representative, bucket.counts⟩

/-! ## In the database -/

def isFinished : Status → Bool
  | .queued | .starting | .running => false
  | _ => true

/-- `date_bin`. -/
def dateBin (origin : Int) (bucketSeconds : Nat) (point : Point) : Int :=
  (point.createdAt - origin) / (bucketSeconds * second : Nat)

/-- `ORDER BY api_response_time_ms DESC NULLS LAST, created_at DESC, id DESC`. -/
def ranksBefore (p q : Point) : Prop :=
  let later := q.createdAt < p.createdAt ∨ q.createdAt = p.createdAt ∧ q.runID ≤ p.runID
  match p.apiResponseTimeMS, q.apiResponseTimeMS with
  | some a, some b => b < a ∨ a = b ∧ later
  | some _, none => True
  | none, some _ => False
  | none, none => later

instance : DecidableRel ranksBefore := fun p q => by
  unfold ranksBefore
  dsimp only
  split <;> infer_instance

/-- `response_status BETWEEN low AND low + 99`. -/
def inClass (low : Nat) (point : Point) : Bool :=
  (countedStatus point).any fun responseStatus =>
    low ≤ responseStatus && responseStatus ≤ low + 99

/-- `bucket_agg`. -/
def bucketAgg (rows : List Point) : Counts where
  success := rows.countP fun row => row.status ∈ [.success, .successWithWarnings]
  failed := rows.countP fun row => row.status ∈ [.failed, .aborted]
  timeout := rows.countP fun row => row.status = .timedOut
  class1xx := rows.countP (inClass 100)
  class2xx := rows.countP (inClass 200)
  class3xx := rows.countP (inClass 300)
  class4xx := rows.countP (inClass 400)
  class5xx := rows.countP (inClass 500)
  httpTimeout := rows.countP fun row => countedStatus row = none && row.status = .timedOut
  noResponse := rows.countP fun row => countedStatus row = none && row.status ≠ .timedOut &&
    row.status ∉ [.cancelled, .skipped, .skippedCondition]

/-- The SQL of `MetricSeries`, on the runs of the monitor since the start of the window. -/
def metricSeries (origin : Int) (runs : List Point) (seconds maxPoints : Nat) :
    List SeriesPoint :=
  let bin := dateBin origin (bucketSeconds seconds maxPoints)
  let base := runs.filter fun run => isFinished run.status
  let rows := ((firsts bin base).map bin).filterMap fun bucket =>
    let inBucket := base.filter fun row => bin row = bucket
    (inBucket.insertionSort ranksBefore).head?.map fun representative =>
      ⟨representative, bucketAgg inBucket⟩
  rows.insertionSort fun a b => a.point.createdAt ≤ b.point.createdAt

/-! ## Conservation -/

def total (series : List SeriesPoint) (count : Counts → Nat) : Nat :=
  (series.map fun point => count point.counts).sum

def countFields : List (Counts → Nat) :=
  [Counts.success, Counts.failed, Counts.timeout, Counts.class1xx, Counts.class2xx,
    Counts.class3xx, Counts.class4xx, Counts.class5xx, Counts.httpTimeout, Counts.noResponse]

def Counts.outcomes (counts : Counts) : Nat := counts.success + counts.failed + counts.timeout

def Counts.responses (counts : Counts) : Nat :=
  counts.class1xx + counts.class2xx + counts.class3xx + counts.class4xx + counts.class5xx +
    counts.httpTimeout + counts.noResponse

/-- A series conserves the runs that count. -/
structure ConservesRuns (runs : List Point) (maxPoints : Nat) (series : List SeriesPoint) :
    Prop where
  bounded : series.length ≤ maxPoints
  increasing : series.Pairwise fun a b => a.point.createdAt < b.point.createdAt
  outcomes : total series Counts.outcomes = runs.countP fun run => countsHTTPOutcome run.status
  responses : total series Counts.responses = runs.countP fun run => countsHTTPOutcome run.status

/-- Both series conserve the runs, and they agree in each count. -/
structure Conserves (origin start : Int) (runs : List Point) (seconds maxPoints : Nat) : Prop where
  attached : ConservesRuns runs maxPoints (attachSeriesBucketCounts runs start seconds maxPoints)
  projected : ConservesRuns runs maxPoints (metricSeries origin runs seconds maxPoints)
  agree : ∀ count ∈ countFields,
    total (attachSeriesBucketCounts runs start seconds maxPoints) count =
      total (metricSeries origin runs seconds maxPoints) count

/-- The last response status of a run is in none of the five classes. -/
def unclassified (run : Point) : Bool :=
  (countedStatus run).any fun responseStatus => responseStatus < 100 || 600 ≤ responseStatus

/-- The last response status of a run is in one of the classes. -/
def classified (run : Point) : Bool :=
  (countedStatus run).any fun responseStatus => 100 ≤ responseStatus && responseStatus < 600

/-- When the series conserve the runs. -/
structure Regular (origin start : Int) (runs : List Point) (seconds maxPoints : Nat) : Prop where
  /-- No run was skipped as overlapping. -/
  unskipped : ∀ run ∈ runs, run.status ≠ .skipped
  /-- No run that counts has a response status outside the classes. -/
  counted : ∀ run ∈ runs, countsHTTPOutcome run.status = true → unclassified run = false
  /-- No run that does not count has one inside. -/
  uncounted : ∀ run ∈ runs, countsHTTPOutcome run.status = false → classified run = false
  /-- One of the buckets that the window can reach is empty, from its start on … -/
  spareKey : ∃ k : Nat, k ≤ maxPoints ∧ ∀ run ∈ runs,
    bucketKey start (bucketSeconds seconds maxPoints) run ≠ k
  /-- … and from the origin of the database on. -/
  spareBin : ∃ k : Nat, k ≤ maxPoints ∧ ∀ run ∈ runs,
    dateBin origin (bucketSeconds seconds maxPoints) run ≠
      (start - origin) / (bucketSeconds seconds maxPoints * second : Nat) + k

/-! ## Counts -/

/-- A count that adds up, run by run, in both implementations. -/
structure Additive (count : Counts → Nat) : Prop where
  empty : count {} = 0
  increment : ∀ counts point,
    count (incrementBucketCounts counts point) =
      count counts + count (incrementBucketCounts {} point)
  aggregate : ∀ row rows,
    count (bucketAgg (row :: rows)) = count (bucketAgg [row]) + count (bucketAgg rows)

section Adding

variable {count : Counts → Nat}

theorem incrementOutcome_add (hcount : count ∈ countFields) (counts : Counts) (status : Status) :
    count (incrementOutcome counts status) = count counts + count (incrementOutcome {} status) := by
  simp only [countFields, List.mem_cons, List.not_mem_nil, or_false] at hcount
  obtain rfl | rfl | rfl | rfl | rfl | rfl | rfl | rfl | rfl | rfl := hcount <;>
    cases status <;> rfl

theorem incrementClass_add (hcount : count ∈ countFields) (counts : Counts) (status : Nat) :
    count (incrementClass counts status) = count counts + count (incrementClass {} status) := by
  simp only [countFields, List.mem_cons, List.not_mem_nil, or_false] at hcount
  unfold incrementClass
  split <;> obtain rfl | rfl | rfl | rfl | rfl | rfl | rfl | rfl | rfl | rfl := hcount <;> rfl

theorem additive_of_mem (hcount : count ∈ countFields) : Additive count where
  empty := by
    simp only [countFields, List.mem_cons, List.not_mem_nil, or_false] at hcount
    obtain rfl | rfl | rfl | rfl | rfl | rfl | rfl | rfl | rfl | rfl := hcount <;> rfl
  increment counts point := by
    have houtcome := incrementOutcome_add hcount counts point.status
    unfold incrementBucketCounts
    dsimp only
    split
    · exact houtcome
    · split
      · grind [incrementClass_add, incrementOutcome, Nat.add_assoc]
      · simp only [countFields, List.mem_cons, List.not_mem_nil, or_false] at hcount
        split <;>
          obtain rfl | rfl | rfl | rfl | rfl | rfl | rfl | rfl | rfl | rfl := hcount <;>
          simp only at houtcome ⊢ <;> omega
  aggregate row rows := by
    simp only [countFields, List.mem_cons, List.not_mem_nil, or_false] at hcount
    have happend : row :: rows = [row] ++ rows := rfl
    rw [happend]
    obtain rfl | rfl | rfl | rfl | rfl | rfl | rfl | rfl | rfl | rfl := hcount <;>
      exact List.countP_append

theorem Additive.add {other : Counts → Nat} (h : Additive count) (h' : Additive other) :
    Additive fun counts => count counts + other counts where
  empty := by rw [h.empty, h'.empty]
  increment counts point := by
    rw [h.increment, h'.increment]
    omega
  aggregate row rows := by
    rw [h.aggregate, h'.aggregate]
    omega

theorem additive_outcomes : Additive Counts.outcomes :=
  ((additive_of_mem (by simp [countFields])).add (additive_of_mem (by simp [countFields]))).add
    (additive_of_mem (by simp [countFields]))

theorem additive_responses : Additive Counts.responses :=
  ((((((additive_of_mem (by simp [countFields])).add (additive_of_mem (by simp [countFields]))).add
    (additive_of_mem (by simp [countFields]))).add (additive_of_mem (by simp [countFields]))).add
    (additive_of_mem (by simp [countFields]))).add (additive_of_mem (by simp [countFields]))).add
    (additive_of_mem (by simp [countFields]))

def serviceCounts (rows : List Point) : Counts := rows.foldl incrementBucketCounts {}

theorem Additive.serviceCounts (h : Additive count) (rows : List Point) :
    count (serviceCounts rows) =
      (rows.map fun row => count (incrementBucketCounts {} row)).sum := by
  induction rows using List.reverseRecOn with
  | nil => exact h.empty
  | append_singleton rows row ih =>
    rw [MetricSeries.serviceCounts] at ih ⊢
    rw [List.foldl_append, List.foldl_cons, List.foldl_nil, h.increment, ih, List.map_append,
      List.sum_append, List.map_singleton, List.sum_singleton]

theorem Additive.bucketAgg (h : Additive count) (rows : List Point) :
    count (bucketAgg rows) = (rows.map fun row => count (bucketAgg [row])).sum := by
  induction rows with
  | nil => exact h.empty
  | cons row rows ih => rw [h.aggregate, ih, List.map_cons, List.sum_cons]

end Adding

/-! ## Both series -/

/-- A series of the runs by an index: a point for each bucket, which is one of its runs, with the
counts of all of them. -/
structure IsSeries (index : Point → Int) (counts : List Point → Counts) (runs : List Point)
    (series : List SeriesPoint) : Prop where
  covers : Covers index runs (series.map fun s => index s.point)
  counted : ∀ s ∈ series, s.counts = counts (runs.filter fun run => index run = index s.point)
  increasing : series.Pairwise fun a b => a.point.createdAt < b.point.createdAt

section Series

variable {index : Point → Int} {counts : List Point → Counts} {runs : List Point}
  {series : List SeriesPoint}

theorem IsSeries.total_eq (h : IsSeries index counts runs series) {count : Counts → Nat}
    {weight : Point → Nat} (hcount : ∀ rows, count (counts rows) = (rows.map weight).sum) :
    total series count = (runs.map weight).sum := by
  have hpoints : series.map (fun s => count s.counts) =
      (series.map fun s => index s.point).map fun k =>
        ((runs.filter fun run => index run = k).map weight).sum := by
    rw [List.map_map]
    refine List.map_congr_left fun s hs => ?_
    rw [h.counted s hs, hcount]
    rfl
  rw [total, hpoints, h.covers.sum_map]

theorem bucketSeconds_pos (seconds maxPoints : Nat) :
    0 < ((bucketSeconds seconds maxPoints * second : Nat) : Int) := by
  grind [bucketSeconds, second]

theorem foldl_addPoint (rows : List Point) (bucket : Bucket) :
    (rows.foldl addPoint bucket).key = bucket.key ∧
      (rows.foldl addPoint bucket).counts = rows.foldl incrementBucketCounts bucket.counts ∧
      ((rows.foldl addPoint bucket).representative = bucket.representative ∨
        (rows.foldl addPoint bucket).representative ∈ rows) := by
  induction rows generalizing bucket with
  | nil => exact ⟨rfl, rfl, .inl rfl⟩
  | cons row rows ih =>
    obtain ⟨hkey, hcounts, hrepresentative⟩ := ih (addPoint bucket row)
    refine ⟨hkey, hcounts, ?_⟩
    rw [List.foldl_cons]
    obtain hfirst | hrest := hrepresentative
    · rw [hfirst]
      unfold addPoint
      dsimp only
      split
      · exact .inr List.mem_cons_self
      · exact .inl rfl
    · exact .inr (List.mem_cons_of_mem row hrest)

theorem bucketKey_mono {windowStart : Int} {width : Nat} {p q : Point}
    (hpos : 0 < ((width * second : Nat) : Int)) (h : p.createdAt ≤ q.createdAt) :
    bucketKey windowStart width p ≤ bucketKey windowStart width q :=
  Int.ediv_le_ediv hpos (by omega)

/-- **The series of the service.** -/
theorem series_attached (runs : List Point) (start : Int) (seconds maxPoints : Nat) :
    IsSeries (bucketKey start (bucketSeconds seconds (max 1 maxPoints))) serviceCounts runs
      (attachSeriesBucketCounts runs start seconds maxPoints) := by
  unfold attachSeriesBucketCounts
  dsimp only
  have hpos := bucketSeconds_pos seconds (max 1 maxPoints)
  generalize bucketSeconds seconds (max 1 maxPoints) = width at hpos
  generalize hkey : bucketKey start width = key
  have hname : ∀ bucket point, (addPoint bucket point).key = bucket.key := fun _ _ => rfl
  rw [foldl_collectRow key Bucket.key _ (fun _ => rfl) hname runs]
  generalize hbuckets : (firsts key runs).map
    (groupOf key (fun point => (⟨key point, {}, point⟩ : Bucket)) addPoint runs) = buckets
  -- each bucket holds the runs of its key, and is represented by one of them
  have hgroup : ∀ bucket ∈ buckets, key bucket.representative = bucket.key ∧
      bucket.counts = serviceCounts (runs.filter fun run => key run = bucket.key) := by
    intro bucket hmem
    rw [← hbuckets] at hmem
    obtain ⟨first, hfirst, rfl⟩ := List.mem_map.mp hmem
    obtain ⟨hsame, hcounts, hrepresentative⟩ :=
      foldl_addPoint (runs.filter fun row => key row = key first) ⟨key first, {}, first⟩
    unfold groupOf
    rw [hsame]
    refine ⟨?_, hcounts⟩
    obtain hfirst | hrest := hrepresentative
    · rw [hfirst]
    · simpa using (List.mem_filter.mp hrest).2
  have hkeys : Covers key runs (buckets.map Bucket.key) := by
    have hfirsts : buckets.map Bucket.key = (firsts key runs).map key := by
      rw [← hbuckets, List.map_map]
      exact List.map_congr_left fun first _ => (foldl_addPoint _ _).1
    rw [hfirsts]
    exact Covers.map_firsts key runs
  have hperm : (buckets.insertionSort fun a b => a.key ≤ b.key).Perm buckets :=
    List.perm_insertionSort _ _
  have hsorted : (buckets.insertionSort fun a b => a.key ≤ b.key).Pairwise
      fun a b => a.key ≤ b.key := by
    have : Std.Total fun a b : Bucket => a.key ≤ b.key := ⟨fun a b => le_total a.key b.key⟩
    have : IsTrans Bucket fun a b => a.key ≤ b.key := ⟨fun _ _ _ => le_trans⟩
    exact List.pairwise_insertionSort _ _
  generalize (buckets.insertionSort fun a b => a.key ≤ b.key) = sorted at hperm hsorted
  have hmem : ∀ bucket ∈ sorted, bucket ∈ buckets := fun _ => hperm.mem_iff.mp
  have hindex :
      (sorted.map fun bucket => (⟨bucket.representative, bucket.counts⟩ : SeriesPoint)).map
        (fun s => key s.point) = sorted.map Bucket.key := by
    rw [List.map_map]
    exact List.map_congr_left fun bucket hbucket => (hgroup bucket (hmem bucket hbucket)).1
  have hcovers : Covers key runs (sorted.map Bucket.key) := hkeys.of_perm (hperm.map _)
  refine ⟨hindex ▸ hcovers, ?_, ?_⟩
  · intro s hs
    obtain ⟨bucket, hbucket, rfl⟩ := List.mem_map.mp hs
    obtain ⟨hrepresentative, hcounts⟩ := hgroup bucket (hmem bucket hbucket)
    rw [hrepresentative]
    exact hcounts
  · rw [List.pairwise_map]
    have hdistinct : sorted.Pairwise fun a b => a.key ≠ b.key :=
      List.pairwise_map.mp hcovers.nodup
    refine (hsorted.and hdistinct).imp_of_mem fun {a b} ha hb hkeys => ?_
    by_contra hlater
    have hle := @bucketKey_mono start width b.representative a.representative hpos
      (Int.not_lt.mp hlater)
    rw [hkey, (hgroup a (hmem a ha)).1, (hgroup b (hmem b hb)).1] at hle
    exact hkeys.2 (le_antisymm hkeys.1 hle)

/-- **The series of the database.** -/
theorem series_metricSeries (origin : Int) (runs : List Point) (seconds maxPoints : Nat)
    (hfinished : ∀ run ∈ runs, isFinished run.status = true) :
    IsSeries (dateBin origin (bucketSeconds seconds maxPoints)) bucketAgg runs
      (metricSeries origin runs seconds maxPoints) := by
  unfold metricSeries
  dsimp only
  rw [List.filter_eq_self.mpr hfinished]
  generalize hbin : dateBin origin (bucketSeconds seconds maxPoints) = bin
  have hkeys := Covers.map_firsts bin runs
  generalize (firsts bin runs).map bin = keys at hkeys
  -- each bucket has a first row
  have hrow : ∀ k ∈ keys, ∃ first : Point, bin first = k ∧
      ((runs.filter fun row => bin row = k).insertionSort ranksBefore).head? = some first := by
    intro k hk
    obtain ⟨run, hrun, hrunKey⟩ := (hkeys.mem_iff k).mp hk
    cases hsorted : (runs.filter fun row => bin row = k).insertionSort ranksBefore with
    | nil =>
      have hin : run ∈ runs.filter fun row => bin row = k :=
        List.mem_filter.mpr ⟨hrun, by simpa using hrunKey⟩
      rw [← List.mem_insertionSort ranksBefore, hsorted] at hin
      exact absurd hin List.not_mem_nil
    | cons first rest =>
      grind [ranksBefore, List.mem_cons_self, List.mem_insertionSort]
  generalize hrows : keys.filterMap (fun bucket =>
    ((runs.filter fun row => bin row = bucket).insertionSort ranksBefore).head?.map
      fun representative => (⟨representative, bucketAgg (runs.filter fun row => bin row = bucket)⟩ :
        SeriesPoint)) = rows
  have hindex : rows.map (fun s => bin s.point) = keys ∧ ∀ s ∈ rows,
      s.counts = bucketAgg (runs.filter fun row => bin row = bin s.point) := by
    clear hkeys
    subst hrows
    induction keys with
    | nil => exact ⟨rfl, fun s hs => absurd hs List.not_mem_nil⟩
    | cons k keys ih =>
      obtain ⟨first, hfirst, hhead⟩ := hrow k List.mem_cons_self
      obtain ⟨hrest, hcounts⟩ := ih fun other hother => hrow other (List.mem_cons_of_mem k hother)
      rw [List.filterMap_cons, hhead]
      refine ⟨by rw [Option.map_some, List.map_cons, hfirst, hrest], fun s hs => ?_⟩
      obtain rfl | hmem := List.mem_cons.mp hs
      · rw [hfirst]
      · exact hcounts s hmem
  have hperm : (rows.insertionSort fun a b => a.point.createdAt ≤ b.point.createdAt).Perm rows :=
    List.perm_insertionSort _ _
  have hsorted : (rows.insertionSort fun a b => a.point.createdAt ≤ b.point.createdAt).Pairwise
      fun a b => a.point.createdAt ≤ b.point.createdAt := by
    have : Std.Total fun a b : SeriesPoint => a.point.createdAt ≤ b.point.createdAt :=
      ⟨fun a b => le_total a.point.createdAt b.point.createdAt⟩
    have : IsTrans SeriesPoint fun a b => a.point.createdAt ≤ b.point.createdAt :=
      ⟨fun _ _ _ => le_trans⟩
    exact List.pairwise_insertionSort _ _
  have hcovers := hkeys.of_perm ((hperm.map fun s => bin s.point).trans (.of_eq hindex.1))
  refine ⟨hcovers, fun s hs => hindex.2 s (hperm.mem_iff.mp hs), ?_⟩
  refine (hsorted.and (List.pairwise_map.mp hcovers.nodup)).imp fun {a b} hkeys => ?_
  refine lt_of_le_of_ne hkeys.1 fun hsame => hkeys.2 ?_
  rw [← hbin, dateBin, dateBin, hsame]

end Series

/-! ## One run -/

section OneRun

variable {run : Point}

theorem inClass_iff {responseStatus : Nat} (h : countedStatus run = some responseStatus) (k : Nat) :
    inClass (100 * k) run = decide (responseStatus / 100 = k) := by
  rw [inClass, h, Option.any_some, ← Bool.decide_and, decide_eq_decide]
  omega

theorem classified_iff {responseStatus : Nat} (h : countedStatus run = some responseStatus) :
    classified run = decide (1 ≤ responseStatus / 100 ∧ responseStatus / 100 ≤ 5) ∧
      unclassified run = !classified run := by
  grind [classified, unclassified, Bool.decide_and, Bool.decide_or, decide_not]

theorem classified_none (h : countedStatus run = none) :
    classified run = false ∧ unclassified run = false := by
  rw [classified, unclassified, h]
  exact ⟨rfl, rfl⟩

theorem incrementClass_eq (counts : Counts) (responseStatus : Nat) :
    incrementClass counts responseStatus = { counts with
      class1xx := counts.class1xx + (decide (responseStatus / 100 = 1)).toNat
      class2xx := counts.class2xx + (decide (responseStatus / 100 = 2)).toNat
      class3xx := counts.class3xx + (decide (responseStatus / 100 = 3)).toNat
      class4xx := counts.class4xx + (decide (responseStatus / 100 = 4)).toNat
      class5xx := counts.class5xx + (decide (responseStatus / 100 = 5)).toNat } := by
  unfold incrementClass
  generalize responseStatus / 100 = k
  split
  iterate 5 rfl
  next h1 h2 h3 h4 h5 =>
    rw [decide_eq_false h1, decide_eq_false h2, decide_eq_false h3, decide_eq_false h4,
      decide_eq_false h5]
    rfl

theorem increment_empty (run : Point) : incrementBucketCounts {} run = {
    success := (decide (run.status ∈ [.success, .successWithWarnings])).toNat
    failed := (decide (run.status ∈ [.failed, .aborted])).toNat
    timeout := (decide (run.status = .timedOut)).toNat
    class1xx := (countsHTTPOutcome run.status && inClass 100 run).toNat
    class2xx := (countsHTTPOutcome run.status && inClass 200 run).toNat
    class3xx := (countsHTTPOutcome run.status && inClass 300 run).toNat
    class4xx := (countsHTTPOutcome run.status && inClass 400 run).toNat
    class5xx := (countsHTTPOutcome run.status && inClass 500 run).toNat
    httpTimeout := (countsHTTPOutcome run.status && countedStatus run = none &&
      run.status = .timedOut).toNat
    noResponse := (countsHTTPOutcome run.status && countedStatus run = none &&
      run.status ≠ .timedOut).toNat } := by
  unfold incrementBucketCounts
  dsimp only
  generalize hstatus : run.status = status
  cases hresponse : countedStatus run with
  | none =>
    have hnone : ∀ low, inClass low run = false := by
      intro low
      rw [inClass, hresponse]
      rfl
    simp only [hnone]
    cases status <;> rfl
  | some responseStatus =>
    have hclass := inClass_iff hresponse
    have h1 := hclass 1
    have h2 := hclass 2
    have h3 := hclass 3
    have h4 := hclass 4
    have h5 := hclass 5
    simp only [Nat.reduceMul] at h1 h2 h3 h4 h5
    rw [h1, h2, h3, h4, h5]
    dsimp only
    rw [incrementClass_eq]
    cases status <;>
      simp only [incrementOutcome, countsHTTPOutcome, Nat.zero_add, Bool.true_and, Bool.false_and,
        Bool.not_true, Bool.not_false, if_true] <;> rfl

theorem classes_sum (run : Point) : (inClass 100 run).toNat + (inClass 200 run).toNat +
    (inClass 300 run).toNat + (inClass 400 run).toNat + (inClass 500 run).toNat =
      (classified run).toNat := by
  cases hresponse : countedStatus run with
  | none =>
    rw [(classified_none hresponse).1]
    simp [inClass, hresponse]
  | some responseStatus =>
    have hclass := inClass_iff hresponse
    have h1 := hclass 1
    have h2 := hclass 2
    have h3 := hclass 3
    have h4 := hclass 4
    have h5 := hclass 5
    simp only [Nat.reduceMul] at h1 h2 h3 h4 h5
    rw [h1, h2, h3, h4, h5, (classified_iff hresponse).1]
    generalize responseStatus / 100 = k
    by_cases hk : 1 ≤ k ∧ k ≤ 5
    · have hcases : k = 1 ∨ k = 2 ∨ k = 3 ∨ k = 4 ∨ k = 5 := by omega
      obtain rfl | rfl | rfl | rfl | rfl := hcases <;> rfl
    · have hne : k ≠ 1 ∧ k ≠ 2 ∧ k ≠ 3 ∧ k ≠ 4 ∧ k ≠ 5 := by omega
      rw [decide_eq_false hk]
      simp [hne]

theorem countP_one (p : Point → Bool) (run : Point) : [run].countP p = (p run).toNat := by
  rw [List.countP_singleton]
  cases p run <;> rfl

theorem bucketAgg_one (run : Point) : bucketAgg [run] = {
    success := (decide (run.status ∈ [.success, .successWithWarnings])).toNat
    failed := (decide (run.status ∈ [.failed, .aborted])).toNat
    timeout := (decide (run.status = .timedOut)).toNat
    class1xx := (inClass 100 run).toNat
    class2xx := (inClass 200 run).toNat
    class3xx := (inClass 300 run).toNat
    class4xx := (inClass 400 run).toNat
    class5xx := (inClass 500 run).toNat
    httpTimeout := (countedStatus run = none && run.status = .timedOut).toNat
    noResponse := (countedStatus run = none && run.status ≠ .timedOut &&
      run.status ∉ [.cancelled, .skipped, .skippedCondition]).toNat } := by
  unfold bucketAgg
  simp only [countP_one]

theorem outcomes_one (run : Point) :
    (incrementBucketCounts {} run).outcomes = (bucketAgg [run]).outcomes ∧
      (bucketAgg [run]).outcomes =
        (countsHTTPOutcome run.status && run.status ≠ .skipped).toNat := by
  rw [increment_empty, bucketAgg_one]
  refine ⟨rfl, ?_⟩
  generalize run.status = status
  cases status <;> rfl

theorem responses_increment (run : Point) : (incrementBucketCounts {} run).responses =
    (countsHTTPOutcome run.status && !unclassified run).toNat := by
  have hclasses := classes_sum run
  rw [increment_empty]
  unfold Counts.responses
  cases countsHTTPOutcome run.status with
  | false => rfl
  | true =>
    simp only [Bool.true_and]
    rw [hclasses]
    cases hresponse : countedStatus run with
    | none =>
      obtain ⟨hclassified, hunclassified⟩ := classified_none hresponse
      rw [hclassified, hunclassified]
      by_cases htimeout : run.status = .timedOut <;> simp [htimeout]
    | some responseStatus =>
      rw [(classified_iff hresponse).2]
      simp

/-- The two count a run alike if it was not skipped as overlapping and, where it does not count, has
no response status inside the classes. -/
theorem increment_eq_aggregate (hfinished : isFinished run.status = true)
    (hunskipped : run.status ≠ .skipped)
    (huncounted : countsHTTPOutcome run.status = false → classified run = false) :
    incrementBucketCounts {} run = bucketAgg [run] := by
  have hclasses := classes_sum run
  rw [increment_empty, bucketAgg_one]
  cases hcounts : countsHTTPOutcome run.status with
  | true =>
    have hlisted : run.status ∉ [.cancelled, .skipped, .skippedCondition] := by
      intro hmem
      simp only [List.mem_cons, List.not_mem_nil, or_false] at hmem
      obtain hstatus | hstatus | hstatus := hmem
      · rw [hstatus] at hcounts
        cases hcounts
      · exact hunskipped hstatus
      · rw [hstatus] at hcounts
        cases hcounts
    simp only [Bool.true_and, decide_eq_true hlisted, Bool.and_true]
  | false =>
    rw [huncounted hcounts] at hclasses
    simp only [Bool.toNat_false, Nat.add_eq_zero_iff] at hclasses
    obtain ⟨⟨⟨⟨h1, h2⟩, h3⟩, h4⟩, h5⟩ := hclasses
    rw [h1, h2, h3, h4, h5]
    have hstatus : run.status = .cancelled ∨ run.status = .skippedCondition := by
      revert hcounts hfinished
      generalize run.status = status
      cases status <;> decide
    obtain hstatus | hstatus := hstatus <;> rw [hstatus] <;> simp

end OneRun

/-! ## Windows -/

section Windows

variable {origin start : Int} {runs : List Point} {seconds maxPoints : Nat}

theorem window_le (hmax : 1 ≤ maxPoints) :
    ((seconds * second : Nat) : Int) ≤
      maxPoints * ((bucketSeconds seconds maxPoints * second : Nat) : Int) := by
  have hceil : (seconds + maxPoints - 1) / maxPoints ≤ bucketSeconds seconds maxPoints :=
    le_max_right _ _
  have hdivision := Nat.div_add_mod (seconds + maxPoints - 1) maxPoints
  have hremainder := Nat.mod_lt (seconds + maxPoints - 1) hmax
  have hwide : seconds ≤ maxPoints * bucketSeconds seconds maxPoints :=
    calc seconds ≤ maxPoints * ((seconds + maxPoints - 1) / maxPoints) := by omega
      _ ≤ maxPoints * bucketSeconds seconds maxPoints := Nat.mul_le_mul_left maxPoints hceil
  have hscaled := Nat.mul_le_mul_right second hwide
  rw [Nat.mul_assoc] at hscaled
  exact_mod_cast hscaled

theorem bin_mem (from' : Int) (hmax : 1 ≤ maxPoints) {created : Int} (hstart : start ≤ created)
    (hend : created ≤ start + (seconds * second : Nat)) :
    (start - from') / (bucketSeconds seconds maxPoints * second : Nat) ≤
        (created - from') / (bucketSeconds seconds maxPoints * second : Nat) ∧
      (created - from') / (bucketSeconds seconds maxPoints * second : Nat) ≤
        (start - from') / (bucketSeconds seconds maxPoints * second : Nat) + maxPoints := by
  have hpos := bucketSeconds_pos seconds maxPoints
  have hwide := @window_le seconds maxPoints hmax
  generalize ((bucketSeconds seconds maxPoints * second : Nat) : Int) = width at hpos hwide
  refine ⟨Int.ediv_le_ediv hpos (by omega), ?_⟩
  rw [← Int.add_mul_ediv_right _ _ (ne_of_gt hpos)]
  exact Int.ediv_le_ediv hpos (by omega)

end Windows

/-! ## When runs are conserved -/

section Conservation

variable {origin start : Int} {runs : List Point} {seconds maxPoints : Nat}

theorem countP_eq_sum (p : Point → Bool) (rows : List Point) :
    rows.countP p = (rows.map fun row => (p row).toNat).sum := by
  induction rows with
  | nil => rfl
  | cons row rows ih =>
    rw [List.countP_cons, ih, List.map_cons, List.sum_cons, Nat.add_comm]
    cases p row <;> rfl

theorem total_attached {count : Counts → Nat} (h : Additive count) :
    total (attachSeriesBucketCounts runs start seconds maxPoints) count =
      (runs.map fun run => count (incrementBucketCounts {} run)).sum :=
  (series_attached runs start seconds maxPoints).total_eq h.serviceCounts

theorem total_metricSeries (hfinished : ∀ run ∈ runs, isFinished run.status = true)
    {count : Counts → Nat} (h : Additive count) :
    total (metricSeries origin runs seconds maxPoints) count =
      (runs.map fun run => count (bucketAgg [run])).sum :=
  (series_metricSeries origin runs seconds maxPoints hfinished).total_eq h.bucketAgg

theorem length_attached (hmax : 1 ≤ maxPoints)
    (hwindow : ∀ run ∈ runs, start ≤ run.createdAt ∧
      run.createdAt ≤ start + (seconds * second : Nat)) :
    (attachSeriesBucketCounts runs start seconds maxPoints).length ≤ maxPoints ↔
      ∃ k : Nat, k ≤ maxPoints ∧ ∀ run ∈ runs,
        bucketKey start (bucketSeconds seconds maxPoints) run ≠ k := by
  have hcovers := (series_attached runs start seconds maxPoints).covers
  rw [Nat.max_eq_right hmax] at hcovers
  have hkeys : ∀ run ∈ runs, 0 ≤ bucketKey start (bucketSeconds seconds maxPoints) run ∧
      bucketKey start (bucketSeconds seconds maxPoints) run ≤ 0 + maxPoints := by
    intro run hrun
    obtain ⟨hstart, hend⟩ := hwindow run hrun
    have hbin := bin_mem start hmax hstart hend
    rw [Int.sub_self, Int.zero_ediv] at hbin
    rw [bucketKey, Int.max_eq_right (by omega)]
    exact hbin
  have hlength := hcovers.length_le_iff hkeys
  rw [List.length_map] at hlength
  rw [hlength]
  simp only [Int.zero_add]

theorem length_metricSeries (hmax : 1 ≤ maxPoints)
    (hfinished : ∀ run ∈ runs, isFinished run.status = true)
    (hwindow : ∀ run ∈ runs, start ≤ run.createdAt ∧
      run.createdAt ≤ start + (seconds * second : Nat)) :
    (metricSeries origin runs seconds maxPoints).length ≤ maxPoints ↔
      ∃ k : Nat, k ≤ maxPoints ∧ ∀ run ∈ runs,
        dateBin origin (bucketSeconds seconds maxPoints) run ≠
          (start - origin) / (bucketSeconds seconds maxPoints * second : Nat) + k := by
  have hcovers := (series_metricSeries origin runs seconds maxPoints hfinished).covers
  have hlength := hcovers.length_le_iff fun run hrun =>
    bin_mem origin hmax (hwindow run hrun).1 (hwindow run hrun).2
  rwa [List.length_map] at hlength

theorem Regular.one (h : Regular origin start runs seconds maxPoints)
    (hfinished : ∀ run ∈ runs, isFinished run.status = true) {run : Point} (hrun : run ∈ runs) :
    incrementBucketCounts {} run = bucketAgg [run] ∧
      (bucketAgg [run]).outcomes = (countsHTTPOutcome run.status).toNat ∧
      (bucketAgg [run]).responses = (countsHTTPOutcome run.status).toNat := by
  have hunskipped := h.unskipped run hrun
  have hsame := increment_eq_aggregate (hfinished run hrun) hunskipped (h.uncounted run hrun)
  have hresponses := responses_increment run
  refine ⟨hsame, ?_, ?_⟩
  · rw [(outcomes_one run).2]
    simp [hunskipped]
  · rw [← hsame, hresponses]
    cases hcounts : countsHTTPOutcome run.status with
    | false => rfl
    | true =>
      rw [h.counted run hrun hcounts]
      rfl

theorem Regular.conserves (h : Regular origin start runs seconds maxPoints)
    (hfinished : ∀ run ∈ runs, isFinished run.status = true)
    (hwindow : ∀ run ∈ runs, start ≤ run.createdAt ∧
      run.createdAt ≤ start + (seconds * second : Nat)) (hmax : 1 ≤ maxPoints) :
    Conserves origin start runs seconds maxPoints := by
  have hone : ∀ run ∈ runs, _ := fun run hrun => h.one hfinished hrun
  have hagree : ∀ {count : Counts → Nat}, Additive count →
      total (attachSeriesBucketCounts runs start seconds maxPoints) count =
        total (metricSeries origin runs seconds maxPoints) count := by
    intro count hcount
    rw [total_attached hcount, total_metricSeries hfinished hcount]
    exact congrArg List.sum (List.map_congr_left fun run hrun => by rw [(hone run hrun).1])
  have houtcomes : total (metricSeries origin runs seconds maxPoints) Counts.outcomes =
      runs.countP fun run => countsHTTPOutcome run.status := by
    rw [total_metricSeries hfinished additive_outcomes, countP_eq_sum]
    exact congrArg List.sum (List.map_congr_left fun run hrun => (hone run hrun).2.1)
  have hresponses : total (metricSeries origin runs seconds maxPoints) Counts.responses =
      runs.countP fun run => countsHTTPOutcome run.status := by
    rw [total_metricSeries hfinished additive_responses, countP_eq_sum]
    exact congrArg List.sum (List.map_congr_left fun run hrun => (hone run hrun).2.2)
  refine ⟨⟨(length_attached hmax hwindow).mpr h.spareKey, ?_, ?_, ?_⟩,
    ⟨(length_metricSeries hmax hfinished hwindow).mpr h.spareBin, ?_, houtcomes, hresponses⟩, ?_⟩
  · exact (series_attached runs start seconds maxPoints).increasing
  · rw [hagree additive_outcomes, houtcomes]
  · rw [hagree additive_responses, hresponses]
  · exact (series_metricSeries origin runs seconds maxPoints hfinished).increasing
  · exact fun count hcount => hagree (additive_of_mem hcount)

theorem Conserves.unskipped (h : Conserves origin start runs seconds maxPoints) :
    ∀ run ∈ runs, run.status ≠ .skipped := by
  have hsum := h.attached.outcomes
  rw [total_attached additive_outcomes, countP_eq_sum] at hsum
  have hle : ∀ run ∈ runs, (incrementBucketCounts {} run).outcomes ≤
      (countsHTTPOutcome run.status).toNat := by
    intro run _
    rw [(outcomes_one run).1, (outcomes_one run).2]
    cases countsHTTPOutcome run.status <;> simp [Bool.toNat_le]
  intro run hrun hskipped
  have hone := (sum_map_eq_iff hle).mp hsum run hrun
  rw [(outcomes_one run).1, (outcomes_one run).2, hskipped] at hone
  cases hone

theorem Conserves.counted (h : Conserves origin start runs seconds maxPoints) :
    ∀ run ∈ runs, countsHTTPOutcome run.status = true → unclassified run = false := by
  have hsum := h.attached.responses
  rw [total_attached additive_responses, countP_eq_sum] at hsum
  have hle : ∀ run ∈ runs, (incrementBucketCounts {} run).responses ≤
      (countsHTTPOutcome run.status).toNat := by
    intro run _
    rw [responses_increment]
    cases countsHTTPOutcome run.status <;> simp [Bool.toNat_le]
  intro run hrun hcounts
  have hone := (sum_map_eq_iff hle).mp hsum run hrun
  rw [responses_increment, hcounts] at hone
  cases hunclassified : unclassified run with
  | false => rfl
  | true =>
    rw [hunclassified] at hone
    cases hone

theorem Conserves.uncounted (h : Conserves origin start runs seconds maxPoints)
    (hfinished : ∀ run ∈ runs, isFinished run.status = true) :
    ∀ run ∈ runs, countsHTTPOutcome run.status = false → classified run = false := by
  have hone : ∀ count ∈ countFields,
      (∀ run ∈ runs, count (incrementBucketCounts {} run) ≤ count (bucketAgg [run])) →
      ∀ run ∈ runs, count (incrementBucketCounts {} run) = count (bucketAgg [run]) := by
    intro count hcount hle
    have hsum := h.agree count hcount
    have hadd := additive_of_mem hcount
    rw [total_attached hadd, total_metricSeries hfinished hadd] at hsum
    exact (sum_map_eq_iff hle).mp hsum
  have hclass : ∀ a b : Bool, (a && b).toNat ≤ b.toNat := by decide
  intro run hrun hcounts
  have h1 := hone Counts.class1xx (by simp [countFields])
    (fun run _ => by rw [increment_empty, bucketAgg_one]; exact hclass _ _) run hrun
  have h2 := hone Counts.class2xx (by simp [countFields])
    (fun run _ => by rw [increment_empty, bucketAgg_one]; exact hclass _ _) run hrun
  have h3 := hone Counts.class3xx (by simp [countFields])
    (fun run _ => by rw [increment_empty, bucketAgg_one]; exact hclass _ _) run hrun
  have h4 := hone Counts.class4xx (by simp [countFields])
    (fun run _ => by rw [increment_empty, bucketAgg_one]; exact hclass _ _) run hrun
  have h5 := hone Counts.class5xx (by simp [countFields])
    (fun run _ => by rw [increment_empty, bucketAgg_one]; exact hclass _ _) run hrun
  simp only [increment_empty, bucketAgg_one, hcounts, Bool.false_and, Bool.toNat_false]
    at h1 h2 h3 h4 h5
  have hsum := classes_sum run
  rw [← h1, ← h2, ← h3, ← h4, ← h5] at hsum
  exact Bool.toNat_eq_zero.mp hsum.symm

/-- **Conservation.**  The series conserve the runs of their window and agree exactly if no run was
skipped as overlapping, no response status lies outside its class or inside one for a run that does
not count, and one of the buckets that the window can reach is empty. -/
theorem conserves_iff (hfinished : ∀ run ∈ runs, isFinished run.status = true)
    (hwindow : ∀ run ∈ runs, start ≤ run.createdAt ∧
      run.createdAt ≤ start + (seconds * second : Nat)) (hmax : 1 ≤ maxPoints) :
    Conserves origin start runs seconds maxPoints ↔
      Regular origin start runs seconds maxPoints := by
  refine ⟨fun h => ?_, fun h => h.conserves hfinished hwindow hmax⟩
  exact ⟨h.unskipped, h.counted, h.uncounted hfinished,
    (length_attached hmax hwindow).mp h.attached.bounded,
    (length_metricSeries hmax hfinished hwindow).mp h.projected.bounded⟩

def answered : Point := ⟨"a", .success, 0, some 120, some 200⟩

theorem conserves_answered : Conserves 0 0 [answered] 60 2 :=
  (conserves_iff (by decide) (by decide) (by decide)).mpr
    ⟨by decide, by decide, by decide, ⟨1, by decide⟩, ⟨1, by decide⟩⟩

/-- The service counts a run that was skipped as overlapping as one without response, the database
leaves it out. -/
theorem overlap_counted : ¬ ∀ (origin start : Int) (runs : List Point) (seconds maxPoints : Nat),
    (∀ run ∈ runs, isFinished run.status = true) →
    (∀ run ∈ runs, start ≤ run.createdAt ∧ run.createdAt ≤ start + (seconds * second : Nat)) →
    1 ≤ maxPoints → Conserves origin start runs seconds maxPoints := by
  intro hall
  have h := hall 0 0 [⟨"a", .skipped, 0, none, none⟩] 60 2 (by decide) (by decide) (by decide)
  exact h.unskipped _ List.mem_cons_self rfl

end Conservation

end Rhythm.Runs.MetricSeries
