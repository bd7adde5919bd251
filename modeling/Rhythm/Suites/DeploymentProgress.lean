import Mathlib.Data.List.Dedup
import Rhythm.Suites.Infrastructure
import Rhythm.Transition

/-!
# Rhythm.Suites.DeploymentProgress

The progress of a deployment validation.  `StartDeployment` sets the total from the distinct checks
of the snapshot, and each loop of `processDeployment` counts its own executions.  A worker holds the
count in memory and writes it over the run with every save.

`bounded_along` says when the saved count grows to the total with the last execution;
`balanced_of_analyzing` says that a validation that comes to its end needs this.
-/

namespace Rhythm.Suites.Progress

/-! ## The snapshot -/

/-- `Check`, with the identifiers that are counted besides. -/
structure SnapshotCheck extends Check where
  browserMonitorId : String
  queryId : String
  receiverId : String
  externalMonitorId : String
  externalTriggerId : String
  externalMonitorName : String
  externalTriggerName : String
  deriving DecidableEq

structure SnapshotStage where
  id : String
  name : String
  checks : List SnapshotCheck
  deriving DecidableEq

/-- `SuiteSnapshot`. -/
structure Snapshot where
  stages : List SnapshotStage
  deriving DecidableEq

def Snapshot.checksOfKind (snapshot : Snapshot) (kind : CheckKind) : List SnapshotCheck :=
  (snapshot.stages.flatMap SnapshotStage.checks).filter fun check => check.kind = kind

def Snapshot.suite (snapshot : Snapshot) : Suite where
  stages := snapshot.stages.map fun stage =>
    ⟨stage.id, stage.name, stage.checks.map SnapshotCheck.toCheck⟩

def SnapshotCheck.alertKey (check : SnapshotCheck) : String :=
  "|".intercalate [check.receiverId, check.externalMonitorId, check.externalTriggerId,
    check.externalMonitorName, check.externalTriggerName]

def SnapshotCheck.dynatraceKeys (check : SnapshotCheck) : List String :=
  (if check.serviceIds = [] then [""] else check.serviceIds).map fun serviceID =>
    check.applicationId ++ "|" ++ check.environmentBindingId ++ "|" ++ serviceID

def distinct {α : Type} [DecidableEq α] (keys : List α) : Nat := keys.dedup.length

/-- What `deploymentCheckCounts` returns. -/
structure CheckCounts where
  monitors : Nat
  browserMonitors : Nat
  queries : Nat
  alerts : Nat
  dynatrace : Nat
  deriving DecidableEq

/-- `deploymentCheckCounts`. -/
def deploymentCheckCounts (snapshot : Snapshot) : CheckCounts where
  monitors := distinct ((snapshot.checksOfKind .monitor).map fun check => check.monitorId)
  browserMonitors :=
    distinct ((snapshot.checksOfKind .browserMonitor).map SnapshotCheck.browserMonitorId)
  queries := distinct ((snapshot.checksOfKind .elfQuery).map SnapshotCheck.queryId)
  alerts := distinct ((snapshot.checksOfKind .openSearchAlert).map SnapshotCheck.alertKey)
  dynatrace :=
    distinct ((snapshot.checksOfKind .dynatraceInfrastructure).flatMap SnapshotCheck.dynatraceKeys)

/-- One check joins the browser comparisons: a browser monitor is compared once. -/
def mergeBrowserCheck (comparisons : List BrowserComparison) (check : SnapshotCheck) :
    List BrowserComparison :=
  if comparisons.any fun comparison => comparison.browserMonitorId = check.browserMonitorId then
    comparisons.map fun comparison =>
      if comparison.browserMonitorId = check.browserMonitorId then
        { comparison with required := comparison.required || check.required }
      else comparison
  else
    comparisons ++
      [{ browserMonitorId := check.browserMonitorId
         monitorName := check.name
         required := check.required
         baseline := emptyDistribution
         post := emptyDistribution
         comparison := ⟨.unset, 0, 0⟩ }]

/-- `deploymentBrowserComparisons`. -/
def deploymentBrowserComparisons (snapshot : Snapshot) : List BrowserComparison :=
  (snapshot.checksOfKind .browserMonitor).foldl mergeBrowserCheck []

/-! ## A deployment -/

/-- A deployment run, and what its services answer. -/
structure Deployment where
  snapshot : Snapshot
  config : DeploymentConfiguration
  services : DynatraceServices
  /-- Runs are queued, and a request to cancel goes to the queue. -/
  queueEnabled : Bool

/-- The `BrowserSampleCount` that `StartDeployment` configures. -/
def browserSampleCount : Nat := 5

namespace Deployment

variable (d : Deployment)

/-- `Progress.Total`. -/
def total : Nat :=
  let counts := deploymentCheckCounts d.snapshot
  counts.monitors * d.config.sampleCount + counts.browserMonitors * browserSampleCount +
    counts.queries + counts.alerts + counts.dynatrace * 2

/-- The comparisons of `deploymentDynatraceComparisons`. -/
def slots : List Slot := dynatraceSlots d.services d.snapshot.suite

def capturedComparisons : List DynatraceComparison :=
  (d.slots.map (Slot.comparison d.config)).mapIdx fun j =>
    captureBaseline (d.services.baselineQuery j)

/-- The samples of the monitors that are left at the start, by comparison. -/
def monitorSamples : List Nat :=
  List.replicate (deploymentMonitorComparisons d.snapshot.suite).length d.config.sampleCount

def browserSamples : List Nat :=
  List.replicate (deploymentBrowserComparisons d.snapshot).length browserSampleCount

def elfChecks : List SnapshotCheck := d.snapshot.checksOfKind .elfQuery

def alertChecks : List SnapshotCheck := d.snapshot.checksOfKind .openSearchAlert

end Deployment

/-! ## The worker -/

/-- Where `processDeployment` stands. -/
inductive Stage where
  | queued
  /-- The run is saved as `RUNNING`. -/
  | capturing
  /-- The baseline is saved. -/
  | captured
  /-- Workers take the samples that are left, by comparison. -/
  | sampling (left : List Nat)
  | browsing (left : List Nat)
  /-- `WAITING_FOR_STABILIZATION`. -/
  | waiting
  /-- The post-deployment query of a comparison is next. -/
  | comparing (next : Nat)
  | querying (next : Nat)
  /-- The result of a query is saved, and cancellation is looked at. -/
  | queried (next : Nat)
  | alerting (next : Nat)
  | alerted (next : Nat)
  | analyzing
  | completed
  deriving DecidableEq

/-- The count that the run was last saved with, and how many executions were unfinished then. -/
structure Saved where
  completed : Nat
  unfinished : Nat
  deriving DecidableEq

structure State where
  stage : Stage
  /-- `processDeployment` has returned. -/
  ended : Bool
  /-- The context is done. -/
  cancelled : Bool
  /-- `Progress.Completed` in memory. -/
  completed : Nat
  saved : Saved
  /-- The counts that calls of `CancelDeploymentRun` have read. -/
  requests : List Nat
  deriving DecidableEq

/-- One step of the worker or of a request.  A save whose statement fails does not commit. -/
inductive Action where
  | start (commits : Bool)
  /-- The context ends. -/
  | cancel
  /-- The baseline loops, with all monitors and browser monitors read or not. -/
  | capture (readable commits : Bool)
  | sample (index : Nat) (commits : Bool)
  /-- The wait for stabilization is over, or is cut short. -/
  | stabilize (noticed commits : Bool)
  | compare (commits : Bool)
  | check (commits : Bool)
  /-- The worker goes on to what comes next. -/
  | proceed (commits : Bool)
  | requestCancel
  | writeCancel (index : Nat) (commits : Bool)
  deriving DecidableEq

section Step

variable (d : Deployment)

def Stage.unfinished : Stage → Nat
  | queued | capturing =>
    2 * d.slots.length + d.monitorSamples.sum + d.browserSamples.sum + d.elfChecks.length +
      d.alertChecks.length
  | captured =>
    d.slots.length + d.monitorSamples.sum + d.browserSamples.sum + d.elfChecks.length +
      d.alertChecks.length
  | sampling left =>
    d.slots.length + left.sum + d.browserSamples.sum + d.elfChecks.length + d.alertChecks.length
  | browsing left => d.slots.length + left.sum + d.elfChecks.length + d.alertChecks.length
  | waiting => d.slots.length + d.elfChecks.length + d.alertChecks.length
  | comparing next => (d.slots.length - next) + d.elfChecks.length + d.alertChecks.length
  | querying next | queried next => (d.elfChecks.length - next) + d.alertChecks.length
  | alerting next | alerted next => d.alertChecks.length - next
  | analyzing | completed => 0

/-- `saveDeployment`. -/
def State.save (commits : Bool) (s : State) : State :=
  if commits then { s with saved := ⟨s.completed, s.stage.unfinished d⟩ } else s

def State.complete (stage : Stage) (commits : Bool) (s : State) : State :=
  State.save d commits { s with stage, completed := s.completed + 1 }

/-- `finishCancelled`, and the end of `failed`. -/
def State.finish (commits : Bool) (s : State) : State :=
  State.save d commits { s with ended := true }

def afterBrowsing : Stage := if d.slots = [] then .querying 0 else .waiting

def afterSampling : Stage :=
  if d.browserSamples = [] then afterBrowsing d else .browsing d.browserSamples

def takeLeft (left : List Nat) (index : Nat) : Option (List Nat) :=
  match left[index]? with
  | some (n + 1) => some (left.set index n)
  | _ => none

/-- The worker looks at its context: it finishes, or enters a stage and saves. -/
def State.unlessCancelled (stage : Stage) (commits : Bool) (s : State) : State :=
  if s.cancelled then s.finish d commits else State.save d commits { s with stage }

def State.proceed (commits : Bool) (s : State) : Option State :=
  match s.stage with
  | .captured => some (s.unlessCancelled d (.sampling d.monitorSamples) commits)
  | .sampling left =>
    if s.cancelled ∨ left.sum = 0 then some (s.unlessCancelled d (afterSampling d) commits)
    else none
  | .browsing left =>
    if s.cancelled ∨ left.sum = 0 then some (s.unlessCancelled d (afterBrowsing d) commits)
    else none
  | .comparing next =>
    if d.slots.length ≤ next then some (State.save d commits { s with stage := .querying 0 })
    else none
  | .queried next =>
    some (if s.cancelled then s.finish d commits else { s with stage := .querying next })
  | .querying next =>
    if d.elfChecks.length ≤ next then some (State.save d commits { s with stage := .alerting 0 })
    else none
  | .alerted next =>
    some (if s.cancelled then s.finish d commits else { s with stage := .alerting next })
  | .alerting next =>
    if d.alertChecks.length ≤ next then some (State.save d commits { s with stage := .analyzing })
    else none
  | .analyzing =>
    some (State.save d commits
      { s with stage := .completed, ended := true, completed := d.total })
  | _ => none

/-- A step of `processDeployment`. -/
def State.work (s : State) : Action → Option State
  | .start commits =>
    if s.stage = .queued then
      some (if commits then State.save d true { s with stage := .capturing }
        else { s with ended := true })
    else none
  | .capture readable commits =>
    if s.stage = .capturing then
      some (if readable then
          State.save d commits
            { s with stage := .captured, completed := s.completed + d.slots.length }
        else s.finish d commits)
    else none
  | .sample index commits =>
    match s.stage with
    | .sampling left => (takeLeft left index).map fun left => s.complete d (.sampling left) commits
    | .browsing left => (takeLeft left index).map fun left => s.complete d (.browsing left) commits
    | _ => none
  | .stabilize noticed commits =>
    if s.stage = .waiting ∧ (noticed = true → s.cancelled = true) then
      some (if noticed then s.finish d commits
        else State.save d commits { s with stage := .comparing 0 })
    else none
  | .compare commits =>
    match s.stage with
    | .comparing next =>
      (d.capturedComparisons[next]?).map fun comparison =>
        s.complete d (.comparing (next + 1))
          (commits && !skipsQueries comparison.failureCategory)
    | _ => none
  | .check commits =>
    match s.stage with
    | .querying next =>
      if next < d.elfChecks.length then some (s.complete d (.queried (next + 1)) commits) else none
    | .alerting next =>
      if next < d.alertChecks.length then some (s.complete d (.alerted (next + 1)) commits)
      else none
    | _ => none
  | .proceed commits => s.proceed d commits
  | _ => none

/-- One step of the worker, or of a call of `CancelDeploymentRun`. -/
def step (s : State) : Action → Option State
  | .cancel => some { s with cancelled := true }
  | .requestCancel =>
    if d.queueEnabled ∨ s.ended then none
    else some { s with requests := s.requests ++ [s.saved.completed] }
  | .writeCancel index commits =>
    (s.requests[index]?).map fun completed =>
      { s with
        requests := s.requests.eraseIdx index
        cancelled := true
        saved := if commits then ⟨completed, s.stage.unfinished d⟩ else s.saved }
  | a => if s.ended then none else s.work d a

def initial : State where
  stage := .queued
  ended := false
  cancelled := false
  completed := 0
  saved := ⟨0, Stage.unfinished d .queued⟩
  requests := []

end Step

/-! ## The law and its conditions -/

section Law

variable (d : Deployment)

/-- **The law of a save.**  The saved count is not above the total, and is the total exactly when
the last execution is finished. -/
def InLine (saved : Saved) : Prop :=
  saved.completed ≤ d.total ∧ (saved.completed = d.total ↔ saved.unfinished = 0)

/-- **The law of a step.**  The saved count does not fall, and is in line. -/
def Advances (s : State) (_ : Action) (s' : State) : Prop :=
  s.saved.completed ≤ s'.saved.completed ∧ InLine d s'.saved

/-- **The condition on the snapshot.**  Checks of queries and alerts and, twice, comparisons of
services are as many as the distinct ones that were counted. -/
def Balanced : Prop :=
  d.elfChecks.length + d.alertChecks.length + 2 * d.slots.length =
    (deploymentCheckCounts d.snapshot).queries + (deploymentCheckCounts d.snapshot).alerts +
      2 * (deploymentCheckCounts d.snapshot).dynatrace

/-- **The condition on a step.**  A request to cancel writes the count that the run is saved with,
and not the count of a run whose last execution was finished since. -/
def WritesCurrent (s : State) : Action → State → Prop
  | .writeCancel index true, _ =>
    s.requests[index]? = some s.saved.completed ∧
      (s.stage.unfinished d = 0 → s.saved.unfinished = 0)
  | _, _ => True

instance (saved : Saved) : Decidable (InLine d saved) := inferInstanceAs (Decidable (_ ∧ _))

instance (s : State) (a : Action) (s' : State) : Decidable (Advances d s a s') :=
  inferInstanceAs (Decidable (_ ∧ _))

instance : Decidable (Balanced d) := inferInstanceAs (Decidable (_ = _))

instance (s : State) (a : Action) (s' : State) : Decidable (WritesCurrent d s a s') := by
  unfold WritesCurrent
  split <;> infer_instance

end Law

/-! ## What is counted -/

section Counts

theorem length_eq_distinct {α : Type} [DecidableEq α] {keys all : List α} (hnodup : keys.Nodup)
    (hmem : ∀ key, key ∈ keys ↔ key ∈ all) : keys.length = distinct all := by
  rw [distinct]
  refine List.Perm.length_eq ((List.perm_ext_iff_of_nodup hnodup all.nodup_dedup).mpr ?_)
  intro key
  rw [hmem, List.mem_dedup]

theorem length_foldl_merge {α β κ : Type} [DecidableEq κ] {merge : List β → α → List β}
    {keyOf : β → κ} {key : α → κ}
    (hmerge : ∀ entries item, (merge entries item).map keyOf =
      if key item ∈ entries.map keyOf then entries.map keyOf
      else entries.map keyOf ++ [key item]) (items : List α) :
    (items.foldl merge []).length = distinct (items.map key) := by
  have hfold : ∀ (items : List α) (entries : List β), (entries.map keyOf).Nodup →
      ((items.foldl merge entries).map keyOf).Nodup ∧
        ∀ k, k ∈ (items.foldl merge entries).map keyOf ↔
          k ∈ entries.map keyOf ∨ k ∈ items.map key := by
    intro items
    induction items with
    | nil => exact fun entries hnodup => ⟨hnodup, fun k => by simp⟩
    | cons item items ih =>
      intro entries hnodup
      rw [List.foldl_cons]
      have hnext : ((merge entries item).map keyOf).Nodup ∧
          ∀ k, k ∈ (merge entries item).map keyOf ↔ k ∈ entries.map keyOf ∨ k = key item := by
        rw [hmerge]
        split
        · rename_i hmem
          exact ⟨hnodup, fun k => ⟨.inl, fun h => h.elim id fun hk => hk ▸ hmem⟩⟩
        · rename_i hmem
          exact ⟨List.nodup_append.mpr ⟨hnodup, List.nodup_singleton _, by simpa using hmem⟩,
            fun k => by rw [List.mem_append, List.mem_singleton]⟩
      obtain ⟨hnodup', hmem'⟩ := ih (merge entries item) hnext.1
      refine ⟨hnodup', fun k => ?_⟩
      rw [hmem', hnext.2, List.map_cons, List.mem_cons, or_assoc]
  obtain ⟨hnodup, hmem⟩ := hfold items [] List.nodup_nil
  rw [← List.length_map (f := keyOf)]
  exact length_eq_distinct hnodup fun k => by rw [hmem]; simp

theorem monitorIds_mergeMonitorCheck (comparisons : List MonitorComparison) (check : Check) :
    (mergeMonitorCheck comparisons check).map MonitorComparison.monitorId =
      if check.monitorId ∈ comparisons.map MonitorComparison.monitorId then
        comparisons.map MonitorComparison.monitorId
      else comparisons.map MonitorComparison.monitorId ++ [check.monitorId] := by
  rw [mergeMonitorCheck]
  simp only [List.any_eq_true, decide_eq_true_eq, List.mem_map]
  split
  · rw [List.map_map]
    refine List.map_congr_left fun comparison _ => ?_
    rw [Function.comp]
    split <;> rfl
  · rw [List.map_append]
    rfl

theorem browserIds_mergeBrowserCheck (comparisons : List BrowserComparison)
    (check : SnapshotCheck) :
    (mergeBrowserCheck comparisons check).map BrowserComparison.browserMonitorId =
      if check.browserMonitorId ∈ comparisons.map BrowserComparison.browserMonitorId then
        comparisons.map BrowserComparison.browserMonitorId
      else comparisons.map BrowserComparison.browserMonitorId ++ [check.browserMonitorId] := by
  rw [mergeBrowserCheck]
  simp only [List.any_eq_true, decide_eq_true_eq, List.mem_map]
  split
  · rw [List.map_map]
    refine List.map_congr_left fun comparison _ => ?_
    rw [Function.comp]
    split <;> rfl
  · rw [List.map_append]
    rfl

theorem checksOfKind_suite (snapshot : Snapshot) (kind : CheckKind) :
    snapshot.suite.checksOfKind kind = (snapshot.checksOfKind kind).map SnapshotCheck.toCheck := by
  have hchecks : snapshot.suite.stages.flatMap Stage.checks =
      (snapshot.stages.flatMap SnapshotStage.checks).map SnapshotCheck.toCheck := by
    rw [Snapshot.suite, List.flatMap_map, List.map_flatMap]
  rw [Suite.checksOfKind, hchecks, List.filter_map]
  rfl

theorem length_monitorComparisons (snapshot : Snapshot) :
    (deploymentMonitorComparisons snapshot.suite).length =
      (deploymentCheckCounts snapshot).monitors := by
  rw [deploymentMonitorComparisons, length_foldl_merge monitorIds_mergeMonitorCheck,
    checksOfKind_suite, List.map_map]
  rfl

theorem length_browserComparisons (snapshot : Snapshot) :
    (deploymentBrowserComparisons snapshot).length =
      (deploymentCheckCounts snapshot).browserMonitors :=
  length_foldl_merge browserIds_mergeBrowserCheck _

theorem total_eq_iff (d : Deployment) :
    d.total = Stage.unfinished d .queued ↔ Balanced d := by
  have hmonitors : d.monitorSamples.sum =
      (deploymentCheckCounts d.snapshot).monitors * d.config.sampleCount := by
    rw [Deployment.monitorSamples, List.sum_replicate_nat, length_monitorComparisons]
  have hbrowsers : d.browserSamples.sum =
      (deploymentCheckCounts d.snapshot).browserMonitors * browserSampleCount := by
    rw [Deployment.browserSamples, List.sum_replicate_nat, length_browserComparisons]
  rw [Deployment.total, Stage.unfinished, Balanced, hmonitors, hbrowsers]
  omega

end Counts

section Steps

variable {d : Deployment} {s s' : State} {a : Action}

theorem sum_set {left : List Nat} {index n : Nat} (h : left[index]? = some (n + 1)) :
    (left.set index n).sum + 1 = left.sum := by
  induction left generalizing index with
  | nil => simp at h
  | cons m left ih =>
    cases index with
    | zero =>
      rw [List.getElem?_cons_zero, Option.some.injEq] at h
      rw [List.set_cons_zero, List.sum_cons, List.sum_cons]
      omega
    | succ index =>
      rw [List.getElem?_cons_succ] at h
      have hrest := ih h
      rw [List.set_cons_succ, List.sum_cons, List.sum_cons]
      omega

theorem sum_takeLeft {left left' : List Nat} {index : Nat} (h : takeLeft left index = some left') :
    left'.sum + 1 = left.sum := by
  unfold takeLeft at h
  split at h
  · rename_i n hindex
    cases h
    exact sum_set hindex
  · contradiction

@[simp] theorem stage_save (commits : Bool) (s : State) : (s.save d commits).stage = s.stage := by
  cases commits <;> rfl

@[simp] theorem completed_save (commits : Bool) (s : State) :
    (s.save d commits).completed = s.completed := by
  cases commits <;> rfl

def SavesCount (d : Deployment) (s s' : State) : Prop :=
  s'.saved = s.saved ∨ s'.saved = ⟨s'.completed, s'.stage.unfinished d⟩

def Counts (d : Deployment) (s s' : State) : Prop :=
  s'.completed + s'.stage.unfinished d = s.completed + s.stage.unfinished d ∧
    s.completed ≤ s'.completed

theorem savesCount_save (commits : Bool) (t : State) (h : t.saved = s.saved) :
    SavesCount d s (t.save d commits) := by
  cases commits with
  | false => exact .inl h
  | true => exact .inr rfl

theorem counts_save (commits : Bool) (t : State) (h : Counts d s t) :
    Counts d s (t.save d commits) := by
  rw [Counts, stage_save, completed_save]
  exact h

theorem counts_finish (commits : Bool) (s : State) : Counts d s (s.finish d commits) :=
  counts_save commits _ ⟨rfl, Nat.le_refl _⟩

theorem counts_complete (commits : Bool) {stage : Stage}
    (h : stage.unfinished d + 1 = s.stage.unfinished d) :
    Counts d s (s.complete d stage commits) := by
  refine counts_save commits _ ⟨?_, Nat.le_succ _⟩
  show s.completed + 1 + stage.unfinished d = s.completed + s.stage.unfinished d
  omega

theorem counts_unlessCancelled (commits : Bool) {stage : Stage}
    (h : s.cancelled = true ∨ stage.unfinished d = s.stage.unfinished d) :
    Counts d s (s.unlessCancelled d stage commits) := by
  rw [State.unlessCancelled]
  split
  · exact counts_finish commits s
  · rename_i hlive
    refine counts_save commits _ ⟨?_, Nat.le_refl _⟩
    show s.completed + stage.unfinished d = s.completed + s.stage.unfinished d
    rw [h.resolve_left hlive]

theorem savesCount_unlessCancelled (commits : Bool) (stage : Stage) :
    SavesCount d s (s.unlessCancelled d stage commits) := by
  rw [State.unlessCancelled]
  split <;> exact savesCount_save commits _ rfl

theorem unfinished_afterBrowsing :
    (afterBrowsing d).unfinished d =
      d.slots.length + d.elfChecks.length + d.alertChecks.length := by
  rw [afterBrowsing]
  split
  · rename_i hnone
    rw [hnone, List.length_nil, Nat.zero_add]
    rfl
  · rfl

theorem unfinished_afterSampling : (afterSampling d).unfinished d =
    d.slots.length + d.browserSamples.sum + d.elfChecks.length + d.alertChecks.length := by
  rw [afterSampling]
  split
  · rename_i hnone
    rw [unfinished_afterBrowsing, hnone]
    rfl
  · rfl

/-- A save that finishes no execution. -/
theorem counted_save {P : Prop} (commits : Bool) {t : State} {stage : Stage}
    (hsaved : t.saved = s.saved) (hcompleted : t.completed = s.completed) (hstage : s.stage = stage)
    (h : t.stage.unfinished d = stage.unfinished d) :
    SavesCount d s (t.save d commits) ∧ (Counts d s (t.save d commits) ∨ P) := by
  refine ⟨savesCount_save _ _ hsaved, .inl (counts_save _ _ ⟨?_, hcompleted.ge⟩)⟩
  rw [hcompleted, hstage, h]

theorem counted_complete {P : Prop} (commits : Bool) {stage before : Stage}
    (hstage : s.stage = before) (h : stage.unfinished d + 1 = before.unfinished d) :
    SavesCount d s (s.complete d stage commits) ∧
      (Counts d s (s.complete d stage commits) ∨ P) :=
  ⟨savesCount_save _ _ rfl, .inl (counts_complete _ (hstage ▸ h))⟩

/-- **Going on.**  No execution is finished; at the end the count is set to the total. -/
theorem proceed_cases {commits : Bool} (h : s.proceed d commits = some s') :
    SavesCount d s s' ∧
      (Counts d s s' ∨ s.stage = .analyzing ∧ s'.stage = .completed ∧ s'.completed = d.total) := by
  unfold State.proceed at h
  split at h
  · rename_i hstage
    cases h
    exact ⟨savesCount_unlessCancelled ..,
      .inl (counts_unlessCancelled _ (.inr (by rw [hstage]; rfl)))⟩
  · rename_i left hstage
    rw [guarded_eq_some_iff] at h
    obtain ⟨hover, rfl⟩ := h
    refine ⟨savesCount_unlessCancelled .., .inl (counts_unlessCancelled _ (hover.imp_right ?_))⟩
    intro hsum
    rw [hstage, unfinished_afterSampling, Stage.unfinished, hsum]
    omega
  · rename_i left hstage
    rw [guarded_eq_some_iff] at h
    obtain ⟨hover, rfl⟩ := h
    refine ⟨savesCount_unlessCancelled .., .inl (counts_unlessCancelled _ (hover.imp_right ?_))⟩
    intro hsum
    rw [hstage, unfinished_afterBrowsing, Stage.unfinished, hsum]
    omega
  · rename_i next hstage
    rw [guarded_eq_some_iff] at h
    obtain ⟨hover, rfl⟩ := h
    refine counted_save _ rfl rfl hstage ?_
    simp only [Stage.unfinished]
    omega
  · rename_i next hstage
    cases h
    split
    · exact ⟨savesCount_save _ _ rfl, .inl (counts_finish commits s)⟩
    · exact ⟨.inl rfl, .inl ⟨by rw [hstage]; rfl, Nat.le_refl _⟩⟩
  · rename_i next hstage
    rw [guarded_eq_some_iff] at h
    obtain ⟨hover, rfl⟩ := h
    refine counted_save _ rfl rfl hstage ?_
    simp only [Stage.unfinished]
    omega
  · rename_i next hstage
    cases h
    split
    · exact ⟨savesCount_save _ _ rfl, .inl (counts_finish commits s)⟩
    · exact ⟨.inl rfl, .inl ⟨by rw [hstage]; rfl, Nat.le_refl _⟩⟩
  · rename_i next hstage
    rw [guarded_eq_some_iff] at h
    obtain ⟨hover, rfl⟩ := h
    refine counted_save _ rfl rfl hstage ?_
    simp only [Stage.unfinished]
    omega
  · rename_i hstage
    cases h
    refine ⟨savesCount_save _ _ rfl, .inr ⟨hstage, ?_, ?_⟩⟩
    · rw [stage_save]
    · rw [completed_save]
  · contradiction

theorem length_capturedComparisons (d : Deployment) :
    d.capturedComparisons.length = d.slots.length := by
  rw [Deployment.capturedComparisons, List.length_mapIdx, List.length_map]

/-- **A step of the worker.** -/
theorem work_cases (h : s.work d a = some s') :
    SavesCount d s s' ∧
      (Counts d s s' ∨ s.stage = .analyzing ∧ s'.stage = .completed ∧ s'.completed = d.total) := by
  cases a with
  | start commits =>
    rw [State.work, guarded_eq_some_iff] at h
    obtain ⟨hstage, rfl⟩ := h
    split
    · exact counted_save _ rfl rfl hstage rfl
    · exact ⟨.inl rfl, .inl ⟨rfl, Nat.le_refl _⟩⟩
  | capture readable commits =>
    rw [State.work, guarded_eq_some_iff] at h
    obtain ⟨hstage, rfl⟩ := h
    split
    · refine ⟨savesCount_save _ _ rfl, .inl (counts_save _ _ ⟨?_, Nat.le_add_right _ _⟩)⟩
      rw [hstage]
      simp only [Stage.unfinished]
      omega
    · exact ⟨savesCount_save _ _ rfl, .inl (counts_finish commits s)⟩
  | sample index commits =>
    rw [State.work] at h
    split at h
    · rename_i left hstage
      rw [Option.map_eq_some_iff] at h
      obtain ⟨left', hleft, rfl⟩ := h
      have hsum := sum_takeLeft hleft
      refine counted_complete _ hstage ?_
      simp only [Stage.unfinished]
      omega
    · rename_i left hstage
      rw [Option.map_eq_some_iff] at h
      obtain ⟨left', hleft, rfl⟩ := h
      have hsum := sum_takeLeft hleft
      refine counted_complete _ hstage ?_
      simp only [Stage.unfinished]
      omega
    · contradiction
  | stabilize noticed commits =>
    rw [State.work, guarded_eq_some_iff] at h
    obtain ⟨⟨hstage, -⟩, rfl⟩ := h
    split
    · exact ⟨savesCount_save _ _ rfl, .inl (counts_finish commits s)⟩
    · exact counted_save _ rfl rfl hstage rfl
  | compare commits =>
    rw [State.work] at h
    split at h
    · rename_i next hstage
      rw [Option.map_eq_some_iff] at h
      obtain ⟨comparison, hcomparison, rfl⟩ := h
      obtain ⟨hnext, -⟩ := List.getElem?_eq_some_iff.mp hcomparison
      rw [length_capturedComparisons] at hnext
      refine counted_complete _ hstage ?_
      simp only [Stage.unfinished]
      omega
    · contradiction
  | check commits =>
    rw [State.work] at h
    split at h
    · rename_i next hstage
      rw [guarded_eq_some_iff] at h
      obtain ⟨hnext, rfl⟩ := h
      refine counted_complete _ hstage ?_
      simp only [Stage.unfinished]
      omega
    · rename_i next hstage
      rw [guarded_eq_some_iff] at h
      obtain ⟨hnext, rfl⟩ := h
      refine counted_complete _ hstage ?_
      simp only [Stage.unfinished]
      omega
    · contradiction
  | proceed commits => exact proceed_cases h
  | cancel | requestCancel | writeCancel index commits => contradiction

theorem step_cases (h : step d s a = some s') :
    (s.ended = false ∧ s.work d a = some s') ∨
    (s'.stage = s.stage ∧ s'.completed = s.completed ∧
      (s'.saved = s.saved ∨ ∃ index completed, a = .writeCancel index true ∧
        s.requests[index]? = some completed ∧
        s'.saved = ⟨completed, s.stage.unfinished d⟩)) := by
  unfold step at h
  split at h
  · cases h
    exact .inr ⟨rfl, rfl, .inl rfl⟩
  · rw [refused_eq_some_iff] at h
    obtain ⟨-, rfl⟩ := h
    exact .inr ⟨rfl, rfl, .inl rfl⟩
  · rename_i index commits
    rw [Option.map_eq_some_iff] at h
    obtain ⟨completed, hrequest, rfl⟩ := h
    refine .inr ⟨rfl, rfl, ?_⟩
    cases commits with
    | false => exact .inl rfl
    | true => exact .inr ⟨index, completed, rfl, hrequest, rfl⟩
  · rw [Option.ite_none_left_eq_some] at h
    exact .inl ⟨Bool.eq_false_iff.mpr h.1, h.2⟩

end Steps

section Theorem

variable {d : Deployment} {s s' : State} {a : Action} {as : List Action}

/-- The count in memory is what was finished, and the saved one is not ahead of it. -/
structure Counted (d : Deployment) (s : State) : Prop where
  count : s.completed + s.stage.unfinished d = d.total
  held : s.saved.completed ≤ s.completed
  inLine : InLine d s.saved

theorem counted_initial (h : Balanced d) : Counted d (initial d) where
  count := by
    rw [(total_eq_iff d).mpr h]
    exact Nat.zero_add _
  held := Nat.le_refl _
  inLine := by
    refine ⟨Nat.zero_le _, ?_⟩
    rw [(total_eq_iff d).mpr h]
    exact eq_comm

theorem Counted.step (h : Counted d s) (hstep : step d s a = some s')
    (hcurrent : WritesCurrent d s a s') : Counted d s' ∧ Advances d s a s' := by
  have hcount := h.count
  have hheld := h.held
  obtain ⟨hbelow, htotal⟩ := h.inLine
  obtain ⟨-, hwork⟩ | ⟨hstage, hcompleted, hsaved⟩ := step_cases hstep
  · obtain ⟨hsaves, hcounts⟩ := work_cases hwork
    have hcount' : s'.completed + s'.stage.unfinished d = d.total := by
      obtain ⟨hsum, -⟩ | ⟨-, hstage, hcompleted⟩ := hcounts
      · exact hsum.trans hcount
      · rw [hstage, hcompleted]
        rfl
    have hgrows : s.completed ≤ s'.completed := by
      obtain ⟨-, hle⟩ | ⟨-, -, hcompleted⟩ := hcounts
      · exact hle
      · omega
    obtain hsame | hwritten := hsaves
    · rw [Advances, hsame]
      refine ⟨⟨hcount', ?_, ?_⟩, Nat.le_refl _, h.inLine⟩
      · rw [hsame]
        exact hheld.trans hgrows
      · rw [hsame]
        exact h.inLine
    · have hline : InLine d s'.saved := by
        rw [hwritten, InLine]
        dsimp only
        omega
      refine ⟨⟨hcount', ?_, hline⟩, ?_, hline⟩
      · rw [hwritten]
      · rw [hwritten]
        exact hheld.trans hgrows
  · obtain hsame | ⟨index, completed, rfl, hrequest, hwritten⟩ := hsaved
    · rw [Advances, hsame]
      refine ⟨⟨by rw [hstage, hcompleted]; exact hcount, ?_, ?_⟩, Nat.le_refl _, h.inLine⟩
      · rw [hsame, hcompleted]
        exact hheld
      · rw [hsame]
        exact h.inLine
    · obtain ⟨hread, hfinished⟩ := hcurrent
      rw [hrequest, Option.some.injEq] at hread
      have hline : InLine d s'.saved := by
        rw [hwritten, hread, InLine]
        dsimp only
        omega
      refine ⟨⟨by rw [hstage, hcompleted]; exact hcount, ?_, hline⟩, ?_, hline⟩
      · rw [hwritten, hread, hcompleted]
        exact hheld
      · rw [hwritten, hread]

/-- **Progress.**  For every snapshot, every answer of the services and every order of steps: when
the snapshot is balanced and requests to cancel write current counts, the run is created in line,
and every save advances it and leaves it in line. -/
theorem bounded_along (d : Deployment) (as : List Action) (hbalanced : Balanced d)
    (hcurrent : Along (step d) (WritesCurrent d) (initial d) as) :
    InLine d (initial d).saved ∧ Along (step d) (Advances d) (initial d) as :=
  ⟨(counted_initial hbalanced).inLine,
    Along.of_guard (fun _ _ _ hcounted hstep => hcounted.step hstep) (counted_initial hbalanced)
      hcurrent⟩

theorem work_completed (h : s.stage = .completed) : s.work d a = none := by
  cases a <;> simp [State.work, State.proceed, h]

theorem counts_of_reachable (h : Reachable (step d) (initial d) s) :
    s.stage = .completed ∨
      s.completed + s.stage.unfinished d = Stage.unfinished d .queued := by
  refine h.invariant (I := fun s => s.stage = .completed ∨
    s.completed + s.stage.unfinished d = Stage.unfinished d .queued) (fun s a s' hs hstep => ?_)
    (.inr (Nat.zero_add _))
  obtain ⟨-, hwork⟩ | ⟨hstage, hcompleted, -⟩ := step_cases hstep
  · obtain hover | hcount := hs
    · rw [work_completed hover] at hwork
      contradiction
    · obtain ⟨-, ⟨hsum, -⟩ | ⟨-, hstage, -⟩⟩ := work_cases hwork
      · exact .inr (hsum.trans hcount)
      · exact .inl hstage
  · rw [hstage, hcompleted]
    exact hs

/-- **The snapshot must be balanced.**  When the save with which the analysis begins is in line, the
executions were those that the total counts. -/
theorem balanced_of_analyzing (h : Reachable (step d) (initial d) s) (hstage : s.stage = .analyzing)
    (hsaved : s.saved = ⟨s.completed, s.stage.unfinished d⟩) (hline : InLine d s.saved) :
    Balanced d := by
  have hcount := (counts_of_reachable h).resolve_left (by rw [hstage]; nofun)
  rw [hstage] at hcount hsaved
  rw [hsaved] at hline
  have hreached : s.completed = d.total := hline.2.mpr rfl
  rw [← total_eq_iff, ← hreached, ← hcount]
  rfl

end Theorem

/-! ## Two checks of one query -/

def queryCheck (id queryId : String) : SnapshotCheck where
  id := id
  kind := .elfQuery
  monitorId := 0
  name := "Errors in the log"
  required := true
  applicationId := ""
  environmentBindingId := ""
  serviceIds := []
  ruleIds := []
  gateMode := ""
  browserMonitorId := ""
  queryId := queryId
  receiverId := ""
  externalMonitorId := ""
  externalTriggerId := ""
  externalMonitorName := ""
  externalTriggerName := ""

def queryDeployment (checks : List SnapshotCheck) : Deployment where
  snapshot := ⟨[⟨"stage-1", "Logs", checks⟩]⟩
  config := ⟨3, 5, 25, 100, fun _ => none, []⟩
  services :=
    { configuration := fun _ => .error "not found"
      baselineQuery := fun _ => (.zero, none)
      postQuery := fun _ => (.zero, none)
      comparedConfiguration := fun _ => .error "not found" }
  queueEnabled := true

def queryRun (checks : Nat) : List Action :=
  [.start true, .capture true true, .proceed true, .proceed true] ++
    (List.replicate checks [.check true, .proceed true]).flatten

/-- One query is checked, and the deployment comes to its end. -/
theorem bounded_along_one_query :
    InLine (queryDeployment [queryCheck "check-1" "errors"])
        (initial (queryDeployment [queryCheck "check-1" "errors"])).saved ∧
      Along (step (queryDeployment [queryCheck "check-1" "errors"]))
        (Advances (queryDeployment [queryCheck "check-1" "errors"]))
        (initial (queryDeployment [queryCheck "check-1" "errors"]))
        (queryRun 1 ++ [.proceed true, .proceed true, .proceed true]) :=
  bounded_along (queryDeployment [queryCheck "check-1" "errors"])
    (queryRun 1 ++ [.proceed true, .proceed true, .proceed true]) (by decide) (by decide)

/-- **Two checks of one query.**  The second is counted above the total. -/
theorem repeated_query_exceeds : ¬ ∀ (d : Deployment) (as : List Action),
    Along (step d) (Advances d) (initial d) as := by
  intro h
  have hlaw := h (queryDeployment [queryCheck "check-1" "errors", queryCheck "check-2" "errors"])
    (queryRun 2)
  revert hlaw
  decide

end Rhythm.Suites.Progress
