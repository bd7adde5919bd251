import Rhythm.Fallible
import Rhythm.Suites.Samples

/-!
# Rhythm.Suites.SampleGate

Does the gate fail closed on the samples of a required monitor?  A sample is
`FAILED` when its execution could not be started or waited for, failed, or ran
another revision; the monitor blocks when an execution that can be fetched
failed, or when response times regressed.  `failsClosed_iff` says when the
first always leads to `BLOCK`.
-/

namespace Rhythm.Suites

open Runs Fallible

variable (services : MonitorServices) (config : DeploymentConfiguration)

/-! ## The outcomes of a monitor -/

/-- The sample is recorded as `FAILED` when the suite expects the given revision. -/
def SampleOutcome.Fails (revision : Option RevisionId) : SampleOutcome → Prop
  | .startFailed | .waitFailed _ => True
  | .ended _ executed => executed.status = .failed ∨ some executed.revisionId ≠ revision

def SampleFails (comparison : MonitorComparison) : Prop :=
  ∃ i ∈ List.range config.sampleCount,
    (services.sample comparison.monitorId (i + 1)).Fails
      (config.monitorRevisionIds comparison.monitorId)

/-- The executions of a monitor's samples that can be fetched afterwards. -/
def fetchedRuns (comparison : MonitorComparison) : List ExecutedRun :=
  (List.range config.sampleCount).filterMap fun i =>
    (services.sample comparison.monitorId (i + 1)).runId?.bind services.get

/-- Against its baseline, the monitor or one of its steps is slower than the guardrail allows. -/
def Regresses (comparison : MonitorComparison) : Prop :=
  ∃ points, services.deploymentMetricPoints comparison.monitorId
      (config.monitorRevisionIds comparison.monitorId) = .ok points ∧
    let post := (fetchedRuns services config comparison).map metricPoint
    (classify (summarize points) (summarize post) config).classification = .regressed ∨
      ∃ step ∈ completeSteps services.order (services.spare comparison.monitorId)
        (baselineSteps services.order points) post config,
        step.comparison.classification = .regressed

def BaselineReadable (comparison : MonitorComparison) : Prop :=
  ∃ read, readBaseline services config comparison = .ok read

/-- **Failing closed on samples.**  When a required monitor has a `FAILED` sample, the decision
is `BLOCK`. -/
def FailsClosed (suite : Suite) (others : Evidence) : Prop :=
  ∀ monitors, validatedMonitors services config suite = .ok monitors →
    (∃ monitor ∈ monitors, monitor.required = true ∧
      ∃ sample ∈ monitor.samples, sample.status = .failed) →
    gateDecision services config suite others = .block

def Evidence.withoutMonitors (evidence : Evidence) : Evidence := { evidence with monitors := [] }

/-- The condition of the law, on what the services return. -/
def SampleFailureBlocks (suite : Suite) (others : Evidence) : Prop :=
  let comparisons := deploymentMonitorComparisons suite
  (∃ comparison ∈ comparisons, ¬ BaselineReadable services config comparison) ∨
    (∀ comparison ∈ comparisons, comparison.required = true →
      ¬ SampleFails services config comparison) ∨
    (∃ comparison ∈ comparisons, comparison.required = true ∧
      ((∃ run ∈ fetchedRuns services config comparison, failing run.status = true) ∨
        Regresses services config comparison)) ∨
    others.withoutMonitors.blocks = true

/-! ## One monitor -/

variable {services config} {comparison read : MonitorComparison}

theorem readBaseline_ok (h : readBaseline services config comparison = .ok read) :
    ∃ points, services.deploymentMetricPoints comparison.monitorId
        (config.monitorRevisionIds comparison.monitorId) = .ok points ∧
      read.monitorId = comparison.monitorId ∧
      read.revisionId = config.monitorRevisionIds comparison.monitorId ∧
      read.required = comparison.required ∧
      read.baseline = summarize points ∧ read.steps = baselineSteps services.order points := by
  unfold readBaseline at h
  cases hmonitor : services.monitor comparison.monitorId with
  | error message => simp [hmonitor] at h
  | ok name =>
    cases hpoints : services.deploymentMetricPoints comparison.monitorId
        (config.monitorRevisionIds comparison.monitorId) with
    | error message => simp [hmonitor, hpoints] at h
    | ok points =>
      simp only [hmonitor, hpoints, Except.ok.injEq] at h
      subst h
      exact ⟨points, rfl, rfl, rfl, rfl, rfl, rfl⟩

theorem status_takeSample_iff {number : Nat} :
    (takeSample services read number).status = .failed ↔
      (services.sample read.monitorId number).Fails read.revisionId := by
  grind [takeSample, SampleOutcome.Fails]

theorem monitorRunId_takeSample {number : Nat} :
    (takeSample services read number).monitorRunId =
      (services.sample read.monitorId number).runId? := by
  unfold takeSample
  cases services.sample read.monitorId number with
  | startFailed | waitFailed runID => rfl
  | ended runID executed =>
    simp only
    split <;> rfl

theorem failed_sample_iff (h : readBaseline services config comparison = .ok read) :
    (∃ sample ∈ (validateMonitor services config read).samples,
        sample.status = .failed) ↔ SampleFails services config comparison := by
  obtain ⟨points, -, hid, hrevision, -⟩ := readBaseline_ok h
  simp only [validateMonitor, evaluateMonitor, classifyMonitor, sampleMonitor, List.mem_map,
    SampleFails, exists_exists_and_eq_and, status_takeSample_iff, hid, hrevision]

theorem points_eq_fetchedRuns (h : readBaseline services config comparison = .ok read) :
    ((sampleMonitor services config read).samples.filterMap fun sample =>
        (sample.monitorRunId.bind services.get).map metricPoint) =
      (fetchedRuns services config comparison).map metricPoint := by
  obtain ⟨points, -, hid, -⟩ := readBaseline_ok h
  simp only [sampleMonitor, fetchedRuns, List.filterMap_map, List.map_filterMap, ← hid]
  refine List.filterMap_congr fun i _ => ?_
  simp only [Function.comp, monitorRunId_takeSample]

theorem faulty_iff (h : readBaseline services config comparison = .ok read) :
    (validateMonitor services config read).faulty = true ↔
      (∃ run ∈ fetchedRuns services config comparison, failing run.status = true) ∨
        Regresses services config comparison := by
  obtain ⟨points, hpoints, hid, -, -, hbaseline, hsteps⟩ := readBaseline_ok h
  have hfailures : 0 < (summarize ((fetchedRuns services config comparison).map
      metricPoint)).failureCount ↔
        ∃ run ∈ fetchedRuns services config comparison, failing run.status = true := by
    simp [failureCount_summarize_pos]
  simp only [validateMonitor, evaluateMonitor, points_eq_fetchedRuns h]
  simp only [classifyMonitor, sampleMonitor, MonitorComparison.faulty, Bool.or_eq_true,
    decide_eq_true_eq, List.any_eq_true, gt_iff_lt, hfailures, hbaseline, hsteps, hid]
  refine or_congr Iff.rfl ⟨fun hregressed => ⟨points, hpoints, hregressed⟩, ?_⟩
  rintro ⟨points', hpoints', hregressed⟩
  rw [hpoints, Except.ok.injEq] at hpoints'
  exact hpoints' ▸ hregressed

/-! ## All monitors -/

variable {comparisons : List MonitorComparison}

theorem readBaselines_eq_mapM :
    readBaselines services config comparisons =
      comparisons.mapM (readBaseline services config) := by
  induction comparisons with
  | nil => rfl
  | cons comparison comparisons ih =>
    rw [readBaselines, List.mapM_cons, ← ih]
    cases readBaseline services config comparison with
    | error message => rfl
    | ok read => cases readBaselines services config comparisons <;> rfl

theorem readBaselines_ok {comparisons reads : List MonitorComparison}
    (h : readBaselines services config comparisons = .ok reads) :
    List.Forall₂ (fun comparison read => readBaseline services config comparison = .ok read)
      comparisons reads := by
  rw [readBaselines_eq_mapM] at h
  exact mapM_eq_ok_iff.mp h

theorem readBaselines_error {message : String}
    (h : readBaselines services config comparisons = .error message) :
    ∃ comparison ∈ comparisons, ¬ BaselineReadable services config comparison := by
  rw [readBaselines_eq_mapM] at h
  obtain ⟨comparison, hcomparison, herror⟩ := exists_of_mapM_eq_error h
  refine ⟨comparison, hcomparison, fun ⟨read, hok⟩ => ?_⟩
  rw [herror] at hok
  cases hok

theorem blocks_with_monitors (evidence : Evidence) (monitors : List MonitorComparison) :
    ({ evidence with monitors := monitors } : Evidence).blocks =
      (monitors.any MonitorComparison.blocks || evidence.withoutMonitors.blocks) := by
  simp [Evidence.blocks, Evidence.withoutMonitors, Bool.or_assoc]

variable {reads : List MonitorComparison}

theorem failed_monitor_iff {suite : Suite}
    (h : readBaselines services config (deploymentMonitorComparisons suite) = .ok reads) :
    (∃ monitor ∈ reads.map (validateMonitor services config), monitor.required = true ∧
        ∃ sample ∈ monitor.samples, sample.status = .failed) ↔
      ∃ comparison ∈ deploymentMonitorComparisons suite, comparison.required = true ∧
        SampleFails services config comparison := by
  simp only [List.mem_map, exists_exists_and_eq_and]
  refine (exists_mem_iff_of_forall₂ (readBaselines_ok h) fun comparison read hread => ?_).symm
  obtain ⟨_, _, _, _, hrequired, _⟩ := readBaseline_ok hread
  rw [failed_sample_iff hread, ← hrequired]
  rfl

theorem blocking_monitor_iff {suite : Suite}
    (h : readBaselines services config (deploymentMonitorComparisons suite) = .ok reads) :
    ((reads.map (validateMonitor services config)).any MonitorComparison.blocks = true) ↔
      ∃ comparison ∈ deploymentMonitorComparisons suite, comparison.required = true ∧
        ((∃ run ∈ fetchedRuns services config comparison, failing run.status = true) ∨
          Regresses services config comparison) := by
  rw [List.any_map, List.any_eq_true]
  refine (exists_mem_iff_of_forall₂ (readBaselines_ok h) fun comparison read hread => ?_).symm
  obtain ⟨_, _, _, _, hrequired, _⟩ := readBaseline_ok hread
  rw [Function.comp, MonitorComparison.blocks, Bool.and_eq_true, faulty_iff hread, ← hrequired]
  rfl

/-- **The gate and the samples.**  For every suite, every number of samples, every outcome of
each and any other evidence: the gate fails closed on samples exactly when a
baseline cannot be read, no required monitor has a failing sample, a required
monitor has a fetched execution that failed or regressed, or the other evidence
blocks. -/
theorem failsClosed_iff (services : MonitorServices) (config : DeploymentConfiguration)
    (suite : Suite) (others : Evidence) :
    FailsClosed services config suite others ↔
      SampleFailureBlocks services config suite others := by
  unfold FailsClosed SampleFailureBlocks gateDecision validatedMonitors
  cases hreads : readBaselines services config (deploymentMonitorComparisons suite) with
  | error message =>
    have hunread := readBaselines_error hreads
    simp [hunread]
  | ok reads =>
    have hallRead : ¬ ∃ comparison ∈ deploymentMonitorComparisons suite,
        ¬ BaselineReadable services config comparison := by
      rw [exists_mem_iff_of_forall₂ (Q := fun _ => False) (readBaselines_ok hreads)
        fun comparison read hread => iff_of_false (not_not_intro ⟨read, hread⟩) id]
      simp
    simp only [Except.ok.injEq, forall_eq', decision_eq_block_iff, blocks_with_monitors,
      Bool.or_eq_true, failed_monitor_iff hreads, blocking_monitor_iff hreads, hallRead, false_or]
    rw [imp_iff_not_or]
    refine or_congr ?_ Iff.rfl
    simp

/-- Services of a monitor without history whose executions cannot be started. -/
def unstartedServices : MonitorServices where
  monitor _ := .ok "checkout"
  deploymentMetricPoints _ _ := .ok []
  sample _ _ := .startFailed
  get _ := none
  order := .insertion _
  spare _ := 0

/-- None of the five samples of a required monitor can be started: all are `FAILED`, and the
deployment is allowed with warnings. -/
theorem unstarted_samples_allowed :
    ¬ ∀ (services : MonitorServices) (config : DeploymentConfiguration) (suite : Suite)
      (others : Evidence), FailsClosed services config suite others := by
  intro h
  have hdecision := h unstartedServices ⟨5, 5, 25, 100, fun _ => some 1, []⟩
    ⟨[⟨"s1", "checkout", [⟨"c1", .monitor, 1, "checkout", true, "", "", [], [], ""⟩]⟩]⟩
    ⟨[], [], [], [], []⟩ _ rfl (by decide)
  revert hdecision
  decide

end Rhythm.Suites
