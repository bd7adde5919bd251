import Rhythm.Leaders
import Rhythm.Retention.Evidence
import Rhythm.Storage.MetricSummary
import Rhythm.Text
import Rhythm.Unmarshal

/-!
# Rhythm.Runs.Diagnostics

The two readers of the diagnostics of a run: `Diagnostics`, which loads its steps with attempts and
assertion results, and `DiagnosticsSummary`, which reads the columns of the steps only.  Both return
an analysis of the run and its primary failure.

* `withOverhead_loop_eq_iff` — when two loops over the steps find the same;
* `primaryFailure_eq_iff` — when a run says as much of its failure as its steps do;
* `summaryAgrees_iff` — when the summary agrees with the full diagnostics.
-/

namespace Rhythm.Runs.Diagnostics

open Retention (StepRow RunAnalysis recordedPreparationMS projectedSlowestTimingPhase)
open Storage (TimedStep TimedAttempt stepAPIResponseMS)
open Text

/-! ## A run in the tables -/

/-- A row of `step_attempts`, as far as diagnostics read it. -/
structure StoredAttempt extends TimedAttempt where
  attemptNumber : Int
  status : Status
  retryBackoffMs : Int

/-- `AssertionResult`, as far as diagnostics read it; an observation that is missing is `null`. -/
structure AssertionResult where
  type : String
  expected : String
  observed : Json
  passed : Bool

/-- A row of `monitor_step_runs` with what only the full diagnostics load.  Each key of the timing
map has one value. -/
structure StoredStep extends StepRow where
  failureCategory : String
  attempts : List StoredAttempt
  assertions : List AssertionResult
  distinct : (timing.map Prod.fst).Nodup

/-- A saved run with its steps, in their order. -/
structure StoredRun where
  status : Status
  failureCategory : String
  failureReason : String
  failedStepId : String
  durationMs : Int
  steps : List StoredStep

def StoredStep.timed (step : StoredStep) : TimedStep where
  timing := step.timing
  attempts := step.attempts.map StoredAttempt.toTimedAttempt

/-! ## The analysis -/

/-- `slowestTimingPhase`, which visits the entries of a timing map in any order. -/
def slowestTimingPhase (entries : List (String × Json)) : String × Int :=
  entries.foldl
    (fun slowest entry =>
      if entry.1 ∉ apiResponsePhaseKeys then slowest
      else
        let value :=
          match entry.2 with
          | .num number => number.num.tdiv number.den
          | _ => 0
        if value > slowest.2 then (entry.1, value) else slowest)
    ("", 0)

def addCounts (analysis : RunAnalysis) (step : StepRow) (apiResponseMs retryTimeMs : Int) :
    RunAnalysis :=
  { analysis with
    stepTimeMs := analysis.stepTimeMs + step.durationMs
    apiResponseTimeMs := analysis.apiResponseTimeMs + apiResponseMs
    networkTimeMs := analysis.networkTimeMs + timingMilliseconds step.timing "networkTotalMs"
    preparationTimeMs := analysis.preparationTimeMs + (recordedPreparationMS step.timing).getD 0
    postProcessingMs :=
      analysis.postProcessingMs + timingMilliseconds step.timing "postProcessingMs"
    retryTimeMs := analysis.retryTimeMs + retryTimeMs
    retryCount := analysis.retryCount + max 0 (step.attemptCount - 1) }.countStep step.status

def offerStep (analysis : RunAnalysis) (step : StepRow) (apiResponseMs : Int) : RunAnalysis :=
  if apiResponseMs > analysis.slowestStepMs then
    { analysis with
      slowestStepId := step.stepDefinitionId
      slowestStepName := step.stepName
      slowestStepMs := apiResponseMs }
  else analysis

def offerPhase (analysis : RunAnalysis) (phase : String × Int) : RunAnalysis :=
  if phase.2 > analysis.slowestPhaseMs then
    { analysis with
      slowestPhase := phase.1
      slowestPhaseMs := phase.2 }
  else analysis

/-- The part that the loops of both readers share, on what they find for one step: its API response
time, its retry time and its slowest phase. -/
def addFound (analysis : RunAnalysis) (step : StepRow) (apiResponseMs retryTimeMs : Int)
    (phase : String × Int) : RunAnalysis :=
  offerPhase (offerStep (addCounts analysis step apiResponseMs retryTimeMs) step apiResponseMs)
    phase

def attemptsBackoff (step : StoredStep) : Int :=
  (step.attempts.map fun attempt => attempt.retryBackoffMs).sum

/-- The body of the loop of `Diagnostics`; `entries` is the timing map as it is visited. -/
def addLoaded (entries : StoredStep → List (String × Json)) (analysis : RunAnalysis)
    (step : StoredStep) : RunAnalysis :=
  addFound analysis step.toStepRow ((stepAPIResponseMS step.timed).getD 0) (attemptsBackoff step)
    (slowestTimingPhase (entries step))

def withOverhead (durationMs : Int) (analysis : RunAnalysis) : RunAnalysis :=
  { analysis with overheadMs := max 0 (durationMs - analysis.stepTimeMs) }

/-! ## The primary failure -/

/-- `FailureDetail`. -/
structure FailureDetail where
  phase : String := ""
  category : String
  title : String
  message : String
  stepId : String
  stepName : String := ""
  attemptNumber : Int := 0
  checkType : String := ""
  expected : String := ""
  observed : Json := .null
  retryable : Bool := false
  helpCode : String
  deriving DecidableEq

def isUnfailed : Status → Bool
  | .success | .successWithWarnings | .running | .queued | .starting => true
  | _ => false

def mayHaveFailed (run : StoredRun) (step : StoredStep) : Bool :=
  step.stepDefinitionId = run.failedStepId || step.status = .failed || step.status = .timedOut

def detailOfRun (run : StoredRun) : FailureDetail where
  category := run.failureCategory
  message := run.failureReason
  stepId := run.failedStepId
  title := "Execution failed"
  helpCode := "CHECK_EXECUTION_EVIDENCE"

/-- What its step adds: the first attempt without success and the first check that did not pass. -/
def FailureDetail.ofStep (detail : FailureDetail) (step : StoredStep) : FailureDetail :=
  let attempt := step.attempts.find? fun attempt => attempt.status ≠ .success
  let assertion := step.assertions.find? fun assertion => !assertion.passed
  { detail with
    stepId := step.stepDefinitionId
    stepName := step.stepName
    category := if detail.category = "" then step.failureCategory else detail.category
    attemptNumber := (attempt.map fun attempt => attempt.attemptNumber).getD detail.attemptNumber
    checkType := (assertion.map AssertionResult.type).getD detail.checkType
    expected := (assertion.map AssertionResult.expected).getD detail.expected
    observed := (assertion.map AssertionResult.observed).getD detail.observed }

/-- Phase, title, help code and whether a retry may help, by the category. -/
def classify (status : Status) (detail : FailureDetail) : FailureDetail :=
  let category := toUpper detail.category
  if contains category "DNS" then
    { detail with
      phase := "DNS", title := "DNS resolution failed", helpCode := "CHECK_DNS_AND_AGENT_NETWORK",
      retryable := true }
  else if contains category "PROXY" then
    { detail with
      phase := "PROXY", title := "Proxy connection failed", helpCode := "CHECK_PROXY_PROFILE" }
  else if contains category "TLS" || contains category "CERTIFICATE" then
    { detail with
      phase := "TLS", title := "TLS verification failed",
      helpCode := "CHECK_CERTIFICATE_AND_TRUST" }
  else if contains category "SCRIPT" then
    { detail with
      phase := "PRE_REQUEST_SCRIPT", title := "Pre-request JavaScript failed",
      helpCode := "CHECK_PRE_REQUEST_SCRIPT" }
  else if contains category "TIMEOUT" then
    { detail with
      phase := "SERVER_WAIT", title := "Request timed out",
      helpCode := "CHECK_TARGET_LATENCY_AND_TIMEOUT", retryable := true }
  else if contains category "SECRET" || contains category "AUTH" then
    { detail with
      phase := "PREPARATION", title := "Credential preparation failed",
      helpCode := "CHECK_SECRET_AND_AUTH_PROFILE" }
  else if contains category "ASSERTION" then
    { detail with
      phase := "ASSERTION", title := "A success criterion failed",
      helpCode := "CHECK_EXPECTED_AND_OBSERVED" }
  else if contains category "EXTRACTOR" then
    { detail with
      phase := "EXTRACTION", title := "A required value could not be extracted",
      helpCode := "CHECK_RESPONSE_AND_EXPRESSION" }
  else if status = .cancelled then
    { detail with
      phase := "CANCELLATION", title := "Execution was cancelled", helpCode := "RUN_CANCELLED" }
  else { detail with phase := "REQUEST" }

/-- `primaryFailure`. -/
def primaryFailure (run : StoredRun) : Option FailureDetail :=
  if isUnfailed run.status then none
  else
    let detail := detailOfRun run
    match run.steps.find? (mayHaveFailed run) with
    | none => some (classify run.status detail)
    | some step => some (classify run.status (detail.ofStep step))

/-! ## The readers -/

/-- The analysis and the primary failure of a run. -/
structure Report where
  analysis : RunAnalysis
  primaryFailure : Option FailureDetail
  deriving DecidableEq

/-- `Diagnostics`. -/
def diagnostics (entries : StoredStep → List (String × Json)) (run : StoredRun) : Report where
  analysis := withOverhead run.durationMs (run.steps.foldl (addLoaded entries) {})
  primaryFailure := primaryFailure run

/-- `DiagnosticsSummary`: the run is loaded without its steps. -/
def diagnosticsSummary (run : StoredRun) : Report where
  analysis := withOverhead run.durationMs
    ((run.steps.map StoredStep.toStepRow).foldl RunAnalysis.addStep {})
  primaryFailure := primaryFailure { run with steps := [] }

theorem analysis_getDiagnosticsSummary {db : Retention.Database} {runID : RunId}
    {row : Retention.RunRow} {run : StoredRun} (hrow : db.runs.get? runID = some row)
    (hduration : row.durationMs = run.durationMs)
    (hsteps : Retention.stepRows db runID = run.steps.map StoredStep.toStepRow) :
    (Retention.getDiagnosticsSummary db runID).map (fun summary => summary.analysis) =
      .ok (diagnosticsSummary run).analysis := by
  unfold Retention.getDiagnosticsSummary diagnosticsSummary
  rw [hrow]
  dsimp only
  rw [hsteps, hduration]
  rfl

/-! ## What the loops find -/

def slowestStepOf (analysis : RunAnalysis) : String × String × Int :=
  (analysis.slowestStepId, analysis.slowestStepName, analysis.slowestStepMs)

def slowestPhaseOf (analysis : RunAnalysis) : String × Int :=
  (analysis.slowestPhase, analysis.slowestPhaseMs)

def shared (analysis : RunAnalysis) : RunAnalysis :=
  { analysis with
    apiResponseTimeMs := 0
    retryTimeMs := 0
    slowestStepId := ""
    slowestStepName := ""
    slowestStepMs := 0
    slowestPhase := ""
    slowestPhaseMs := 0 }

theorem analysis_eq_iff {a b : RunAnalysis} :
    a = b ↔ shared a = shared b ∧ a.apiResponseTimeMs = b.apiResponseTimeMs ∧
      a.retryTimeMs = b.retryTimeMs ∧ slowestStepOf a = slowestStepOf b ∧
      slowestPhaseOf a = slowestPhaseOf b := by
  constructor
  · rintro rfl
    exact ⟨rfl, rfl, rfl, rfl, rfl⟩
  · rintro ⟨hshared, hapi, hretry, hstep, hphase⟩
    cases a
    cases b
    simp only [shared, slowestStepOf, slowestPhaseOf, Prod.mk.injEq, RunAnalysis.mk.injEq]
      at hshared hapi hretry hstep hphase ⊢
    simp only [hshared, hapi, hretry, hstep, hphase, and_self]

section Step

variable {analysis : RunAnalysis} {step : StepRow} {apiResponseMs retryTimeMs : Int}
  {phase : String × Int}

theorem addCounts_times :
    (addCounts analysis step apiResponseMs retryTimeMs).apiResponseTimeMs =
        analysis.apiResponseTimeMs + apiResponseMs ∧
      (addCounts analysis step apiResponseMs retryTimeMs).retryTimeMs =
        analysis.retryTimeMs + retryTimeMs := by
  unfold addCounts
  cases step.status <;> exact ⟨rfl, rfl⟩

theorem addCounts_slowest :
    slowestStepOf (addCounts analysis step apiResponseMs retryTimeMs) = slowestStepOf analysis ∧
      slowestPhaseOf (addCounts analysis step apiResponseMs retryTimeMs) =
        slowestPhaseOf analysis := by
  unfold addCounts
  cases step.status <;> exact ⟨rfl, rfl⟩

theorem shared_addCounts :
    shared (addCounts analysis step apiResponseMs retryTimeMs) =
      shared (addCounts (shared analysis) step 0 0) := by
  unfold addCounts
  cases step.status <;> rfl

theorem offerStep_keeps :
    (offerStep analysis step apiResponseMs).apiResponseTimeMs = analysis.apiResponseTimeMs ∧
      (offerStep analysis step apiResponseMs).retryTimeMs = analysis.retryTimeMs ∧
      slowestPhaseOf (offerStep analysis step apiResponseMs) = slowestPhaseOf analysis ∧
      shared (offerStep analysis step apiResponseMs) = shared analysis := by
  unfold offerStep
  split <;> exact ⟨rfl, rfl, rfl, rfl⟩

theorem slowestStepOf_offerStep :
    slowestStepOf (offerStep analysis step apiResponseMs) =
      if (slowestStepOf analysis).2.2 < apiResponseMs then
        (step.stepDefinitionId, step.stepName, apiResponseMs)
      else slowestStepOf analysis := by
  unfold offerStep
  split
  · next hslower => exact (if_pos hslower).symm
  · next hnot => exact (if_neg hnot).symm

theorem offerPhase_keeps :
    (offerPhase analysis phase).apiResponseTimeMs = analysis.apiResponseTimeMs ∧
      (offerPhase analysis phase).retryTimeMs = analysis.retryTimeMs ∧
      slowestStepOf (offerPhase analysis phase) = slowestStepOf analysis ∧
      shared (offerPhase analysis phase) = shared analysis := by
  unfold offerPhase
  split <;> exact ⟨rfl, rfl, rfl, rfl⟩

theorem slowestPhaseOf_offerPhase :
    slowestPhaseOf (offerPhase analysis phase) =
      if (slowestPhaseOf analysis).2 < phase.2 then phase else slowestPhaseOf analysis := by
  unfold offerPhase
  split
  · next hslower => exact (if_pos hslower).symm
  · next hnot => exact (if_neg hnot).symm

theorem addFound_times :
    (addFound analysis step apiResponseMs retryTimeMs phase).apiResponseTimeMs =
        analysis.apiResponseTimeMs + apiResponseMs ∧
      (addFound analysis step apiResponseMs retryTimeMs phase).retryTimeMs =
        analysis.retryTimeMs + retryTimeMs := by
  rw [addFound, offerPhase_keeps.1, offerPhase_keeps.2.1, offerStep_keeps.1, offerStep_keeps.2.1]
  exact addCounts_times

theorem addFound_slowestStep :
    slowestStepOf (addFound analysis step apiResponseMs retryTimeMs phase) =
      if (slowestStepOf analysis).2.2 < apiResponseMs then
        (step.stepDefinitionId, step.stepName, apiResponseMs)
      else slowestStepOf analysis := by
  rw [addFound, offerPhase_keeps.2.2.1, slowestStepOf_offerStep, addCounts_slowest.1]

theorem addFound_slowestPhase :
    slowestPhaseOf (addFound analysis step apiResponseMs retryTimeMs phase) =
      if (slowestPhaseOf analysis).2 < phase.2 then phase else slowestPhaseOf analysis := by
  rw [addFound, slowestPhaseOf_offerPhase, offerStep_keeps.2.2.1, addCounts_slowest.2]

theorem shared_addFound :
    shared (addFound analysis step apiResponseMs retryTimeMs phase) =
      shared (addCounts (shared analysis) step 0 0) := by
  rw [addFound, offerPhase_keeps.2.2.2, offerStep_keeps.2.2.2, shared_addCounts]

end Step

/-- A loop over the steps of a run that finds, for each, these times and this phase. -/
def loop (api retry : StoredStep → Int) (phase : StoredStep → String × Int)
    (steps : List StoredStep) : RunAnalysis :=
  steps.foldl (fun analysis step =>
    addFound analysis step.toStepRow (api step) (retry step) (phase step)) {}

section Loops

variable {api retry : StoredStep → Int} {phase : StoredStep → String × Int}

theorem loop_append (steps : List StoredStep) (step : StoredStep) :
    loop api retry phase (steps ++ [step]) =
      addFound (loop api retry phase steps) step.toStepRow (api step) (retry step)
        (phase step) := by
  rw [loop, List.foldl_append]
  rfl

theorem loop_times (steps : List StoredStep) :
    (loop api retry phase steps).apiResponseTimeMs = (steps.map api).sum ∧
      (loop api retry phase steps).retryTimeMs = (steps.map retry).sum := by
  induction steps using List.reverseRecOn with
  | nil => exact ⟨rfl, rfl⟩
  | append_singleton steps step ih =>
    rw [loop_append, addFound_times.1, addFound_times.2, ih.1, ih.2]
    simp

theorem shared_loop {api' retry' : StoredStep → Int} {phase' : StoredStep → String × Int}
    (steps : List StoredStep) :
    shared (loop api retry phase steps) = shared (loop api' retry' phase' steps) := by
  induction steps using List.reverseRecOn with
  | nil => rfl
  | append_singleton steps step ih =>
    rw [loop_append, loop_append, shared_addFound, shared_addFound, ih]

/-- The slowest step, its name and its time, as a loop remembers them. -/
def stepView (api : StoredStep → Int) (slowest : Option StoredStep) : String × String × Int :=
  slowest.elim ("", "", 0) fun step => (step.stepDefinitionId, step.stepName, api step)

theorem loop_slowestStep (steps : List StoredStep) :
    slowestStepOf (loop api retry phase steps) = stepView api (leader 0 api steps) := by
  induction steps using List.reverseRecOn with
  | nil => rfl
  | append_singleton steps step ih =>
    have htime : (stepView api (leader 0 api steps)).2.2 =
        topValue 0 api (leader 0 api steps) := by
      cases leader 0 api steps <;> rfl
    rw [loop_append, addFound_slowestStep, ih, leader_append, lead, htime]
    split <;> rfl

theorem loop_slowestPhase (steps : List StoredStep) :
    slowestPhaseOf (loop api retry phase steps) =
      (leader 0 (fun step => (phase step).2) steps).elim ("", 0) phase := by
  induction steps using List.reverseRecOn with
  | nil => rfl
  | append_singleton steps step ih =>
    have htime : ((leader 0 (fun step => (phase step).2) steps).elim ("", 0) phase).2 =
        topValue 0 (fun step => (phase step).2) (leader 0 (fun step => (phase step).2) steps) := by
      cases leader 0 (fun step => (phase step).2) steps <;> rfl
    rw [loop_append, addFound_slowestPhase, ih, leader_append, lead, htime]
    split <;> rfl

end Loops

/-! ## Phases -/

/-- The longest API phase that a timing map records, or 0. -/
def longestPhaseMs (timing : List (String × Json)) : Int :=
  (apiResponsePhaseKeys.map (timingMilliseconds timing)).foldl max 0

def phaseView (timing : List (String × Json)) (slowest : Option String) : String × Int :=
  slowest.elim ("", 0) fun key => (key, timingMilliseconds timing key)

def phaseKeys (entries : List (String × Json)) : List String :=
  (entries.map Prod.fst).filter fun key => key ∈ apiResponsePhaseKeys

section Phases

variable {timing entries : List (String × Json)}

theorem phaseView_lead (slowest : Option String) (key : String) :
    phaseView timing (lead 0 (timingMilliseconds timing) slowest key) =
      if timingMilliseconds timing key > (phaseView timing slowest).2 then
        (key, timingMilliseconds timing key)
      else phaseView timing slowest := by
  have htime : topValue 0 (timingMilliseconds timing) slowest = (phaseView timing slowest).2 := by
    cases slowest <;> rfl
  rw [lead, htime]
  split <;> rfl

theorem projectedSlowestTimingPhase_eq (timing : List (String × Json)) :
    projectedSlowestTimingPhase timing =
      phaseView timing (leader 0 (timingMilliseconds timing) apiResponsePhaseKeys) := by
  unfold projectedSlowestTimingPhase
  generalize apiResponsePhaseKeys = keys
  induction keys using List.reverseRecOn with
  | nil => rfl
  | append_singleton keys key ih =>
    rw [leader_append, phaseView_lead, List.foldl_append, ih]
    rfl

theorem slowestTimingPhase_eq (hperm : entries.Perm timing)
    (hdistinct : (timing.map Prod.fst).Nodup) :
    slowestTimingPhase entries =
      phaseView timing (leader 0 (timingMilliseconds timing) (phaseKeys entries)) := by
  have hvalue : ∀ entry ∈ entries, (match entry.2 with
      | .num number => number.num.tdiv number.den
      | _ => 0) = timingMilliseconds timing entry.1 := by
    intro entry hentry
    have hlookup := Unmarshal.lookup_of_mem hdistinct (hperm.mem_iff.mp hentry)
    rw [timingMilliseconds, hlookup]
    cases entry.2 <;> rfl
  clear hperm
  unfold slowestTimingPhase phaseKeys
  induction entries using List.reverseRecOn with
  | nil => rfl
  | append_singleton entries entry ih =>
    have hrest := ih fun other hother => hvalue other (List.mem_append_left _ hother)
    have hlast := hvalue entry (List.mem_append_right _ (List.mem_singleton_self entry))
    rw [List.foldl_append, hrest, List.map_append, List.filter_append, List.foldl_cons,
      List.foldl_nil, hlast]
    by_cases hkey : entry.1 ∈ apiResponsePhaseKeys
    · have hfilter : ([entry].map Prod.fst).filter (fun key => key ∈ apiResponsePhaseKeys) =
          [entry.1] := by simp [hkey]
      rw [if_neg (not_not.mpr hkey), hfilter, leader_append, phaseView_lead]
    · have hfilter : ([entry].map Prod.fst).filter (fun key => key ∈ apiResponsePhaseKeys) =
          [] := by simp [hkey]
      rw [if_pos hkey, hfilter, List.append_nil]

variable {key : String}

theorem mem_phaseKeys_iff (hperm : entries.Perm timing)
    (htime : 0 < timingMilliseconds timing key) :
    key ∈ apiResponsePhaseKeys ↔ key ∈ phaseKeys entries := by
  unfold phaseKeys
  rw [List.mem_filter, decide_eq_true_eq]
  refine ⟨fun hkey => ⟨?_, hkey⟩, And.right⟩
  cases hlookup : timing.lookup key with
  | none =>
    rw [timingMilliseconds, hlookup] at htime
    exact absurd htime (lt_irrefl 0)
  | some value =>
    exact List.mem_map.mpr ⟨_, hperm.mem_iff.mpr (Unmarshal.mem_of_lookup hlookup), rfl⟩

theorem phaseView_time (slowest : Option String) :
    (phaseView timing slowest).2 = topValue 0 (timingMilliseconds timing) slowest := by
  cases slowest <;> rfl

theorem phase_time (hperm : entries.Perm timing) (hdistinct : (timing.map Prod.fst).Nodup) :
    (slowestTimingPhase entries).2 = longestPhaseMs timing ∧
      (projectedSlowestTimingPhase timing).2 = longestPhaseMs timing := by
  rw [slowestTimingPhase_eq hperm hdistinct, projectedSlowestTimingPhase_eq, phaseView_time,
    phaseView_time, longestPhaseMs, ← topValue_leader_eq_foldl]
  refine ⟨?_, rfl⟩
  exact (topValue_leader_congr fun key htime => mem_phaseKeys_iff hperm htime).symm

def OneLongest (timing : List (String × Json)) : Prop :=
  ∀ key ∈ apiResponsePhaseKeys, ∀ key' ∈ apiResponsePhaseKeys,
    timingMilliseconds timing key = longestPhaseMs timing →
    timingMilliseconds timing key' = longestPhaseMs timing → key = key'

theorem leads_time (h : Leads 0 (timingMilliseconds timing) apiResponsePhaseKeys key) :
    timingMilliseconds timing key = longestPhaseMs timing := by
  rw [longestPhaseMs, ← topValue_leader_eq_foldl, leader_eq_some_iff.mpr h]
  rfl

theorem OneLongest.slowestTimingPhase_eq (h : OneLongest timing) (hperm : entries.Perm timing)
    (hdistinct : (timing.map Prod.fst).Nodup) :
    slowestTimingPhase entries = projectedSlowestTimingPhase timing := by
  rw [Diagnostics.slowestTimingPhase_eq hperm hdistinct, projectedSlowestTimingPhase_eq]
  refine congrArg (phaseView timing) (leader_congr
    (fun key htime => mem_phaseKeys_iff hperm htime) fun key hleads other hother hsame => ?_)
  have hin : other ∈ apiResponsePhaseKeys := of_decide_eq_true (List.mem_filter.mp hother).2
  have htime := leads_time hleads
  exact h other hin key hleads.mem (hsame.trans htime) htime

def visitFirst (key : String) (timing : List (String × Json)) : List (String × Json) :=
  timing.filter (fun entry => entry.1 = key) ++ timing.filter fun entry => !decide (entry.1 = key)

theorem visitFirst_perm (key : String) (timing : List (String × Json)) :
    (visitFirst key timing).Perm timing :=
  List.filter_append_perm _ timing

/-- A phase that takes as long as the longest is found by the full reader, if it is visited
first. -/
theorem slowestTimingPhase_visitFirst (hdistinct : (timing.map Prod.fst).Nodup)
    (hkey : key ∈ apiResponsePhaseKeys) (hpos : 0 < longestPhaseMs timing)
    (htime : timingMilliseconds timing key = longestPhaseMs timing) :
    (slowestTimingPhase (visitFirst key timing)).1 = key := by
  have hperm := visitFirst_perm key timing
  have hpositive : 0 < timingMilliseconds timing key := by rwa [htime]
  have hmem := (mem_phaseKeys_iff hperm hpositive).mp hkey
  -- the phases of the entries begin with this one
  have hfirst : ∃ rest, phaseKeys (visitFirst key timing) = key :: rest := by
    cases hlookup : timing.filter (fun entry => entry.1 = key) with
    | nil =>
      have habsent : key ∉ timing.map Prod.fst := by
        intro hin
        obtain ⟨entry, hentry, rfl⟩ := List.mem_map.mp hin
        have hfilter : entry ∈ timing.filter fun other => other.1 = entry.1 :=
          List.mem_filter.mpr ⟨hentry, by simp⟩
        rw [hlookup] at hfilter
        exact absurd hfilter List.not_mem_nil
      exact absurd ((hperm.map Prod.fst).mem_iff.mp (List.mem_filter.mp hmem).1) habsent
    | cons entry rest =>
      have hentry : entry.1 = key := by
        grind [List.mem_cons_self]
      unfold phaseKeys visitFirst
      rw [hlookup, List.cons_append, List.map_cons, hentry,
        List.filter_cons_of_pos (by simpa using hkey)]
      exact ⟨_, rfl⟩
  obtain ⟨rest, hrest⟩ := hfirst
  have hle : ∀ other ∈ rest, timingMilliseconds timing other ≤ timingMilliseconds timing key := by
    intro other hother
    have hin : other ∈ phaseKeys (visitFirst key timing) := by
      rw [hrest]
      exact List.mem_cons_of_mem key hother
    have htop := @le_topValue_leader _ _ _ 0 (timingMilliseconds timing) _ _ hin
    rwa [← phaseView_time, ← slowestTimingPhase_eq hperm hdistinct,
      (phase_time hperm hdistinct).1, ← htime] at htop
  rw [slowestTimingPhase_eq hperm hdistinct, hrest, leader_cons hpositive hle]
  rfl

end Phases

/-- **The summary agrees with the full diagnostics**, in whichever order timing maps are visited. -/
def SummaryAgrees (run : StoredRun) : Prop :=
  ∀ entries : StoredStep → List (String × Json),
    (∀ step ∈ run.steps, (entries step).Perm step.timing) →
      diagnostics entries run = diagnosticsSummary run

def recordsResponse (step : StoredStep) : Bool := (recordedAPIResponseMS step.timing).isSome

def attemptResponse (step : StoredStep) : Int :=
  if recordsResponse step then 0 else (stepAPIResponseMS step.timed).getD 0

/-- The API response time of a step, by itself or its last attempt. -/
def anyResponse (step : StoredStep) : Int := (stepAPIResponseMS step.timed).getD 0

/-- The API response time that a step has recorded itself. -/
def ownResponse (step : StoredStep) : Int := (recordedAPIResponseMS step.timing).getD 0

def recordedBackoff (step : StoredStep) : Int := timingMilliseconds step.timing "retryBackoffMs"

/-- A step gives a failure no detail that the run does not give. -/
structure Silent (run : StoredRun) (step : StoredStep) : Prop where
  stepId : step.stepDefinitionId = run.failedStepId
  stepName : step.stepName = ""
  category : run.failureCategory = "" → step.failureCategory = ""
  attempt : ∀ attempt ∈ step.attempts.find? (fun attempt => attempt.status ≠ .success),
    attempt.attemptNumber = 0
  assertion : ∀ assertion ∈ step.assertions.find? (fun assertion => !assertion.passed),
    assertion.type = "" ∧ assertion.expected = "" ∧ assertion.observed = .null

/-- When the summary agrees. -/
structure Summarized (run : StoredRun) : Prop where
  /-- The attempts of steps without a recorded API response time add nothing. -/
  response : (run.steps.map attemptResponse).sum = 0
  /-- The slowest step has recorded its time, or one that bears its name has. -/
  slowestStep : ∀ step, Leads 0 anyResponse run.steps step → recordsResponse step = true ∨
    ∃ other, Leads 0 ownResponse run.steps other ∧ ownResponse other = anyResponse step ∧
      other.stepDefinitionId = step.stepDefinitionId ∧ other.stepName = step.stepName
  /-- The steps have recorded the retry time of their attempts. -/
  backoff : (run.steps.map attemptsBackoff).sum = (run.steps.map recordedBackoff).sum
  /-- The step with the longest phase has one such phase only. -/
  slowestPhase : ∀ step, Leads 0 (fun step => longestPhaseMs step.timing) run.steps step →
    OneLongest step.timing
  /-- The run did not fail, or the step that failed it has nothing to say. -/
  failure : isUnfailed run.status = true ∨
    ∀ step ∈ run.steps.find? (mayHaveFailed run), Silent run step

/-! ### Response times -/

section Responses

variable {run : StoredRun}

theorem anyResponse_eq (step : StoredStep) : anyResponse step = ownResponse step +
    attemptResponse step := by
  unfold anyResponse ownResponse attemptResponse recordsResponse
  cases hrecorded : recordedAPIResponseMS step.timing with
  | none => simp
  | some value => simp [stepAPIResponseMS, StoredStep.timed, hrecorded]

variable {step : StoredStep}

theorem ownResponse_of_recordsResponse (h : recordsResponse step = true) :
    ownResponse step = anyResponse step := by
  rw [anyResponse_eq, attemptResponse, if_pos h, Int.add_zero]

theorem ownResponse_eq_zero (h : ¬recordsResponse step = true) :
    ownResponse step = 0 := by
  unfold recordsResponse at h
  rw [ownResponse, Option.not_isSome_iff_eq_none.mp h, Option.getD_none]

theorem ownResponse_le (step : StoredStep) : ownResponse step ≤ max 0 (anyResponse step) := by
  by_cases h : recordsResponse step = true
  · rw [ownResponse_of_recordsResponse h]
    exact le_max_right 0 _
  · rw [ownResponse_eq_zero h]
    exact le_max_left 0 _

theorem leads_ownResponse {steps : List StoredStep}
    (hleads : Leads 0 anyResponse steps step) (hrecords : recordsResponse step = true) :
    Leads 0 ownResponse steps step := by
  have hsame := ownResponse_of_recordsResponse hrecords
  obtain ⟨habove, before, after, rfl, hbefore, hafter⟩ := hleads
  refine ⟨by rwa [hsame], before, after, rfl, fun other hother => ?_, fun other hother => ?_⟩
  · have hle := ownResponse_le other
    have hlt := hbefore other hother
    omega
  · have hle := ownResponse_le other
    have hother := hafter other hother
    omega

theorem slowestStep_eq_iff (steps : List StoredStep) :
    stepView anyResponse (leader 0 anyResponse steps) =
        stepView ownResponse (leader 0 ownResponse steps) ↔
      ∀ step, Leads 0 anyResponse steps step → recordsResponse step = true ∨
        ∃ other, Leads 0 ownResponse steps other ∧ ownResponse other = anyResponse step ∧
          other.stepDefinitionId = step.stepDefinitionId ∧ other.stepName = step.stepName := by
  constructor
  · intro heq step hleads
    right
    rw [leader_eq_some_iff.mpr hleads] at heq
    cases hother : leader 0 ownResponse steps with
    | none =>
      rw [hother] at heq
      have htime : anyResponse step = 0 := congrArg (fun view => view.2.2) heq
      exact absurd htime (ne_of_gt hleads.above)
    | some other =>
      rw [hother] at heq
      simp only [stepView, Option.elim_some, Prod.mk.injEq] at heq
      exact ⟨other, leads_of_leader hother, heq.2.2.symm, heq.1.symm, heq.2.1.symm⟩
  · intro h
    cases hleader : leader 0 anyResponse steps with
    | none =>
      have hnone : leader 0 ownResponse steps = none := by
        rw [leader_eq_none_iff] at hleader ⊢
        intro step hstep
        have hle := ownResponse_le step
        have hany := hleader step hstep
        omega
      rw [hnone]
      rfl
    | some step =>
      have hleads := leads_of_leader hleader
      obtain hrecords | ⟨other, hother, htime, hid, hname⟩ := h step hleads
      · rw [leader_eq_some_iff.mpr (leads_ownResponse hleads hrecords)]
        simp only [stepView, Option.elim_some, ownResponse_of_recordsResponse hrecords]
      · rw [leader_eq_some_iff.mpr hother]
        simp only [stepView, Option.elim_some, htime, hid, hname]

end Responses

/-! ### Phases of a run -/

section RunPhases

variable {steps : List StoredStep} {entries : StoredStep → List (String × Json)}

theorem leader_phases (hentries : ∀ step ∈ steps, (entries step).Perm step.timing) :
    leader 0 (fun step => (slowestTimingPhase (entries step)).2) steps =
        leader 0 (fun step => longestPhaseMs step.timing) steps ∧
      leader 0 (fun step => (projectedSlowestTimingPhase step.timing).2) steps =
        leader 0 (fun step => longestPhaseMs step.timing) steps := by
  refine ⟨leader_congr_value fun step hstep => ?_, leader_congr_value fun step hstep => ?_⟩
  · exact (phase_time (hentries step hstep) step.distinct).1
  · exact (phase_time (hentries step hstep) step.distinct).2

theorem slowestPhase_eq_iff :
    (∀ entries : StoredStep → List (String × Json),
      (∀ step ∈ steps, (entries step).Perm step.timing) →
      (leader 0 (fun step => (slowestTimingPhase (entries step)).2) steps).elim ("", 0)
          (fun step => slowestTimingPhase (entries step)) =
        (leader 0 (fun step => (projectedSlowestTimingPhase step.timing).2) steps).elim ("", 0)
          fun step => projectedSlowestTimingPhase step.timing) ↔
      ∀ step, Leads 0 (fun step => longestPhaseMs step.timing) steps step →
        OneLongest step.timing := by
  constructor
  · intro h step hleads key hkey key' hkey' htime htime'
    -- the phase of the full reader is the one that is visited first
    have hfound : ∀ key ∈ apiResponsePhaseKeys,
        timingMilliseconds step.timing key = longestPhaseMs step.timing →
        (projectedSlowestTimingPhase step.timing).1 = key := by
      intro key hkey htime
      have hperm : ∀ step ∈ steps, (visitFirst key step.timing).Perm step.timing :=
        fun step _ => visitFirst_perm key step.timing
      have hsame := h (fun step => visitFirst key step.timing) hperm
      obtain ⟨hfull, hprojected⟩ := leader_phases hperm
      rw [hfull, hprojected, leader_eq_some_iff.mpr hleads, Option.elim_some,
        Option.elim_some] at hsame
      rw [← hsame]
      exact slowestTimingPhase_visitFirst step.distinct hkey hleads.above htime
    exact (hfound key hkey htime).symm.trans (hfound key' hkey' htime')
  · intro h entries hentries
    obtain ⟨hfull, hprojected⟩ := leader_phases hentries
    rw [hfull, hprojected]
    cases hleader : leader 0 (fun step => longestPhaseMs step.timing) steps with
    | none => rfl
    | some step =>
      have hleads := leads_of_leader hleader
      rw [Option.elim_some, Option.elim_some]
      exact (h step hleads).slowestTimingPhase_eq (hentries step hleads.mem) step.distinct

end RunPhases

/-! ### Failures -/

section Failures

variable {run : StoredRun}

def FailureDetail.found (detail : FailureDetail) : FailureDetail :=
  { detail with phase := "", title := "", helpCode := "", retryable := false }

theorem found_classify (status : Status) (detail : FailureDetail) :
    (classify status detail).found = detail.found := by
  unfold classify
  dsimp only
  generalize contains (toUpper detail.category) = has
  simp only [apply_ite FailureDetail.found]
  simp only [FailureDetail.found, ite_self]

theorem classify_ofStep_iff (step : StoredStep) :
    classify run.status ((detailOfRun run).ofStep step) = classify run.status (detailOfRun run) ↔
      Silent run step := by
  constructor
  · intro heq
    have hfound := congrArg FailureDetail.found heq
    rw [found_classify, found_classify] at hfound
    simp only [FailureDetail.found, FailureDetail.ofStep, detailOfRun, FailureDetail.mk.injEq]
      at hfound
    obtain ⟨-, hcategory, -, -, hid, hname, hattempt, htype, hexpected, hobserved, -, -⟩ := hfound
    refine ⟨hid, hname, fun hempty => ?_, fun attempt hfind => ?_, fun assertion hfind => ?_⟩
    · grind
    · rw [Option.mem_def.mp hfind] at hattempt
      exact hattempt
    · rw [Option.mem_def.mp hfind] at htype hexpected hobserved
      exact ⟨htype, hexpected, hobserved⟩
  · rintro ⟨hid, hname, hcategory, hattempt, hassertion⟩
    have hdetail : (detailOfRun run).ofStep step = detailOfRun run := by
      have hkept : (if run.failureCategory = "" then step.failureCategory
          else run.failureCategory) = run.failureCategory := by
        split
        · next hempty => rw [hcategory hempty, hempty]
        · rfl
      have hnumber : ((step.attempts.find? fun attempt => attempt.status ≠ .success).map
          fun attempt => attempt.attemptNumber).getD 0 = 0 := by
        cases hfind : step.attempts.find? (fun attempt => attempt.status ≠ .success) with
        | none => rfl
        | some attempt => exact hattempt attempt hfind
      have hcheck : ((step.assertions.find? fun assertion => !assertion.passed).map
            AssertionResult.type).getD "" = "" ∧
          ((step.assertions.find? fun assertion => !assertion.passed).map
            AssertionResult.expected).getD "" = "" ∧
          ((step.assertions.find? fun assertion => !assertion.passed).map
            AssertionResult.observed).getD .null = .null := by
        cases hfind : step.assertions.find? (fun assertion => !assertion.passed) with
        | none => exact ⟨rfl, rfl, rfl⟩
        | some assertion => exact hassertion assertion hfind
      obtain ⟨htype, hexpected, hobserved⟩ := hcheck
      unfold FailureDetail.ofStep detailOfRun
      dsimp only
      rw [hid, hname, hkept, hnumber, htype, hexpected, hobserved]
    rw [hdetail]

theorem primaryFailure_eq_iff :
    primaryFailure run = primaryFailure { run with steps := [] } ↔
      isUnfailed run.status = true ∨
        ∀ step ∈ run.steps.find? (mayHaveFailed run), Silent run step := by
  unfold primaryFailure
  dsimp only
  by_cases hunfailed : isUnfailed run.status = true
  · rw [if_pos hunfailed, if_pos hunfailed]
    exact iff_of_true rfl (Or.inl hunfailed)
  · rw [if_neg hunfailed, if_neg hunfailed, List.find?_nil]
    cases hfind : run.steps.find? (mayHaveFailed run) with
    | none => exact iff_of_true rfl (Or.inr fun _ hstep => by cases hstep)
    | some step =>
      dsimp only
      rw [Option.some.injEq]
      refine (classify_ofStep_iff step).trans ⟨fun h => Or.inr ?_, ?_⟩
      · rintro other hother
        obtain rfl := Option.some.inj hother
        exact h
      · rintro (hfalse | h)
        · exact absurd hfalse hunfailed
        · exact h step rfl

end Failures

/-! ### Both readers -/

section Readers

variable {run : StoredRun}

theorem withOverhead_loop_eq_iff {api api' retry retry' : StoredStep → Int}
    {phase phase' : StoredStep → String × Int} (durationMs : Int) (steps : List StoredStep) :
    withOverhead durationMs (loop api retry phase steps) =
        withOverhead durationMs (loop api' retry' phase' steps) ↔
      (steps.map api).sum = (steps.map api').sum ∧
        (steps.map retry).sum = (steps.map retry').sum ∧
        stepView api (leader 0 api steps) = stepView api' (leader 0 api' steps) ∧
        (leader 0 (fun step => (phase step).2) steps).elim ("", 0) phase =
          (leader 0 (fun step => (phase' step).2) steps).elim ("", 0) phase' := by
  have hshared : shared (withOverhead durationMs (loop api retry phase steps)) =
      shared (withOverhead durationMs (loop api' retry' phase' steps)) :=
    congrArg (withOverhead durationMs) (shared_loop steps)
  rw [analysis_eq_iff, ← (@loop_times api retry phase steps).1,
    ← (@loop_times api retry phase steps).2, ← (@loop_times api' retry' phase' steps).1,
    ← (@loop_times api' retry' phase' steps).2, ← @loop_slowestStep api retry phase steps,
    ← @loop_slowestStep api' retry' phase' steps, ← @loop_slowestPhase api retry phase steps,
    ← @loop_slowestPhase api' retry' phase' steps]
  exact and_iff_right hshared

theorem diagnosticsSummary_analysis (run : StoredRun) : (diagnosticsSummary run).analysis =
    withOverhead run.durationMs (loop ownResponse recordedBackoff
      (fun step => projectedSlowestTimingPhase step.timing) run.steps) := by
  rw [diagnosticsSummary, List.foldl_map]
  rfl

theorem sum_anyResponse_eq_iff (steps : List StoredStep) :
    (steps.map anyResponse).sum = (steps.map ownResponse).sum ↔
      (steps.map attemptResponse).sum = 0 := by
  rw [List.map_congr_left fun step _ => anyResponse_eq step, List.sum_map_add]
  omega

/-- **When the summary agrees** with the full diagnostics: the steps have recorded what their
attempts say, the step with the longest phase has one only, and the run did not fail at a step. -/
theorem summaryAgrees_iff (run : StoredRun) : SummaryAgrees run ↔ Summarized run := by
  have hreport : ∀ entries : StoredStep → List (String × Json),
      diagnostics entries run = diagnosticsSummary run ↔
        ((run.steps.map attemptResponse).sum = 0 ∧
          (run.steps.map attemptsBackoff).sum = (run.steps.map recordedBackoff).sum ∧
          stepView anyResponse (leader 0 anyResponse run.steps) =
            stepView ownResponse (leader 0 ownResponse run.steps) ∧
          (leader 0 (fun step => (slowestTimingPhase (entries step)).2) run.steps).elim ("", 0)
              (fun step => slowestTimingPhase (entries step)) =
            (leader 0 (fun step => (projectedSlowestTimingPhase step.timing).2) run.steps).elim
              ("", 0) fun step => projectedSlowestTimingPhase step.timing) ∧
        primaryFailure run = primaryFailure { run with steps := [] } := by
    intro entries
    rw [← sum_anyResponse_eq_iff, ← withOverhead_loop_eq_iff run.durationMs run.steps,
      ← diagnosticsSummary_analysis]
    exact Report.mk.injEq .. ▸ Iff.rfl
  constructor
  · intro h
    obtain ⟨⟨hresponse, hbackoff, hstep, -⟩, hfailure⟩ :=
      (hreport fun step => step.timing).mp (h _ fun step _ => .refl _)
    refine ⟨hresponse, (slowestStep_eq_iff _).mp hstep, hbackoff, ?_,
      primaryFailure_eq_iff.mp hfailure⟩
    exact slowestPhase_eq_iff.mp fun entries hentries =>
      ((hreport entries).mp (h entries hentries)).1.2.2.2
  · intro h entries hentries
    exact (hreport entries).mpr ⟨⟨h.response, h.backoff, (slowestStep_eq_iff _).mpr h.slowestStep,
      slowestPhase_eq_iff.mpr h.slowestPhase entries hentries⟩,
      primaryFailure_eq_iff.mpr h.failure⟩

def failedAtLogin : StoredRun where
  status := .failed
  failureCategory := "ASSERTION_FAILED"
  failureReason := "Expected 200."
  failedStepId := "login"
  durationMs := 100
  steps := [{
    id := 0, monitorRunId := 0, stepDefinitionId := "login", stepOrder := 1, stepName := "Login"
    stepType := "HTTP", status := .failed, attemptCount := 1, durationMs := 100, timing := []
    document := "", failureCategory := "ASSERTION_FAILED", attempts := [], assertions := []
    distinct := List.nodup_nil }]

/-- The summary does not know the name of the step. -/
theorem step_unnamed : ¬ ∀ run : StoredRun, run.status.isFinal = true → SummaryAgrees run := by
  intro hall
  have hagrees := hall failedAtLogin rfl (fun step => step.timing) fun step _ => .refl _
  have hfailure :
      primaryFailure failedAtLogin = primaryFailure { failedAtLogin with steps := [] } :=
    congrArg Report.primaryFailure hagrees
  obtain hunfailed | hsilent := primaryFailure_eq_iff.mp hfailure
  · cases hunfailed
  · exact absurd (hsilent _ rfl).stepName (by decide)

end Readers

end Rhythm.Runs.Diagnostics
