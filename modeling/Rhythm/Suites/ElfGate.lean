import Rhythm.Elf.Run
import Rhythm.Suites.Decision
import Rhythm.Suites.SuiteExecution

/-!
# Rhythm.Suites.ElfGate

The gate of a blocking ELF query.  A suite (`runElfCheck`) and a deployment validation
(`runDeploymentELF`) execute the query of a check and take over whether it blocks.  Both
read the gate mode from the run that the query returns; a query that returns none leaves
the flag of the check.

`blockingElf_blocks_iff`: so a blocking query that does not pass blocks exactly if it ran,
or its check is required by itself.
-/

namespace Rhythm.Suites.SuiteExecution

open Text

/-! ## The query of a deployment -/

/-- What the ELF service answers to the check of a deployment validation. -/
inductive DeploymentElfAnswer where
  /-- `s.elf == nil` -/
  | unavailable
  /-- `GetQuery` fails. -/
  | loadFailed (message : String)
  /-- The current revision of the query, and what `elf.Run` answers. -/
  | loaded (currentRevisionId : String) (answer : Except String ElfRun)

/-- `runDeploymentELF`; the configuration names the revision that was queued. -/
def runDeploymentELF (elfRevisionIds : String → String) (stage : Stage) (check : Check)
    (durationMs : Int) (answer : DeploymentElfAnswer) : CheckResult :=
  let result : CheckResult :=
    { stageId := stage.id
      stageName := stage.name
      checkId := check.id
      kind := check.kind
      monitorId := ""
      queryId := check.queryId
      name := check.name
      required := check.required
      status := "FAILED" }
  let changed := result.withFailure "ELF_REVISION_CHANGED"
    "The ELF query changed after this deployment validation was queued."
  match answer with
  | .unavailable => result.withFailure "ELF_UNAVAILABLE" "ELF execution is unavailable."
  | .loadFailed _ => changed
  | .loaded currentRevisionId answer =>
    if currentRevisionId ≠ elfRevisionIds check.queryId then changed
    else
      let result := { result with durationMs := durationMs }
      match answer with
      | .error message => result.withFailure "ELF_EXECUTION_ERROR" (safeError message)
      | .ok run =>
        let result := { result with
          elfRunId := run.id
          queryRevisionId := run.revisionId
          applicationId := run.applicationId
          serviceId := run.serviceId
          resolvedIndex := run.resolvedIndex
          gateMode := run.gateMode
          decision := run.decision
          hitCount := run.hitCount
          timeFrom := some run.timeFrom
          timeTo := some run.timeTo
          required := run.gateMode = "BLOCKING" }
        if run.status = "SUCCESS" ∧ run.decision = "PASS" then { result with status := "SUCCESS" }
        else result.withFailure run.failureCategory run.failureReason

def CheckResult.evidence (result : CheckResult) : Suites.CheckResult where
  checkId := result.checkId
  queryId := result.queryId
  name := result.name
  required := result.required
  status := result.status

/-! ## Runs that returned -/

def ElfAnswer.ran? : ElfAnswer → Option ElfRun
  | .ran run => some run
  | _ => none

/-- The run that the query of a deployment's check returned, in the revision that was queued. -/
def DeploymentElfAnswer.ran? (queued : String) : DeploymentElfAnswer → Option ElfRun
  | .loaded currentRevisionId (.ok run) => if currentRevisionId = queued then some run else none
  | _ => none

def ElfRun.Passes (run : ElfRun) : Prop := run.status = "SUCCESS" ∧ run.decision = "PASS"

instance (run : ElfRun) : Decidable run.Passes := inferInstanceAs (Decidable (_ ∧ _))

/-- A blocking query did not pass: a run that it returned has its gate mode, and failed. -/
def BlockingFailure (ran : Option ElfRun) : Prop :=
  ∀ run, ran = some run → run.gateMode = "BLOCKING" ∧ ¬run.Passes

/-- What a result takes over from the run of its query. -/
structure GatedBy (result : CheckResult) (check : Check) (ran : Option ElfRun) : Prop where
  required : result.required =
    match ran with
    | some run => decide (run.gateMode = "BLOCKING")
    | none => check.required
  succeeds : result.status = "SUCCESS" ↔ ∃ run, ran = some run ∧ run.Passes

section Gate

variable {result : CheckResult} {check : Check} {ran : Option ElfRun}

theorem gatedBy_none (hrequired : result.required = check.required)
    (hstatus : result.status = "FAILED") : GatedBy result check none where
  required := hrequired
  succeeds := by
    constructor
    · intro hsuccess
      rw [hstatus] at hsuccess
      contradiction
    · rintro ⟨run, hrun, -⟩
      contradiction

theorem gatedBy_some {run : ElfRun}
    (hrequired : result.required = decide (run.gateMode = "BLOCKING"))
    (hsucceeds : result.status = "SUCCESS" ↔ run.Passes) : GatedBy result check (some run) where
  required := hrequired
  succeeds := by simpa using hsucceeds

theorem gatedBy_runElfCheck (hrequired : result.required = check.required)
    (hstatus : result.status = "FAILED") (answer : ElfAnswer) :
    GatedBy (runElfCheck result answer) check answer.ran? := by
  cases answer with
  | unavailable | failed message => exact gatedBy_none hrequired hstatus
  | ran run =>
    refine gatedBy_some (runElfCheck_ran result run).2 ?_
    rw [runElfCheck]
    split
    · rename_i hpasses
      exact iff_of_true rfl hpasses
    · rename_i hpasses
      exact iff_of_false (by simp) hpasses

theorem gatedBy_runCheck (call : Call) (stage : Stage) (answers : Answers)
    (hkind : check.kind = .elfQuery) :
    GatedBy (runCheck call stage check answers) check answers.elf.ran? := by
  have hgated : GatedBy (runElfCheck (startedResult stage check) answers.elf) check
      answers.elf.ran? := gatedBy_runElfCheck rfl rfl answers.elf
  simp only [runCheck, hkind]
  exact ⟨hgated.required, hgated.succeeds⟩

theorem gatedBy_runDeploymentELF (elfRevisionIds : String → String) (stage : Stage) (check : Check)
    (durationMs : Int) (answer : DeploymentElfAnswer) :
    GatedBy (runDeploymentELF elfRevisionIds stage check durationMs answer) check
      (answer.ran? (elfRevisionIds check.queryId)) := by
  cases answer with
  | unavailable | loadFailed message => exact gatedBy_none rfl rfl
  | loaded currentRevisionId answer =>
    by_cases hrevision : currentRevisionId = elfRevisionIds check.queryId
    · cases answer with
      | error message =>
        simp only [runDeploymentELF, hrevision, ne_eq, not_true_eq_false, if_false]
        exact gatedBy_none rfl rfl
      | ok run =>
        simp only [runDeploymentELF, DeploymentElfAnswer.ran?, hrevision, ne_eq,
          not_true_eq_false, if_false, if_true]
        split
        · rename_i hpasses
          exact gatedBy_some rfl (iff_of_true rfl hpasses)
        · rename_i hpasses
          exact gatedBy_some rfl (iff_of_false (by simp [CheckResult.withFailure]) hpasses)
    · have hran : (DeploymentElfAnswer.loaded currentRevisionId answer).ran?
          (elfRevisionIds check.queryId) = none := by
        cases answer with
        | error message => rfl
        | ok run => exact if_neg hrevision
      rw [hran]
      simp only [runDeploymentELF, ne_eq, hrevision, not_false_eq_true, if_true]
      exact gatedBy_none rfl rfl

/-- A blocking query that fails makes its result a required failure exactly if it ran, or its check
is required by itself. -/
theorem GatedBy.requiredFailure_iff (h : GatedBy result check ran)
    (hblocking : BlockingFailure ran) :
    (result.required = true ∧ result.status ≠ "SUCCESS") ↔
      ran ≠ none ∨ check.required = true := by
  have hfailed : result.status ≠ "SUCCESS" := by
    rw [Ne, h.succeeds]
    rintro ⟨run, hran, hpasses⟩
    exact (hblocking run hran).2 hpasses
  have hrequired := h.required
  cases ran with
  | none => simp [hrequired, hfailed]
  | some run =>
    have hmode := (hblocking run rfl).1
    simp [hrequired, hfailed, hmode]

end Gate

/-! ## The decisions -/

/-- The result is a required failure, and a suite run that has it ends with a BLOCK. -/
def BlocksSuite (call : Call) (result : CheckResult) : Prop :=
  (result.required = true ∧ result.status ≠ "SUCCESS") ∧
    ∀ as s decision, runActions (step call) (initial call.suite) as = some s →
      result ∈ s.results → s.decision? = some decision → decision = .block

/-- The result is a required failure, and the decision of a deployment that has it is BLOCK. -/
def BlocksDeployment (result : CheckResult) : Prop :=
  (result.required = true ∧ result.status ≠ "SUCCESS") ∧
    ∀ evidence : Evidence, result.evidence ∈ evidence.elfResults →
      (deploymentDecisionWithBrowser evidence).1 = .block

theorem blocksSuite_iff {call : Call} {result : CheckResult} :
    BlocksSuite call result ↔ result.required = true ∧ result.status ≠ "SUCCESS" := by
  refine ⟨fun h => h.1, fun hfailure => ⟨hfailure, fun as s decision hrun hmem hdecision => ?_⟩⟩
  exact (inv_of_run hrun).block_of_failure hdecision ⟨result, hmem, hfailure⟩

theorem blocksDeployment_iff {result : CheckResult} :
    BlocksDeployment result ↔ result.required = true ∧ result.status ≠ "SUCCESS" := by
  refine ⟨fun h => h.1, fun hfailure => ⟨hfailure, fun evidence hmem => ?_⟩⟩
  have hblocks : result.evidence.blocks = true := by
    simp [CheckResult.evidence, Suites.CheckResult.blocks, hfailure]
  have hany : evidence.elfResults.any Suites.CheckResult.blocks = true :=
    List.any_eq_true.mpr ⟨_, hmem, hblocks⟩
  rw [decision_eq_block_iff, Evidence.blocks, hany]
  simp

/-- **A blocking query that does not pass blocks exactly if it ran, or its check is required by
itself**: in a suite, and in a deployment, where only the revision that was queued is run. -/
theorem blockingElf_blocks_iff (stage : Stage) (check : Check) :
    (∀ (call : Call) (answers : Answers),
        check.kind = .elfQuery → BlockingFailure answers.elf.ran? →
        (BlocksSuite call (runCheck call stage check answers) ↔
          answers.elf.ran? ≠ none ∨ check.required = true)) ∧
      ∀ (elfRevisionIds : String → String) (durationMs : Int) (answer : DeploymentElfAnswer),
        BlockingFailure (answer.ran? (elfRevisionIds check.queryId)) →
        (BlocksDeployment (runDeploymentELF elfRevisionIds stage check durationMs answer) ↔
          answer.ran? (elfRevisionIds check.queryId) ≠ none ∨ check.required = true) := by
  constructor
  · intro call answers hkind hblocking
    rw [blocksSuite_iff]
    exact (gatedBy_runCheck call stage answers hkind).requiredFailure_iff hblocking
  · intro elfRevisionIds durationMs answer hblocking
    rw [blocksDeployment_iff]
    exact (gatedBy_runDeploymentELF elfRevisionIds stage check durationMs
      answer).requiredFailure_iff hblocking

section Sample

def optionalCheck : Check := { sampleCheck .elfQuery with required := false }

def optionalCall : Call :=
  { sampleCall .elfQuery with suite := ⟨[⟨"stage-1", "Smoke", [optionalCheck]⟩], 1, true⟩ }

def blockingFailure : ElfRun := { failedQuery with gateMode := "BLOCKING" }

def answersWith (answer : ElfAnswer) : Answers := { sampleAnswers with elf := answer }

/-- A blocking query that ran blocks, whatever its check says. -/
theorem blockingElf_blocks_iff_failed :
    BlocksSuite optionalCall
        (runCheck optionalCall ⟨"stage-1", "Smoke", [optionalCheck]⟩ optionalCheck
          (answersWith (.ran blockingFailure))) ∧
      BlocksDeployment (runDeploymentELF (fun _ => "revision-1") ⟨"stage-1", "Smoke", []⟩
        optionalCheck 40 (.loaded "revision-1" (.ok blockingFailure))) := by
  have hblocking : BlockingFailure (some blockingFailure) := by
    rintro run ⟨⟩
    exact ⟨rfl, by decide⟩
  constructor
  · exact ((blockingElf_blocks_iff _ _).1 _ (answersWith (.ran blockingFailure)) rfl
      hblocking).mpr (.inl (by simp [answersWith, ElfAnswer.ran?]))
  · refine ((blockingElf_blocks_iff _ _).2 _ _ (.loaded "revision-1" (.ok blockingFailure))
      ?_).mpr (.inl (by simp [DeploymentElfAnswer.ran?]))
    simpa [DeploymentElfAnswer.ran?] using hblocking

/-- A blocking query cannot be run, and its suite is allowed; a deployment is allowed though the
blocking query was replaced by another revision. -/
theorem elf_error_allows :
    (¬∀ (call : Call) (stage : Stage) (check : Check) (answers : Answers),
        check.kind = .elfQuery → BlockingFailure answers.elf.ran? →
        BlocksSuite call (runCheck call stage check answers)) ∧
      (∃ s, runActions (step optionalCall) (initial optionalCall.suite)
          [.start 0 0, .finish 0 0 (answersWith (.failed "i/o timeout")), .endStage,
            .readDeadline, .readCanceled] = some s ∧
        s.decision? = some .allowWithWarnings) ∧
      (deploymentDecisionWithBrowser
        { monitors := []
          browserMonitors := []
          dynatraceResults := []
          elfResults := [(runDeploymentELF (fun _ => "revision-1") ⟨"stage-1", "Smoke", []⟩
            optionalCheck 40 (.loaded "revision-2" (.ok blockingFailure))).evidence]
          alertResults := [] }).1 = .allowWithWarnings := by
  refine ⟨fun hclaim => ?_, ⟨_, rfl, rfl⟩, by decide⟩
  have h := hclaim optionalCall ⟨"stage-1", "Smoke", [optionalCheck]⟩ optionalCheck
    (answersWith (.failed "i/o timeout")) rfl (by rintro run ⟨⟩)
  exact absurd h.1.1 (by decide)

end Sample

end Rhythm.Suites.SuiteExecution
