import Rhythm.Dynatrace.Coverage
import Rhythm.Suites.SuiteExecution

/-!
# Rhythm.Suites.ServiceCoverage

Which services a Dynatrace check of a suite looks at.  The branch of `runCheck`
makes one query, for the first service that the check lists, by all rules of
the configuration.  A deployment validation makes one comparison for each listed
service, by the selected rules.

`infrastructureCheck_covers_iff`: a check succeeds only if none of its services
ended badly exactly when it lists no second service.
-/

namespace Rhythm.Suites.SuiteExecution

open Dynatrace

/-! ## The query of a check -/

/-- A check of an application's infrastructure, with the fields that its query is made of. -/
structure InfrastructureCheck extends Check where
  environmentBindingId : String
  serviceIds : List String
  ruleIds : List String
  isInfrastructure : kind = .dynatraceInfrastructure

/-- The service that `runCheck` queries: the first one, or none. -/
def InfrastructureCheck.queriedService (check : InfrastructureCheck) : String :=
  check.serviceIds.headD ""

/-- What is queried for a service: from the start of the deployment, or fifteen minutes. -/
def windowInput (now : Time) (deploymentStart : Option Time) (serviceID : String) : QueryInput where
  serviceId := serviceID
  timeFrom := deploymentStart.getD (now - 15 * 60 * 1000)
  timeTo := now

/-- The services that a query of a check calls, and the configuration that it reads. -/
structure Infrastructure where
  store : RunStore
  upstream : Upstream
  configuration : Except String QueryConfiguration

/-- The answer that `case "DYNATRACE_INFRASTRUCTURE"` works with; `none` is `s.dynatrace == nil`. -/
def InfrastructureCheck.answer (check : InfrastructureCheck) (dynatrace : Option Infrastructure)
    (now : Time) (deploymentStart : Option Time) : DynatraceAnswer :=
  match dynatrace with
  | none => .unavailable
  | some services =>
    let (run, queryErr) := query services.store services.upstream services.configuration
      (windowInput now deploymentStart check.queriedService)
    .queried run.toRun queryErr

def runInfrastructureCheck (call : Call) (stage : Stage) (check : InfrastructureCheck)
    (answers : Answers) (dynatrace : Option Infrastructure) (now : Time)
    (deploymentStart : Option Time) : CheckResult :=
  runCheck call stage check.toCheck
    { answers with dynatrace := check.answer dynatrace now deploymentStart }

/-! ## What each service would have ended with -/

/-- The configuration with the rules that a check selects. -/
def selectRules (ruleIDs : List String) (config : QueryConfiguration) : QueryConfiguration :=
  { config with rules := selectedRules config.rules ruleIDs }

/-- The query of a service, evaluated with the selected rules. -/
def Infrastructure.serviceQuery (services : Infrastructure) (ruleIDs : List String)
    (input : QueryInput) : QueriedRun × Option String :=
  query services.store services.upstream (services.configuration.map (selectRules ruleIDs)) input

/-- The query of a service did not end in `BLOCK`, `ERROR` or `NO_DATA`. -/
def Infrastructure.EndedWell (services : Infrastructure) (ruleIDs : List String)
    (input : QueryInput) : Prop :=
  (services.serviceQuery ruleIDs input).2 = none ∧
    (services.serviceQuery ruleIDs input).1.decision ≠ "BLOCK" ∧
    (services.serviceQuery ruleIDs input).1.status ≠ "ERROR" ∧
    (services.serviceQuery ruleIDs input).1.status ≠ "NO_DATA"

/-! ## Fewer rules -/

section Rules

variable {upstream : Upstream} {config : QueryConfiguration} {input : QueryInput}
  {rules : List Rule} {results : List RuleResult} {verdict : String × String}
  {expected covered : Nat}

theorem queryPlatforms_rules (prepared : Prepared) (platforms : List String) :
    queryPlatforms upstream { config with rules := rules } input prepared platforms =
      queryPlatforms upstream config input prepared platforms := by
  induction platforms with
  | nil => rfl
  | cons platform platforms ih =>
    have hplatform : queryPlatform upstream { config with rules := rules } input prepared platform =
        queryPlatform upstream config input prepared platform := by
      rw [queryPlatform, queryPlatform]
    rw [queryPlatforms, queryPlatforms, hplatform, ih]

theorem collect_rules : collect upstream { config with rules := rules } input =
    collect upstream config input := by
  have hprepare : preparePlatforms upstream { config with rules := rules } input =
      preparePlatforms upstream config input := rfl
  rw [collect, collect, hprepare]
  cases preparePlatforms upstream config input with
  | error failure => rfl
  | ok prepared => exact queryPlatforms_rules prepared prepared.platforms

theorem classifyResults_allow (h : (classifyResults results verdict).2 = "ALLOW") :
    (∀ result ∈ results, result.Passes) ∧ verdict.2 = "ALLOW" := by
  induction results generalizing verdict with
  | nil => exact ⟨by simp, h⟩
  | cons result results ih =>
    rw [classifyResults] at h
    by_cases hfails : result.status = "FAIL" ∨ result.status = "NO_DATA"
    · rw [if_pos hfails] at h
      split at h
      · simp at h
      · exact absurd (ih h).2 (by decide)
    · rw [if_neg hfails] at h
      obtain ⟨hpasses, hverdict⟩ := ih h
      exact ⟨List.forall_mem_cons.mpr ⟨hfails, hpasses⟩, hverdict⟩

theorem classifyResults_decision
    (h : verdict.2 = "ALLOW" ∨ verdict.2 = "ALLOW_WITH_WARNINGS" ∨ verdict.2 = "BLOCK") :
    (classifyResults results verdict).2 = "ALLOW" ∨
      (classifyResults results verdict).2 = "ALLOW_WITH_WARNINGS" ∨
      (classifyResults results verdict).2 = "BLOCK" := by
  induction results generalizing verdict with
  | nil => exact h
  | cons result results ih =>
    rw [classifyResults]
    split
    · split
      · exact Or.inr (Or.inr rfl)
      · exact ih (Or.inr (Or.inl rfl))
    · exact ih h

theorem classifyRun_decision : (classifyRun expected covered results).2 = "ALLOW" ∨
    (classifyRun expected covered results).2 = "ALLOW_WITH_WARNINGS" ∨
    (classifyRun expected covered results).2 = "BLOCK" := by
  refine classifyResults_decision ?_
  split
  · exact Or.inr (Or.inl rfl)
  · split
    · exact Or.inr (Or.inl rfl)
    · exact Or.inl rfl

theorem classifyRun_of_allow {fewer : List RuleResult}
    (h : (classifyRun expected covered results).2 = "ALLOW") (hsubset : fewer ⊆ results) :
    classifyRun expected covered fewer = ("PASS", "ALLOW") := by
  have hpasses := (classifyResults_allow h).1
  obtain ⟨hexpected, hcovered, hle⟩ := (classifyRun_allow_iff hpasses).mp h
  rw [classifyRun_of_passes fun result hresult => hpasses result (hsubset hresult),
    if_neg (by omega), if_neg (by omega)]

end Rules

/-! ## The first service -/

section First

variable {services : Infrastructure} {ruleIDs : List String} {input : QueryInput}

theorem endedWell_of_allow {config : QueryConfiguration} {run : QueriedRun}
    (hconfig : services.configuration = .ok config)
    (hquery : query services.store services.upstream (.ok config) input = (run, none))
    (hallow : run.decision = "ALLOW") : services.EndedWell ruleIDs input := by
  obtain ⟨answers, hcollect, rfl⟩ := query_ok hquery
  have hpersist : services.store.persistFailure = none := by
    cases hfailure : services.store.persistFailure with
    | none => rfl
    | some message => simp [query, hcollect, hfailure] at hquery
  have hselected : services.serviceQuery ruleIDs input =
      (completedRun services.store.newId (selectRules ruleIDs config) input answers, none) := by
    rw [Infrastructure.serviceQuery, hconfig]
    simp only [Except.map, query]
    rw [show collect services.upstream (selectRules ruleIDs config) input = .ok answers from
      collect_rules.trans hcollect]
    simp only [hpersist]
  have hsubset : evaluateRules (selectedRules config.rules ruleIDs) input.serviceId
      (completedRun services.store.newId config input answers).summary
      (completedRun services.store.newId config input answers).coveragePercent none ⊆
        evaluateRules config.rules input.serviceId
          (completedRun services.store.newId config input answers).summary
          (completedRun services.store.newId config input answers).coveragePercent none := by
    intro result hresult
    obtain ⟨rule, hrule, happlies⟩ := mem_evaluateRules.mp hresult
    exact mem_evaluateRules.mpr ⟨rule, selectedRules_subset config.rules ruleIDs hrule, happlies⟩
  have hverdict := classifyRun_of_allow hallow hsubset
  have hstatus : (completedRun services.store.newId (selectRules ruleIDs config) input
      answers).status = "PASS" := congrArg Prod.fst hverdict
  have hdecision : (completedRun services.store.newId (selectRules ruleIDs config) input
      answers).decision = "ALLOW" := congrArg Prod.snd hverdict
  rw [Infrastructure.EndedWell, hselected]
  exact ⟨rfl, by rw [hdecision]; decide, by rw [hstatus]; decide, by rw [hstatus]; decide⟩

theorem runDynatraceCheck_success_iff {check : Check} {result : CheckResult} {run : Run}
    {queryErr : Option String} (hresult : result.status ≠ "SUCCESS") :
    (runDynatraceCheck check result (.queried run queryErr)).status = "SUCCESS" ↔
      queryErr = none ∧ run.decision ≠ "BLOCK" ∧ run.decision ≠ "ALLOW_WITH_WARNINGS" := by
  grind [runDynatraceCheck, CheckResult.withFailure]

theorem runInfrastructureCheck_success_iff {call : Call} {stage : Stage}
    {check : InfrastructureCheck} {answers : Answers} {dynatrace : Option Infrastructure}
    {now : Time} {deploymentStart : Option Time} :
    (runInfrastructureCheck call stage check answers dynatrace now deploymentStart).status =
        "SUCCESS" ↔
      ∃ services config run, dynatrace = some services ∧ services.configuration = .ok config ∧
        query services.store services.upstream (.ok config)
          (windowInput now deploymentStart check.queriedService) = (run, none) ∧
        run.decision = "ALLOW" := by
  have hrun : (runInfrastructureCheck call stage check answers dynatrace now
      deploymentStart).status = (runDynatraceCheck check.toCheck
        (startedResult stage check.toCheck)
        (check.answer dynatrace now deploymentStart)).status := by
    rw [runInfrastructureCheck, runCheck]
    simp only [check.isInfrastructure]
  have hstarted : (startedResult stage check.toCheck).status ≠ "SUCCESS" := by
    show "FAILED" ≠ "SUCCESS"
    decide
  rw [hrun]
  cases dynatrace with
  | none =>
    simp only [InfrastructureCheck.answer, runDynatraceCheck, CheckResult.withFailure, hstarted,
      false_iff]
    rintro ⟨services, config, run, hnone, -⟩
    simp at hnone
  | some services =>
    simp only [InfrastructureCheck.answer, Option.some.injEq]
    rw [runDynatraceCheck_success_iff hstarted]
    constructor
    · rintro ⟨herror, hblock, hwarnings⟩
      cases hconfig : services.configuration with
      | error message => simp [hconfig, query] at herror
      | ok config =>
        rw [hconfig] at herror hblock hwarnings
        have hquery : query services.store services.upstream (.ok config)
            (windowInput now deploymentStart check.queriedService) =
              ((query services.store services.upstream (.ok config)
                (windowInput now deploymentStart check.queriedService)).1, none) :=
          Prod.ext rfl herror
        obtain ⟨collected, -, hcompleted⟩ := query_ok hquery
        refine ⟨services, config, _, rfl, hconfig, hquery, ?_⟩
        rw [hcompleted] at hblock hwarnings ⊢
        rcases classifyRun_decision with hdecision | hdecision | hdecision
        · exact hdecision
        · exact absurd hdecision hwarnings
        · exact absurd hdecision hblock
    · grind

end First

/-! ## A second service -/

section Second

/-- An application whose service `other` names a credential that is gone. -/
def orphanConfiguration (other : String) : QueryConfiguration :=
  { containerConfiguration with
    rules := []
    serviceOverrides := [⟨other, "gone", [], ⟨"", "", "", "", "", ""⟩⟩] }

def orphanUpstream : Upstream :=
  { containerUpstream with
    library := { containerUpstream.library with
      resolveSecret := fun reference => if reference = "gone" then none else some reference } }

def orphanServices (other : String) : Infrastructure :=
  ⟨containerStore, orphanUpstream, .ok (orphanConfiguration other)⟩

def lastWindow (serviceID : String) : QueryInput := windowInput 1000000 none serviceID

def orphanPrepared : Prepared where
  connection := ⟨"https://dynatrace.example", "token"⟩
  mappings := normalizedMetricMappings containerConfiguration.metricMappings
  platforms := ["HYDRA"]
  zones := "mzName(\"checkout\")"

variable {service other : String}

theorem connection_orphan (config : QueryConfiguration) (serviceID : String) :
    connection orphanUpstream.library config serviceID =
      if credentialReference config containerProfile serviceID = "gone" then
        .error "Dynatrace credential could not be resolved"
      else .ok ⟨"https://dynatrace.example",
        credentialReference config containerProfile serviceID⟩ := by
  have hprofile : (orphanUpstream.library.profile.filter fun profile =>
      profile.kind = "TELEMETRY" ∧ profile.profileType = "DYNATRACE" ∧ profile.active) =
        some containerProfile := by decide +kernel
  have hurl : Text.trimSpace containerProfile.baseUrl = "https://dynatrace.example" := by
    decide +kernel
  have hmaterial : orphanUpstream.library.materialFailure = none := rfl
  have hresolve : ∀ reference, orphanUpstream.library.resolveSecret reference =
      if reference = "gone" then none else some reference := fun _ => rfl
  rw [connection, hprofile]
  simp only [hresolve, hmaterial, hurl]
  by_cases hgone : credentialReference config containerProfile serviceID = "gone"
  · rw [if_pos hgone, if_pos hgone]
  · rw [if_neg hgone, if_neg hgone]

theorem lastWindow_valid (serviceID : String) : ¬ ((lastWindow serviceID).timeFrom = 0 ∨
    (lastWindow serviceID).timeTo = 0 ∨
      (lastWindow serviceID).timeTo ≤ (lastWindow serviceID).timeFrom) := by
  show ¬ ((100000 : Nat) = 0 ∨ (1000000 : Nat) = 0 ∨ (1000000 : Nat) ≤ 100000)
  decide

theorem lastWindow_short (serviceID : String) :
    ¬ (lastWindow serviceID).timeTo - (lastWindow serviceID).timeFrom > 30 * 24 * 3600000 := by
  show ¬ (1000000 - 100000 : Nat) > 30 * 24 * 3600000
  decide

theorem preparePlatforms_orphan (hne : other ≠ service) :
    preparePlatforms orphanUpstream (orphanConfiguration other) (lastWindow service) =
      .ok orphanPrepared := by
  have hcredential : credentialReference (orphanConfiguration other) containerProfile service =
      "token" := by
    have hnone : ((orphanConfiguration other).serviceOverrides.find? fun override =>
        override.serviceId = service ∧ override.credentialSecretRef ≠ "") = none := by
      simp [orphanConfiguration, hne]
    rw [credentialReference, hnone]
    show (if ("" : String) = "" then Text.trimSpace "token" else "") = "token"
    decide +kernel
  have hconnection : connection orphanUpstream.library (orphanConfiguration other) service =
      .ok orphanPrepared.connection := by
    rw [connection_orphan, hcredential]
    rfl
  have hoverrides : serviceOverrides (orphanConfiguration other) service = [] := by
    simp [serviceOverrides, orphanConfiguration, hne]
  have hmappings : serviceMappings (orphanConfiguration other) service =
      orphanPrepared.mappings := by
    rw [serviceMappings, hoverrides]
    rfl
  have hzones : managementZoneSelector (serviceZones (orphanConfiguration other) service) =
      orphanPrepared.zones := by
    rw [serviceZones, hoverrides]
    show managementZoneSelector ["checkout"] = "mzName(\"checkout\")"
    decide +kernel
  have hplatforms : uniqueUpper (orphanConfiguration other).platforms =
      orphanPrepared.platforms := by
    show uniqueUpper ["HYDRA"] = ["HYDRA"]
    decide +kernel
  have hplatform : Text.toUpper (Text.trimSpace (lastWindow service).platform) = "" := by
    show Text.toUpper (Text.trimSpace "") = ""
    decide +kernel
  have hservice : (lastWindow service).serviceId = service := rfl
  rw [preparePlatforms, if_neg (lastWindow_valid _), if_neg (lastWindow_short _), hservice,
    hconnection]
  simp only [hplatform, hmappings, hzones, ne_eq, not_true_eq_false, false_and, if_false,
    hplatforms]
  rw [if_neg (by decide), if_neg (by decide)]

theorem collect_orphan (hne : other ≠ service) :
    collect orphanUpstream (orphanConfiguration other) (lastWindow service) =
      .ok containerAnswers := by
  have hplatform : queryPlatform orphanUpstream (orphanConfiguration other) (lastWindow service)
      orphanPrepared "HYDRA" =
        queryPlatform orphanUpstream containerConfiguration (lastWindow "") orphanPrepared
          "HYDRA" := by
    have hselector : ∀ (mappings : List ResourceMapping) (serviceID : String),
        selectedHostEntitySelector mappings serviceID "HYDRA" = "" := fun _ _ =>
      if_pos (by decide)
    simp only [queryPlatform, hselector]
    rfl
  have hcontainer : queryPlatforms orphanUpstream containerConfiguration (lastWindow "")
      orphanPrepared ["HYDRA"] = .ok containerAnswers := by decide +kernel
  rw [← hcontainer, collect, preparePlatforms_orphan hne]
  show queryPlatforms _ _ _ _ ["HYDRA"] = _
  simp only [queryPlatforms, hplatform]

theorem query_orphan (hne : other ≠ service) : ∃ run,
    query containerStore orphanUpstream (.ok (orphanConfiguration other)) (lastWindow service) =
      (run, none) ∧ run.decision = "ALLOW" := by
  have hquery : query containerStore orphanUpstream (.ok (orphanConfiguration other))
      (lastWindow service) = (completedRun "run-1" (orphanConfiguration other)
        (lastWindow service) containerAnswers, none) := by
    rw [query, collect_orphan hne]
    rfl
  have hallow : (classifyRun (expectedSeries containerAnswers)
      (coveredSeries (allSeries containerAnswers)) []).2 = "ALLOW" := by decide +kernel
  exact ⟨_, hquery, hallow⟩

theorem collect_orphan_self (other : String) (ruleIDs : List String) : ∃ reason,
    collect orphanUpstream (selectRules ruleIDs (orphanConfiguration other)) (lastWindow other) =
      .error (.failed "SECRET_RESOLUTION" reason) := by
  have hcredential : credentialReference (selectRules ruleIDs (orphanConfiguration other))
      containerProfile other = "gone" := by
    grind [selectRules, orphanConfiguration, credentialReference, Text.trimSpace]
  have hservice : (lastWindow other).serviceId = other := rfl
  rw [collect, preparePlatforms, if_neg (lastWindow_valid _), if_neg (lastWindow_short _),
    hservice, connection_orphan, hcredential]
  exact ⟨_, rfl⟩

theorem not_endedWell_orphan (ruleIDs : List String) :
    ¬ (orphanServices other).EndedWell ruleIDs (lastWindow other) := by
  obtain ⟨reason, hcollect⟩ := collect_orphan_self other ruleIDs
  have hquery : ((orphanServices other).serviceQuery ruleIDs (lastWindow other)).2 =
      some reason := by
    simp only [Infrastructure.serviceQuery, orphanServices, Except.map, query, hcollect]
    rfl
  rintro ⟨herror, -⟩
  rw [hquery] at herror
  simp at herror

end Second

/-! ## Coverage -/

/-- The check succeeds only if the query of each listed service ended well. -/
def CoversServices (call : Call) (stage : Stage) (check : InfrastructureCheck)
    (answers : Answers) : Prop :=
  ∀ (dynatrace : Option Infrastructure) (now : Time) (deploymentStart : Option Time),
    (runInfrastructureCheck call stage check answers dynatrace now deploymentStart).status =
      "SUCCESS" →
    ∃ services, dynatrace = some services ∧ ∀ serviceID ∈ check.serviceIds,
      services.EndedWell check.ruleIds (windowInput now deploymentStart serviceID)

theorem not_coversServices {call : Call} {stage : Stage} {check : InfrastructureCheck}
    {answers : Answers} {serviceID : String} (hmem : serviceID ∈ check.serviceIds)
    (hne : serviceID ≠ check.queriedService) : ¬ CoversServices call stage check answers := by
  intro hcovers
  obtain ⟨run, hquery, hallow⟩ := query_orphan hne
  have hsuccess : (runInfrastructureCheck call stage check answers
      (some (orphanServices serviceID)) 1000000 none).status = "SUCCESS" :=
    runInfrastructureCheck_success_iff.mpr
      ⟨orphanServices serviceID, orphanConfiguration serviceID, run, rfl, rfl, hquery, hallow⟩
  obtain ⟨services, hservices, hended⟩ := hcovers _ _ _ hsuccess
  rw [Option.some.injEq] at hservices
  subst hservices
  exact not_endedWell_orphan check.ruleIds (hended serviceID hmem)

/-- **All services.**  A Dynatrace check of a suite covers the services that it lists exactly if
they are all the first one. -/
theorem infrastructureCheck_covers_iff (call : Call) (stage : Stage) (check : InfrastructureCheck)
    (answers : Answers) :
    CoversServices call stage check answers ↔
      ∀ serviceID ∈ check.serviceIds, serviceID = check.queriedService := by
  constructor
  · intro hcovers serviceID hmem
    by_contra hne
    exact not_coversServices hmem hne hcovers
  · intro hfirst dynatrace now deploymentStart hsuccess
    obtain ⟨services, config, run, rfl, hconfig, hquery, hallow⟩ :=
      runInfrastructureCheck_success_iff.mp hsuccess
    refine ⟨services, rfl, fun serviceID hmem => ?_⟩
    rw [hfirst serviceID hmem]
    exact endedWell_of_allow hconfig hquery hallow

/-- A check of the services `checkout` and `billing`. -/
def twoServices : InfrastructureCheck :=
  { sampleCheck .dynatraceInfrastructure with
    environmentBindingId := "binding-1"
    serviceIds := ["checkout", "billing"]
    ruleIds := []
    isInfrastructure := rfl }

/-- It succeeds although the query of `billing` failed. -/
theorem twoServices_not_covered :
    ¬ CoversServices (sampleCall .dynatraceInfrastructure) ⟨"stage-1", "Smoke", []⟩ twoServices
      sampleAnswers :=
  have hmem : "billing" ∈ twoServices.serviceIds := by decide
  not_coversServices hmem (by decide)

end Rhythm.Suites.SuiteExecution
