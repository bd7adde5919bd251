import Mathlib.Data.List.Sort
import Rhythm.Dynatrace.Rules
import Rhythm.Runs.Domain

/-!
# Rhythm.Dynatrace.Query

The query of an application's infrastructure metrics (`Query`): the metrics that
the configuration maps, the series that the provider returns for them on each
platform, their summary, their coverage, and the run that is stored.  The
profile library and the provider are inputs.

A query has three parts: `preparePlatforms` reads the configuration,
`queryPlatforms` collects the answers, and `completedRun` evaluates them.
-/

namespace Rhythm.Dynatrace

open Text Numeric

/-! ## Configuration -/

/-- `MetricMapping`. -/
structure MetricMapping where
  cpu : String
  memory : String
  hydraCpu : String
  hydraMemory : String
  timsCpu : String
  timsMemory : String
  deriving DecidableEq

/-- `ServiceConfig`, with the fields that a query reads. -/
structure ServiceConfig where
  serviceId : String
  credentialSecretRef : String
  managementZones : List String
  metricMappings : MetricMapping
  deriving DecidableEq

/-- `ResourceMapping`, with the fields that a query reads. -/
structure ResourceMapping where
  serviceId : String
  platform : String
  mappingType : String
  value : String
  enabled : Bool
  deriving DecidableEq

/-- `Configuration`, with the fields that a query reads as well. -/
structure QueryConfiguration extends Configuration where
  credentialSecretRef : String
  platforms : List String
  managementZones : List String
  metricMappings : MetricMapping
  resourceMappings : List ResourceMapping
  serviceOverrides : List ServiceConfig
  deriving DecidableEq

/-! ## The connection -/

/-- The telemetry profile of a configuration. -/
structure ConnectionProfile where
  kind : String
  profileType : String
  active : Bool
  baseUrl : String
  tokenSecretRef : String
  deriving DecidableEq

/-- `Connection`; the TLS and proxy material is that of the profile for every service. -/
structure Connection where
  baseUrl : String
  token : String
  deriving DecidableEq

/-- What the profile library answers. -/
structure Library where
  profile : Option ConnectionProfile
  resolveSecret : String → Option String
  /-- The failure of `ResolveTLSProfile` or of `ResolveProxyProfile`. -/
  materialFailure : Option String

/-- The credential of a service, else that of the application, else that of the profile. -/
def credentialReference (config : QueryConfiguration) (profile : ConnectionProfile)
    (serviceID : String) : String :=
  let override := config.serviceOverrides.find? fun override =>
    override.serviceId = serviceID ∧ override.credentialSecretRef ≠ ""
  let secretRef := (override.map (·.credentialSecretRef)).getD config.credentialSecretRef
  if secretRef = "" then trimSpace profile.tokenSecretRef else secretRef

/-- `connection`. -/
def connection (library : Library) (config : QueryConfiguration) (serviceID : String) :
    Except String Connection :=
  match library.profile.filter fun profile =>
      profile.kind = "TELEMETRY" ∧ profile.profileType = "DYNATRACE" ∧ profile.active with
  | none => .error "Dynatrace connection profile is unavailable"
  | some profile =>
    match library.resolveSecret (credentialReference config profile serviceID) with
    | none => .error "Dynatrace credential could not be resolved"
    | some token =>
      match library.materialFailure with
      | some message => .error message
      | none => .ok ⟨trimSpace profile.baseUrl, token⟩

/-! ## Metrics -/

def hydraCPUMetric : String := "builtin:containers.cpu.usagePercent"
def hydraMemoryMetric : String := "builtin:containers.memory.usagePercent"
def timsCPUMetric : String := "builtin:host.cpu.usage"
def timsMemoryMetric : String := "builtin:host.mem.usage"

/-- `value`, or `fallback` when it is the empty text. -/
def orElse (value fallback : String) : String := if value = "" then fallback else value

/-- `normalizedMetricMappings`. -/
def normalizedMetricMappings (input : MetricMapping) : MetricMapping :=
  let timsCpu := orElse input.timsCpu (defaultString input.cpu timsCPUMetric)
  let timsMemory := orElse input.timsMemory (defaultString input.memory timsMemoryMetric)
  { cpu := orElse input.cpu timsCpu
    memory := orElse input.memory timsMemory
    hydraCpu := orElse input.hydraCpu hydraCPUMetric
    hydraMemory := orElse input.hydraMemory hydraMemoryMetric
    timsCpu := timsCpu
    timsMemory := timsMemory }

/-- `emptyMetricMappings`. -/
def emptyMetricMappings (input : MetricMapping) : Bool :=
  input = ⟨"", "", "", "", "", ""⟩

/-- `mergeMetricMappings`. -/
def mergeMetricMappings (base override : MetricMapping) : MetricMapping :=
  normalizedMetricMappings
    { cpu := orElse override.cpu base.cpu
      memory := orElse override.memory base.memory
      hydraCpu := orElse override.hydraCpu base.hydraCpu
      hydraMemory := orElse override.hydraMemory base.hydraMemory
      timsCpu := orElse override.timsCpu base.timsCpu
      timsMemory := orElse override.timsMemory base.timsMemory }

/-- `metricSpec`. -/
structure MetricSpec where
  baseMetric : String
  aggregation : String
  selector : String
  deriving DecidableEq

/-- `metricSpecs`: the averages and the maxima of the mapped metrics. -/
def metricSpecs (platform : String) (mappings : MetricMapping) : List MetricSpec :=
  let mappings := normalizedMetricMappings mappings
  let hydra := platform = "HYDRA"
  let dimension := if hydra then "\"Container\"" else "\"dt.entity.host\""
  let cpu := if hydra then mappings.hydraCpu else mappings.timsCpu
  let memory := if hydra then mappings.hydraMemory else mappings.timsMemory
  ([(cpu, "AVG"), (cpu, "MAX"), (memory, "AVG"), (memory, "MAX")].filter
      fun item => trimSpace item.1 ≠ "").map fun item =>
    { baseMetric := item.1
      aggregation := item.2
      selector := item.1 ++ ":splitBy(" ++ dimension ++ "):" ++ toLower item.2 ++ ":names" }

/-- `MetricDescriptor`, with the field that decides. -/
structure MetricDescriptor where
  aggregationTypes : List String
  deriving DecidableEq

/-- `supportsAggregation`. -/
def supportsAggregation (descriptor : MetricDescriptor) (aggregation : String) : Bool :=
  descriptor.aggregationTypes.any (equalFold · aggregation) || descriptor.aggregationTypes = []

/-! ## Selectors -/

/-- The first of each value that is not empty: the loops of `uniqueUpper` and `uniqueTrimmed`. -/
def uniqueValues : List String → List String → List String
  | [], _ => []
  | value :: values, seen =>
    if value ≠ "" ∧ value ∉ seen then value :: uniqueValues values (value :: seen)
    else uniqueValues values seen

/-- `uniqueUpper`. -/
def uniqueUpper (values : List String) : List String :=
  uniqueValues (values.map fun value => toUpper (trimSpace value)) []

/-- `uniqueTrimmed`. -/
def uniqueTrimmed (values : List String) : List String := uniqueValues (values.map trimSpace) []

/-- `selectorValue`. -/
def selectorValue (value : String) : String :=
  replaceAll (replaceAll (trimSpace value) "\\" "\\\\") "\"" "\\\""

def quotedValues (values : List String) : List String :=
  values.map fun value => "\"" ++ selectorValue value ++ "\""

/-- `managementZoneSelector`. -/
def managementZoneSelector (zones : List String) : String :=
  let zones := uniqueTrimmed zones
  if zones = [] then "" else "mzName(" ++ join ',' (quotedValues zones) ++ ")"

/-- `effectiveMappings`: those of the service, else those of no service. -/
def effectiveMappings (mappings : List ResourceMapping) (serviceID : String) :
    List ResourceMapping :=
  let own := mappings.filter fun mapping =>
    mapping.enabled ∧ mapping.serviceId = serviceID ∧ serviceID ≠ ""
  if own ≠ [] then own
  else mappings.filter fun mapping => mapping.enabled ∧ mapping.serviceId = ""

/-- `selectedHostEntitySelector`. -/
def selectedHostEntitySelector (mappings : List ResourceMapping) (serviceID platform : String) :
    String :=
  if platform ≠ "TIMS" then ""
  else
    let hosts := (effectiveMappings mappings serviceID).filter fun mapping =>
      mapping.enabled ∧ equalFold mapping.platform "TIMS" ∧
        equalFold mapping.mappingType "ENTITY_ID" ∧ trimSpace mapping.value ≠ ""
    if hosts = [] then ""
    else "type(HOST),entityId(" ++ join ',' (quotedValues (hosts.map (·.value))) ++ ")"

/-! ## Series -/

/-- `ResourceMetric`: the values of one series, and the statistics that its provider computed. -/
structure ResourceMetric where
  resourceId : String
  metric : String
  aggregation : String
  selector : String
  statistics : Statistics
  series : List (Option Rat)
  deriving DecidableEq

def ResourceMetric.Covered (metric : ResourceMetric) : Prop := 0 < metric.statistics.sampleCount

instance (metric : ResourceMetric) : Decidable metric.Covered :=
  inferInstanceAs (Decidable (0 < metric.statistics.sampleCount))

/-- `MetricQuery`, with the texts that select the series. -/
structure MetricQuery where
  metricSelector : String
  entitySelector : String
  managementZoneSelector : String
  resolution : String
  timeFrom : Time
  timeTo : Time
  deriving DecidableEq

/-- What the provider answers.  The descriptor of a metric is asked for once in a query. -/
structure Provider where
  metricDescriptor : Connection → String → Except String MetricDescriptor
  queryMetric : Connection → MetricQuery → List ResourceMetric × String × Option String

/-- `QueryInput`. -/
structure QueryInput where
  serviceId : String
  platform : String := ""
  timeFrom : Time
  timeTo : Time
  resolution : String := ""
  deploymentRunId : String := ""
  deriving DecidableEq

/-- The series of one platform and the selectors that they were queried with. -/
structure PlatformAnswer where
  platform : String
  selectors : List String
  series : List ResourceMetric
  correlationId : String
  deriving DecidableEq

/-- How a query ends before its run is complete. -/
inductive QueryFailure where
  /-- An error without a run. -/
  | rejected (message : String)
  /-- `persistFailure`. -/
  | failed (category reason : String)
  deriving DecidableEq

/-- `safeError` of the package: a trimmed text of at most 240 bytes that is not a URL. -/
def safeQueryError (parsesWithHost : String → Bool) (message : String) : String :=
  let message := trimSpace message
  if parsesWithHost message then "Dynatrace request failed."
  else String.ofList (message.toList.take 240)

/-- `categorize`. -/
def categorize (message : String) : String :=
  let message := toLower message
  if contains message "token" ∨ contains message "unauthorized" then "AUTHENTICATION"
  else if contains message "permission" ∨ contains message "forbidden" then "AUTHORIZATION"
  else if contains message "rate limit" then "RATE_LIMIT"
  else if contains message "timeout" ∨ contains message "deadline" then "TIMEOUT"
  else if contains message "private" ∨ contains message "allowlist" then "POLICY"
  else if contains message "selector" then "INVALID_SELECTOR"
  else if contains message "metric" then "INVALID_METRIC"
  else if contains message "1 mb" ∨ contains message "limit" then "RESPONSE_LIMIT"
  else "CONNECTION"

/-! ## Collecting -/

/-- The services that a query calls. -/
structure Upstream where
  library : Library
  provider : Provider
  /-- The text is a URL with a host. -/
  parsesWithHost : String → Bool

/-- What a query takes from its configuration. -/
structure Prepared where
  connection : Connection
  mappings : MetricMapping
  platforms : List String
  zones : String
  deriving DecidableEq

def serviceOverrides (config : QueryConfiguration) (serviceID : String) : List ServiceConfig :=
  config.serviceOverrides.filter fun override => override.serviceId = serviceID

def serviceMappings (config : QueryConfiguration) (serviceID : String) : MetricMapping :=
  (serviceOverrides config serviceID).foldl
    (fun mappings override =>
      if emptyMetricMappings override.metricMappings then mappings
      else mergeMetricMappings mappings override.metricMappings)
    (normalizedMetricMappings config.metricMappings)

def serviceZones (config : QueryConfiguration) (serviceID : String) : List String :=
  (serviceOverrides config serviceID).foldl
    (fun zones override => if override.managementZones = [] then zones
      else override.managementZones)
    config.managementZones

/-- The checks of `Query` and what it reads before its first request. -/
def preparePlatforms (upstream : Upstream) (config : QueryConfiguration) (input : QueryInput) :
    Except QueryFailure Prepared :=
  if input.timeFrom = 0 ∨ input.timeTo = 0 ∨ input.timeTo ≤ input.timeFrom then
    .error (.rejected "timeFrom and timeTo must define a valid absolute window")
  else if input.timeTo - input.timeFrom > 30 * 24 * 3600000 then
    .error (.rejected "Dynatrace query window may not exceed 30 days")
  else
    match connection upstream.library config input.serviceId with
    | .error message =>
      .error (.failed "SECRET_RESOLUTION" (safeQueryError upstream.parsesWithHost message))
    | .ok connection =>
      let platform := toUpper (trimSpace input.platform)
      if platform ≠ "" ∧ platform ≠ "HYDRA" ∧ platform ≠ "TIMS" then
        .error (.rejected "platform must be HYDRA or TIMS")
      else
        let platforms := uniqueUpper (if platform ≠ "" then [platform] else config.platforms)
        let zones := managementZoneSelector (serviceZones config input.serviceId)
        if platforms = [] then
          .error (.rejected "at least one Dynatrace platform is required")
        else if zones = "" then
          .error (.rejected "at least one Dynatrace management zone is required")
        else .ok ⟨connection, serviceMappings config input.serviceId, platforms, zones⟩

/-- The loop over the metrics of a platform: each is known and supports its aggregation. -/
def checkSpecs (upstream : Upstream) (connection : Connection) :
    List MetricSpec → Except QueryFailure Unit
  | [] => .ok ()
  | spec :: specs =>
    match upstream.provider.metricDescriptor connection spec.baseMetric with
    | .error message =>
      .error (.failed "INVALID_METRIC" (safeQueryError upstream.parsesWithHost message))
    | .ok descriptor =>
      if supportsAggregation descriptor spec.aggregation then checkSpecs upstream connection specs
      else .error (.failed "INVALID_METRIC" (spec.baseMetric ++ " does not support " ++
        toLower spec.aggregation ++ " aggregation"))

def queryPlatform (upstream : Upstream) (config : QueryConfiguration) (input : QueryInput)
    (prepared : Prepared) (platform : String) : Except QueryFailure PlatformAnswer :=
  let specs := metricSpecs platform prepared.mappings
  match checkSpecs upstream prepared.connection specs with
  | .error failure => .error failure
  | .ok () =>
    let entitySelector :=
      selectedHostEntitySelector config.resourceMappings input.serviceId platform
    if entitySelector.utf8ByteSize > 2000 then
      .error (.rejected ("selected TIMS hosts exceed the Dynatrace entity-selector limit; " ++
        "narrow the service or management-zone scope"))
    else
      let selectors := specs.map (·.selector)
      match upstream.provider.queryMetric prepared.connection
          { metricSelector := join ',' selectors
            entitySelector := entitySelector
            managementZoneSelector := prepared.zones
            resolution := defaultString input.resolution "10m"
            timeFrom := input.timeFrom
            timeTo := input.timeTo } with
      | (_, _, some message) =>
        .error (.failed (categorize message) (safeQueryError upstream.parsesWithHost message))
      | (series, requestID, none) => .ok ⟨platform, selectors, series, requestID⟩

def queryPlatforms (upstream : Upstream) (config : QueryConfiguration) (input : QueryInput)
    (prepared : Prepared) : List String → Except QueryFailure (List PlatformAnswer)
  | [] => .ok []
  | platform :: platforms =>
    match queryPlatform upstream config input prepared platform with
    | .error failure => .error failure
    | .ok answer =>
      match queryPlatforms upstream config input prepared platforms with
      | .error failure => .error failure
      | .ok answers => .ok (answer :: answers)

def collect (upstream : Upstream) (config : QueryConfiguration) (input : QueryInput) :
    Except QueryFailure (List PlatformAnswer) :=
  match preparePlatforms upstream config input with
  | .error failure => .error failure
  | .ok prepared => queryPlatforms upstream config input prepared prepared.platforms

/-! ## Statistics -/

/-- `percentile` at a rank, of sorted values. -/
def percentile (sorted : List Rat) (percent : Nat) : Rat :=
  (sorted[min (ceilPercent percent sorted.length - 1) (sorted.length - 1)]?).getD 0

/-- `statistics`. -/
def statistics (values : List Rat) (latest : Option Rat) : Statistics :=
  let sorted := values.insertionSort (· ≤ ·)
  if values = [] then ⟨0, none, none, none, none, none, none⟩
  else
    { sampleCount := sorted.length
      minimum := sorted.head?
      maximum := sorted.getLast?
      average := some (sorted.sum / sorted.length)
      latest := latest
      p50 := some (percentile sorted 50)
      p95 := some (percentile sorted 95) }

/-- The measured values of the series of a metric: those of the maxima, or the others. -/
def measuredValues (resources : List ResourceMetric) (metric : String) (maxima : Bool) :
    List Rat :=
  (resources.filter fun resource =>
      resource.metric = metric ∧ (resource.aggregation = "MAX" ↔ maxima)).flatMap
    fun resource => resource.series.filterMap id

/-- The statistics of one metric in `summarizeResources`; none without a measured value. -/
def metricStatistics (resources : List ResourceMetric) (metric : String) : Option Statistics :=
  let averages := measuredValues resources metric false
  let maxima := measuredValues resources metric true
  let stats := statistics averages averages.getLast?
  if averages = [] ∧ maxima = [] then none
  else if maxima = [] then some stats
  else some { stats with maximum := (maxima.insertionSort (· ≤ ·)).getLast? }

/-- `summarizeResources`. -/
def summarizeResources (resources : List ResourceMetric) : List (String × Statistics) :=
  ["CPU", "MEMORY"].filterMap fun metric =>
    (metricStatistics resources metric).map fun stats => (metric, stats)

/-! ## Coverage -/

/-- `covered / expected * 100`, as floats divide: `none` stands for what a division by zero
gives. -/
def percentOf (covered expected : Nat) : Option Rat :=
  if expected = 0 then none else some (covered / expected * 100)

/-- The resources that series belong to: the keys of a set. -/
def resourceIds (series : List ResourceMetric) : List String :=
  (series.map (·.resourceId)).dedup

/-- The series that a platform is expected to answer with: one for each resource and selector. -/
def PlatformAnswer.expected (answer : PlatformAnswer) : Nat :=
  (resourceIds answer.series).length * answer.selectors.length

def expectedSeries (answers : List PlatformAnswer) : Nat := (answers.map (·.expected)).sum

def allSeries (answers : List PlatformAnswer) : List ResourceMetric :=
  answers.flatMap (·.series)

def coveredSeries (series : List ResourceMetric) : Nat :=
  (series.filter fun metric => metric.Covered).length

def coveredResourceIds (series : List ResourceMetric) : List String :=
  resourceIds (series.filter fun metric => metric.Covered)

/-- `coverage` of `Query`. -/
def seriesCoverage (expected covered : Nat) : Option Rat :=
  if 0 < expected then (percentOf covered expected).map (min 100) else some 0

/-- `CoveragePercent` of `scanRun`, by which a stored run is read. -/
def storedCoverage (resourceCount coveredResourceCount metrics : Nat) : Option Rat :=
  if 0 < resourceCount then
    (percentOf coveredResourceCount (resourceCount * max 1 metrics)).map (min 100)
  else some 0

/-! ## Runs -/

/-- `RequestEvidence`, with what the query computes for it. -/
structure RequestEvidence where
  managementZoneSelector : String
  metricSelectors : List (String × List String)
  resolution : String
  expectedSeries : Nat
  coveredSeries : Nat
  deriving DecidableEq

/-- `Run`, with what a query stores besides. -/
structure QueriedRun extends Run where
  serviceId : String
  deploymentRunId : String
  platform : String
  timeFrom : Time
  timeTo : Time
  resources : List ResourceMetric
  ruleResults : List RuleResult
  requestEvidence : Option RequestEvidence
  correlationId : String
  deriving DecidableEq

/-- `Run{}`. -/
def QueriedRun.zero : QueriedRun where
  toRun := Run.zero
  serviceId := ""
  deploymentRunId := ""
  platform := ""
  timeFrom := 0
  timeTo := 0
  resources := []
  ruleResults := []
  requestEvidence := none
  correlationId := ""

def correlationId (answers : List PlatformAnswer) : String :=
  ((answers.map (·.correlationId)).filter (· ≠ "")).getLast?.getD ""

def completedRun (runID : String) (config : QueryConfiguration) (input : QueryInput)
    (answers : List PlatformAnswer) : QueriedRun :=
  let resources := allSeries answers
  let coverage := (seriesCoverage (expectedSeries answers) (coveredSeries resources)).getD 0
  let summary := some (summarizeResources resources)
  let ruleResults := evaluateRules config.rules input.serviceId summary coverage none
  let verdict := classifyRun (expectedSeries answers) (coveredSeries resources) ruleResults
  { id := runID
    status := verdict.1
    decision := verdict.2
    resourceCount := (resourceIds resources).length
    coveredResourceCount := (coveredResourceIds resources).length
    coveragePercent := coverage
    summary := summary
    failureCategory := ""
    failureReason := ""
    serviceId := input.serviceId
    deploymentRunId := input.deploymentRunId
    platform := join ',' (answers.map (·.platform))
    timeFrom := input.timeFrom
    timeTo := input.timeTo
    resources := resources
    ruleResults := ruleResults
    requestEvidence := some
      { managementZoneSelector := managementZoneSelector (serviceZones config input.serviceId)
        metricSelectors := answers.map fun answer => (answer.platform, answer.selectors)
        resolution := defaultString input.resolution "platform default"
        expectedSeries := expectedSeries answers
        coveredSeries := coveredSeries resources }
    correlationId := correlationId answers }

/-- The run that `persistFailure` stores. -/
def failedRun (runID : String) (config : QueryConfiguration) (input : QueryInput)
    (category reason : String) : QueriedRun :=
  let blocking := config.rules.any fun rule =>
    rule.enabled && (rule.serviceId = "" || rule.serviceId = input.serviceId) &&
      toUpper rule.gateMode = "BLOCKING"
  { QueriedRun.zero with
    id := runID
    status := "ERROR"
    decision := if blocking then "BLOCK" else "ALLOW_WITH_WARNINGS"
    summary := some []
    failureCategory := category
    failureReason := reason
    serviceId := input.serviceId
    deploymentRunId := input.deploymentRunId
    timeFrom := input.timeFrom
    timeTo := input.timeTo }

/-- What the store does with a run: `persistRun` may fail. -/
structure RunStore where
  newId : String
  persistFailure : Option String

/-- `Query`: a run and an error. -/
def query (store : RunStore) (upstream : Upstream) (config : Except String QueryConfiguration)
    (input : QueryInput) : QueriedRun × Option String :=
  match config with
  | .error message => (QueriedRun.zero, some message)
  | .ok config =>
    match collect upstream config input with
    | .error (.rejected message) => (QueriedRun.zero, some message)
    | .error (.failed category reason) =>
      match store.persistFailure with
      | some message => (QueriedRun.zero, some message)
      | none => (failedRun store.newId config input category reason, some reason)
    | .ok answers =>
      match store.persistFailure with
      | some message => (QueriedRun.zero, some message)
      | none => (completedRun store.newId config input answers, none)

/-- `scanRun`: the run as it is read back; its coverage is no column. -/
def storedRun (run : QueriedRun) : QueriedRun :=
  { run with
    coveragePercent := (storedCoverage run.resourceCount run.coveredResourceCount
      (run.summary.getD []).length).getD 0 }

/-! ## What a query returns -/

theorem query_ok {store : RunStore} {upstream : Upstream} {config : QueryConfiguration}
    {input : QueryInput} {run : QueriedRun}
    (h : query store upstream (.ok config) input = (run, none)) :
    ∃ answers, collect upstream config input = .ok answers ∧
      run = completedRun store.newId config input answers := by
  grind [query, collect, Prod.mk.injEq]

end Rhythm.Dynatrace
