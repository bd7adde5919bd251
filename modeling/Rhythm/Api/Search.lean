import Rhythm.Authz
import Rhythm.Library.Service

/-!
# Rhythm.Api.Search

`searchWorkspace`: monitors, runs, alerts and eight kinds of other resources whose texts contain the
query, under the permission of the search path alone.

* `resources_eq` — which resources are found, in which order, up to the limit;
* `readable_iff` — every hit may be read on its own path, unless a configuration profile is found
  for someone who may search and is neither administrator nor editor.
-/

namespace Rhythm.Api.Search

open Text Authz Library

/-! ## Stored resources -/

structure Monitor where
  id : String
  name : String
  slug : String
  description : String
  ownerID : String
  state : String
  health : String
  scheduleSummary : String
  tags : List String

structure Run where
  id : String
  monitorID : String
  status : String
  triggerType : String
  failureCategory : String
  failureReason : String
  /-- The time of creation, as a hit shows it. -/
  createdAt : String

structure Alert where
  id : String
  title : String
  description : String
  state : String
  severity : String
  sourceType : String
  monitorID : String
  monitorName : String
  browserMonitorID : String
  browserMonitorName : String
  applicationName : String
  applicationCARID : String
  serviceName : String
  failureCategory : String
  externalMonitorName : String
  externalTriggerName : String
  externalAlertID : String
  bucketKey : String

structure BrowserMonitor where
  id : String
  name : String
  slug : String
  description : String
  applicationID : String
  applicationName : String
  serviceName : String
  environmentName : String
  health : String
  lastStatus : String

structure ApplicationService where
  id : String
  name : String
  indexPattern : String
  timeField : String

structure Application where
  id : String
  name : String
  owner : String
  carID : String
  environment : String
  defaultIndexPattern : String
  active : Bool
  services : List ApplicationService

structure Query where
  id : String
  name : String
  description : String
  applicationID : String
  applicationName : String
  serviceName : String
  gateMode : String
  active : Bool

structure QueryRun where
  id : String
  queryID : String
  applicationID : String
  applicationName : String
  serviceName : String
  resolvedIndex : String
  decision : String
  status : String

structure Suite where
  id : String
  name : String
  description : String
  environment : String

structure DeploymentRun where
  id : String
  suiteID : String
  suiteName : String
  deploymentID : String
  version : String
  commit : String
  environment : String
  applicationID : String
  gateDecision : String
  status : String

/-- What the services list.  A service that is absent, or whose list fails, lists no resources of
its kind, except for the first three. -/
structure Workspace where
  monitors : Except String (List Monitor)
  runs : Except String (List Run)
  /-- None without an alert service. -/
  alerts : Option (Except String (List Alert))
  browserMonitors : List BrowserMonitor
  applications : List Application
  queries : List Query
  queryRuns : List QueryRun
  suites : List Suite
  deploymentRuns : List DeploymentRun
  profiles : Kind → List Profile

/-! ## Hits -/

structure MonitorHit where
  id : String
  name : String
  slug : String
  description : String
  state : String
  health : String
  tags : List String
  deriving DecidableEq

structure RunHit where
  id : String
  monitorID : String
  monitorName : String
  status : String
  triggerType : String
  failureCategory : String
  createdAt : String
  deriving DecidableEq

structure AlertHit where
  id : String
  title : String
  state : String
  severity : String
  sourceType : String
  monitorID : String
  monitorName : String
  applicationName : String
  serviceName : String
  description : String
  deriving DecidableEq

inductive ResourceKind where
  | browserMonitor | application | service | elfQuery | elfRun | suite | deploymentRun
  | configuration
  deriving DecidableEq

structure ResourceHit where
  kind : ResourceKind
  id : String
  name : String
  description : String := ""
  context : String := ""
  applicationID : String := ""
  queryID : String := ""
  status : String := ""
  deriving DecidableEq

/-- `searchResponse`. -/
structure Response where
  query : String
  monitors : List MonitorHit := []
  runs : List RunHit := []
  alerts : List AlertHit := []
  resources : List ResourceHit := []
  deriving DecidableEq

/-! ## Matching -/

section Matching

variable (lower : String → String) (needle : String)

/-- `containsAny`; `lower` is `strings.ToLower`. -/
def containsAny (fields : List String) : Bool :=
  fields.any fun field => field ≠ "" && contains (lower field) needle

/-- `matchMonitor`. -/
def matchMonitor (monitor : Monitor) : Bool :=
  containsAny lower needle [monitor.id, monitor.name, monitor.slug, monitor.description,
      monitor.ownerID, monitor.state, monitor.health, monitor.scheduleSummary] ||
    monitor.tags.any fun tag => contains (lower tag) needle

/-- `matchRun`. -/
def matchRun (run : Run) (monitorName : String) : Bool :=
  containsAny lower needle [run.id, run.monitorID, monitorName, run.status, run.triggerType,
    run.failureCategory, run.failureReason]

/-- `matchAlert`. -/
def matchAlert (alert : Alert) : Bool :=
  containsAny lower needle [alert.id, alert.title, alert.description, alert.state, alert.severity,
    alert.monitorID, alert.monitorName, alert.browserMonitorID, alert.browserMonitorName,
    alert.applicationName, alert.applicationCARID, alert.serviceName, alert.failureCategory,
    alert.externalMonitorName, alert.externalTriggerName, alert.externalAlertID, alert.bucketKey]

end Matching

/-- A loop that collects the hits of matching items until there are `limit`. -/
def collect {α β : Type} (limit : Nat) (found : α → Bool) (hit : α → β) : List β → List α → List β
  | hits, [] => hits
  | hits, item :: items =>
    collect limit found hit
      (if limit ≤ hits.length then hits else if found item then hits ++ [hit item] else hits) items

/-! ## Other resources -/

def activeStatus (active : Bool) : String := if active then "ACTIVE" else "PAUSED"

/-- A hit, with the texts that are searched for it. -/
abbrev Candidate := ResourceHit × List String

def BrowserMonitor.candidate (monitor : BrowserMonitor) : Candidate :=
  ({ kind := .browserMonitor, id := monitor.id, name := monitor.name
     description := monitor.description
     context := monitor.applicationName ++ " · " ++ monitor.serviceName
     applicationID := monitor.applicationID, status := monitor.health },
    [monitor.id, monitor.name, monitor.slug, monitor.description, monitor.applicationName,
      monitor.serviceName, monitor.environmentName, monitor.health, monitor.lastStatus])

def Application.candidates (application : Application) : List Candidate :=
  ({ kind := .application, id := application.id, name := application.name
     description := application.owner
     context := application.carID ++ " · " ++ application.environment
     applicationID := application.id, status := activeStatus application.active },
    [application.id, application.name, application.owner, application.carID,
      application.environment, application.defaultIndexPattern]) ::
  application.services.map fun service =>
    ({ kind := .service, id := service.id, name := service.name, context := application.name
       applicationID := application.id },
      [service.id, service.name, service.indexPattern, service.timeField, application.name,
        application.carID])

def Query.candidate (query : Query) : Candidate :=
  ({ kind := .elfQuery, id := query.id, name := query.name, description := query.description
     context := query.applicationName ++ " · " ++ query.serviceName
     applicationID := query.applicationID, queryID := query.id
     status := activeStatus query.active },
    [query.id, query.name, query.description, query.applicationName, query.serviceName,
      query.gateMode])

def QueryRun.candidate (run : QueryRun) : Candidate :=
  ({ kind := .elfRun, id := run.id, name := run.applicationName ++ " log execution"
     context := run.resolvedIndex, applicationID := run.applicationID, queryID := run.queryID
     status := run.decision },
    [run.id, run.queryID, run.applicationName, run.serviceName, run.resolvedIndex, run.decision,
      run.status])

def Suite.candidate (suite : Suite) : Candidate :=
  ({ kind := .suite, id := suite.id, name := suite.name, description := suite.description
     context := suite.environment },
    [suite.id, suite.name, suite.description, suite.environment])

def DeploymentRun.candidate (run : DeploymentRun) : Candidate :=
  let name := if run.version = "" then run.suiteName else run.suiteName ++ " · " ++ run.version
  ({ kind := .deploymentRun, id := run.id, name, description := run.commit
     context := run.environment, applicationID := run.applicationID, status := run.gateDecision },
    [run.id, run.suiteID, name, run.deploymentID, run.version, run.commit, run.environment,
      run.gateDecision, run.status])

/-- The kinds of profiles that are searched, as the library spells them. -/
def searchedKinds : List (Kind × String) :=
  [(.environment, "ENVIRONMENT"), (.certificate, "CERTIFICATE"), (.proxy, "PROXY"),
    (.auth, "AUTH"), (.notification, "NOTIFICATION"), (.telemetry, "TELEMETRY")]

def profileCandidate (kind : String) (profile : Profile) : Candidate :=
  ({ kind := .configuration, id := profile.id, name := profile.name
     description := profile.description, context := kind, status := activeStatus profile.active },
    [profile.id, profile.name, profile.description, kind, profile.profileType])

namespace Workspace

variable (workspace : Workspace)

def otherCandidates : List Candidate :=
  workspace.browserMonitors.map BrowserMonitor.candidate ++
    workspace.applications.flatMap Application.candidates ++
    workspace.queries.map Query.candidate ++ workspace.queryRuns.map QueryRun.candidate ++
    workspace.suites.map Suite.candidate ++
    workspace.deploymentRuns.map DeploymentRun.candidate

def profileCandidates : List Candidate :=
  searchedKinds.flatMap fun kind => (workspace.profiles kind.1).map (profileCandidate kind.2)

variable (lower : String → String) (needle : String) (limit : Nat)

/-- `appendWorkspaceResources`. -/
def appendWorkspaceResources : List ResourceHit :=
  collect limit (fun candidate => containsAny lower needle candidate.2) Prod.fst []
    (workspace.otherCandidates ++ workspace.profileCandidates)

end Workspace

/-! ## The handler -/

/-- `strconv.Atoi`, up to its range. -/
def atoi (text : String) : Option Int :=
  let digits (rest : List Char) : Option Nat :=
    if rest ≠ [] ∧ rest.all Char.isDigit then
      some (rest.foldl (fun value digit => 10 * value + (digit.toNat - '0'.toNat)) 0)
    else none
  match text.toList with
  | '-' :: rest => (digits rest).map fun value => -(value : Int)
  | '+' :: rest => (digits rest).map Int.ofNat
  | rest => (digits rest).map Int.ofNat

def parseLimit (raw : String) : Option Nat :=
  if trimSpace raw = "" then some 8
  else
    (atoi (trimSpace raw)).bind fun parsed =>
      if parsed < 1 ∨ 20 < parsed then none else some parsed.toNat

def monitorName (monitors : List Monitor) (id : String) : String :=
  ((monitors.reverse.find? fun monitor => monitor.id = id).map Monitor.name).getD ""

section Handler

variable (lower : String → String) (workspace : Workspace) (q limit : String)

def Workspace.alertItems : Except String (List Alert) := workspace.alerts.getD (.ok [])

/-- `searchWorkspace`: a response, or the code and the message of an error. -/
def searchWorkspace : Except (String × String) Response :=
  let query := trimSpace q
  match parseLimit limit with
  | none => .error ("INVALID_LIMIT", "Search limit must be between 1 and 20.")
  | some limit =>
    if query.length < 2 then .ok { query }
    else
      let needle := lower query
      match workspace.monitors with
      | .error _ => .error ("INTERNAL_ERROR", "Unable to search monitors.")
      | .ok monitors =>
        match workspace.runs with
        | .error _ => .error ("INTERNAL_ERROR", "Unable to search runs.")
        | .ok runs =>
          match workspace.alertItems with
          | .error _ => .error ("INTERNAL_ERROR", "Unable to search alerts.")
          | .ok alerts =>
            .ok {
              query
              monitors := collect limit (matchMonitor lower needle) (fun monitor =>
                ⟨monitor.id, monitor.name, monitor.slug, monitor.description, monitor.state,
                  monitor.health, monitor.tags⟩) [] monitors
              runs := collect limit
                (fun run => matchRun lower needle run (monitorName monitors run.monitorID))
                (fun run => ⟨run.id, run.monitorID, monitorName monitors run.monitorID, run.status,
                  run.triggerType, run.failureCategory, run.createdAt⟩) [] runs
              alerts := collect limit (matchAlert lower needle) (fun alert =>
                ⟨alert.id, alert.title, alert.state, alert.severity, alert.sourceType,
                  alert.monitorID, alert.monitorName, alert.applicationName, alert.serviceName,
                  alert.description⟩) [] alerts
              resources := workspace.appendWorkspaceResources lower needle limit }

/-- The search path behind `authorize`. -/
def serveSearch (principal : Principal) : Except (String × String) Response :=
  if can principal "GET" "/api/v1/search" then searchWorkspace lower workspace q limit
  else .error ("FORBIDDEN", "Your role does not allow this operation.")

end Handler

/-! ## Own paths -/

/-- The path on which a resource is read.  A service is read with its application, and a profile in
the list of its kind. -/
def ResourceHit.path (hit : ResourceHit) : String :=
  match hit.kind with
  | .browserMonitor => "/api/v1/browser-monitors/" ++ hit.id
  | .application => "/api/v1/applications/" ++ hit.id
  | .service => "/api/v1/applications/" ++ hit.applicationID
  | .elfQuery => "/api/v1/elf/queries/" ++ hit.id
  | .elfRun => "/api/v1/elf/runs/" ++ hit.id
  | .suite => "/api/v1/suites/" ++ hit.id
  | .deploymentRun => "/api/v1/deployment-runs/" ++ hit.id
  | .configuration => "/api/v1/config/" ++ hit.context

def Response.paths (response : Response) : List String :=
  response.monitors.map (fun hit => "/api/v1/monitors/" ++ hit.id) ++
    response.runs.map (fun hit => "/api/v1/runs/" ++ hit.id) ++
    response.alerts.map (fun hit => "/api/v1/alerts/" ++ hit.id) ++
    response.resources.map ResourceHit.path

/-- A configuration profile is found: the search succeeds, fewer resources than the limit come
before the profiles, and a profile matches. -/
def FindsProfile (lower : String → String) (workspace : Workspace) (q limit : String) : Prop :=
  2 ≤ (trimSpace q).length ∧ workspace.monitors.isOk ∧ workspace.runs.isOk ∧
    workspace.alertItems.isOk ∧
    ∃ most, parseLimit limit = some most ∧
      (workspace.otherCandidates.countP fun candidate =>
        containsAny lower (lower (trimSpace q)) candidate.2) < most ∧
      ∃ candidate ∈ workspace.profileCandidates,
        containsAny lower (lower (trimSpace q)) candidate.2 = true

/-! ## What is collected -/

section Collected

variable {α β : Type} {limit : Nat} {found : α → Bool} {hit : α → β}

theorem collect_eq (hits : List β) (items : List α) : collect limit found hit hits items =
    hits ++ ((items.filter found).map hit).take (limit - hits.length) := by
  induction items generalizing hits with
  | nil => simp [collect]
  | cons item items ih =>
    rw [collect, ih]
    by_cases hfull : limit ≤ hits.length
    · rw [if_pos hfull, Nat.sub_eq_zero_of_le hfull, List.take_zero, List.take_zero]
    · rw [if_neg hfull]
      cases hfound : found item with
      | false => simp [hfound]
      | true =>
        have hroom : limit - hits.length = limit - (hits.length + 1) + 1 := by omega
        simp [hfound, hroom]

theorem mem_collect_append {items later : List α} {b : β} :
    b ∈ collect limit found hit [] (items ++ later) ↔
      b ∈ collect limit found hit [] items ∨
        b ∈ ((later.filter found).map hit).take (limit - items.countP found) := by
  simp [collect_eq, List.take_append, List.countP_eq_length_filter]

theorem mem_of_mem_collect {items : List α} {b : β} (h : b ∈ collect limit found hit [] items) :
    ∃ item ∈ items, hit item = b := by
  grind [collect_eq, List.mem_of_mem_take]

end Collected

/-! ## Reading -/

section Reading

variable {principal : Principal} {path : String}

theorem can_get_of_config (h : hasPrefix path "/api/v1/config/" = true) :
    can principal "GET" path = (hasRole principal .administrator || hasRole principal .editor) := by
  rw [can, if_pos rfl, if_pos h]
  cases hasRole principal .administrator <;> rfl

theorem can_get_of_not_config (h : hasPrefix path "/api/v1/config/" = false) :
    can principal "GET" path = (hasRole principal .administrator || hasReadRole principal) := by
  rw [can, if_pos rfl, h]
  cases hasRole principal .administrator <;> rfl

theorem not_config_append {start : String} (id : String)
    (hstart : ¬ "/api/v1/config/".toList <+: start.toList ∧
      ¬ start.toList <+: "/api/v1/config/".toList) :
    hasPrefix (start ++ id) "/api/v1/config/" = false := by
  rw [← Bool.not_eq_true, hasPrefix, List.isPrefixOf_iff_prefix, String.toList_append]
  intro hconfig
  obtain hbefore | hafter :=
    List.prefix_or_prefix_of_prefix hconfig (List.prefix_append start.toList id.toList)
  · exact hstart.1 hbefore
  · exact hstart.2 hafter

theorem config_append (kind : String) :
    hasPrefix ("/api/v1/config/" ++ kind) "/api/v1/config/" = true := by
  rw [hasPrefix, List.isPrefixOf_iff_prefix, String.toList_append]
  exact List.prefix_append _ _

theorem ResourceHit.config_path (hit : ResourceHit) :
    hasPrefix hit.path "/api/v1/config/" = decide (hit.kind = .configuration) := by
  unfold ResourceHit.path
  cases hit.kind with
  | configuration => exact config_append _
  | _ => exact not_config_append _ (by decide)

end Reading

/-! ## Found resources -/

section Found

variable {lower : String → String} {workspace : Workspace} {needle : String} {limit : Nat}

theorem kind_otherCandidates {candidate : Candidate}
    (h : candidate ∈ workspace.otherCandidates) : candidate.1.kind ≠ .configuration := by
  unfold Workspace.otherCandidates at h
  simp only [List.mem_append, List.mem_map, List.mem_flatMap] at h
  obtain ((((⟨_, _, rfl⟩ | ⟨application, _, h⟩) | ⟨_, _, rfl⟩) | ⟨_, _, rfl⟩) | ⟨_, _, rfl⟩) |
    ⟨_, _, rfl⟩ := h
  · exact ResourceKind.noConfusion
  · obtain rfl | hservice := List.mem_cons.mp h
    · exact ResourceKind.noConfusion
    · obtain ⟨service, _, rfl⟩ := List.mem_map.mp hservice
      exact ResourceKind.noConfusion
  all_goals exact ResourceKind.noConfusion

theorem kind_profileCandidates {candidate : Candidate}
    (h : candidate ∈ workspace.profileCandidates) : candidate.1.kind = .configuration := by
  obtain ⟨kind, _, hprofile⟩ := List.mem_flatMap.mp h
  obtain ⟨profile, _, rfl⟩ := List.mem_map.mp hprofile
  rfl

theorem exists_configuration_iff :
    (∃ hit ∈ workspace.appendWorkspaceResources lower needle limit, hit.kind = .configuration) ↔
      (workspace.otherCandidates.countP fun candidate =>
        containsAny lower needle candidate.2) < limit ∧
      ∃ candidate ∈ workspace.profileCandidates,
        containsAny lower needle candidate.2 = true := by
  constructor
  · rintro ⟨hit, hmem, hkind⟩
    obtain hother | hprofile := mem_collect_append.mp hmem
    · obtain ⟨candidate, hcandidate, rfl⟩ := mem_of_mem_collect hother
      exact absurd hkind (kind_otherCandidates hcandidate)
    · grind [List.mem_of_mem_take, Nat.sub_eq_zero_of_le]
  · rintro ⟨hroom, candidate, hcandidate, hfound⟩
    have hmatching : candidate ∈ workspace.profileCandidates.filter
        fun candidate => containsAny lower needle candidate.2 :=
      List.mem_filter.mpr ⟨hcandidate, hfound⟩
    cases hfirst : workspace.profileCandidates.filter
        fun candidate => containsAny lower needle candidate.2 with
    | nil =>
      rw [hfirst] at hmatching
      exact absurd hmatching List.not_mem_nil
    | cons first rest =>
      have hin : first ∈ workspace.profileCandidates.filter
          fun candidate => containsAny lower needle candidate.2 := by
        rw [hfirst]
        exact List.mem_cons_self
      refine ⟨first.1, mem_collect_append.mpr (.inr ?_),
        kind_profileCandidates (List.mem_filter.mp hin).1⟩
      obtain ⟨left, hleft⟩ := Nat.exists_eq_add_of_lt hroom
      have hleft' : limit - (workspace.otherCandidates.countP fun candidate =>
          containsAny lower needle candidate.2) = left + 1 := by omega
      rw [hfirst, hleft', List.map_cons, List.take_succ_cons]
      exact List.mem_cons_self

end Found

/-! ## What the search gives away -/

section Readable

variable (lower : String → String) (workspace : Workspace) (q limit : String)

theorem searchWorkspace_configuration :
    (∃ response, searchWorkspace lower workspace q limit = .ok response ∧
      ∃ hit ∈ response.resources, hit.kind = .configuration) ↔
    FindsProfile lower workspace q limit := by
  unfold searchWorkspace FindsProfile
  dsimp only
  cases hlimit : parseLimit limit with
  | none => simp
  | some most =>
    dsimp only
    by_cases hshort : (trimSpace q).length < 2
    · grind
    · rw [if_neg hshort]
      cases hmonitors : workspace.monitors with
      | error _ => simp [Except.isOk, Except.toBool]
      | ok monitors =>
        cases hruns : workspace.runs with
        | error _ => simp [Except.isOk, Except.toBool]
        | ok runs =>
          cases halerts : workspace.alertItems with
          | error _ => simp [Except.isOk, Except.toBool]
          | ok alerts =>
            simp only [Except.ok.injEq, exists_eq_left', Option.some.injEq]
            rw [exists_configuration_iff]
            refine ⟨fun h => ⟨Nat.not_lt.mp hshort, rfl, rfl, rfl, h⟩, fun h => h.2.2.2.2⟩

theorem config_of_mem_paths {response : Response} {path : String} (h : path ∈ response.paths) :
    hasPrefix path "/api/v1/config/" = false ∨
      ∃ hit ∈ response.resources, hit.kind = .configuration ∧ hit.path = path := by
  unfold Response.paths at h
  simp only [List.mem_append, List.mem_map] at h
  obtain ((⟨hit, _, rfl⟩ | ⟨hit, _, rfl⟩) | ⟨hit, _, rfl⟩) | ⟨hit, hhit, rfl⟩ := h
  · exact .inl (not_config_append _ (by decide))
  · exact .inl (not_config_append _ (by decide))
  · exact .inl (not_config_append _ (by decide))
  · by_cases hkind : hit.kind = .configuration
    · exact .inr ⟨hit, hhit, hkind, rfl⟩
    · exact .inl (hit.config_path.trans (decide_eq_false hkind))

/-- **Search and reading.**  Whoever may search may read every hit on its own path, except that a
configuration profile is shown to those who are neither administrator nor editor. -/
theorem readable_iff (principal : Principal) :
    (∀ response, serveSearch lower workspace q limit principal = .ok response →
      ∀ path ∈ response.paths, can principal "GET" path = true) ↔
    hasRole principal .administrator = true ∨ hasRole principal .editor = true ∨
      hasReadRole principal = false ∨ ¬ FindsProfile lower workspace q limit := by
  have hsearch : can principal "GET" "/api/v1/search" =
      (hasRole principal .administrator || hasReadRole principal) :=
    can_get_of_not_config (by decide)
  by_cases hall : hasRole principal .administrator = true ∨ hasRole principal .editor = true
  · refine iff_of_true ?_ (hall.imp_right .inl)
    intro response hresponse path _
    cases hconfig : hasPrefix path "/api/v1/config/" with
    | true => rwa [can_get_of_config hconfig, Bool.or_eq_true]
    | false =>
      rw [can_get_of_not_config hconfig, Bool.or_eq_true]
      exact hall.imp_right fun heditor => by rw [hasReadRole, heditor]; rfl
  obtain ⟨hadmin, heditor⟩ := not_or.mp hall
  rw [serveSearch, hsearch]
  cases hread : hasReadRole principal with
  | false => simp [hadmin]
  | true =>
    rw [Bool.or_true, if_pos rfl, ← searchWorkspace_configuration lower workspace q limit]
    simp only [hadmin, heditor, Bool.true_eq_false, Bool.false_eq_true, false_or]
    constructor
    · rintro hreadable ⟨response, hresponse, hit, hhit, hkind⟩
      have hpath : hit.path ∈ response.paths :=
        List.mem_append_right _ (List.mem_map_of_mem hhit)
      have hconfig : hasPrefix hit.path "/api/v1/config/" = true :=
        hit.config_path.trans (decide_eq_true hkind)
      have hcan := hreadable response hresponse _ hpath
      rw [can_get_of_config hconfig, Bool.or_eq_true] at hcan
      exact hall hcan
    · intro hnone response hresponse path hpath
      obtain hother | ⟨hit, hhit, hkind, -⟩ := config_of_mem_paths hpath
      · rw [can_get_of_not_config hother, hread, Bool.or_true]
      · exact absurd ⟨response, hresponse, hit, hhit, hkind⟩ hnone

end Readable

/-! ## A viewer -/

def stagedWorkspace : Workspace where
  monitors := .ok []
  runs := .ok []
  alerts := none
  browserMonitors := []
  applications := []
  queries := []
  queryRuns := []
  suites := []
  deploymentRuns := []
  profiles kind :=
    if kind = .environment then
      [⟨"e1", .environment, "staging", "", "BASIC", [], true, "admin", "admin", 0, 0⟩]
    else []

/-- **A viewer finds an environment** that a viewer may not read. -/
theorem viewer_finds_environment :
    ¬ ∀ response, serveSearch toLower stagedWorkspace "staging" "" ⟨"v", [.viewer]⟩ = .ok response →
      ∀ path ∈ response.paths, can ⟨"v", [.viewer]⟩ "GET" path = true := by
  intro h
  have hread := h _ rfl "/api/v1/config/ENVIRONMENT" (by decide)
  exact absurd hread (by decide)

end Rhythm.Api.Search
