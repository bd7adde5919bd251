import Rhythm.Alerts.Ingest
import Rhythm.Page

/-!
# Rhythm.Suites.AlertGate

The OpenSearch alert check of a suite or a deployment validation:
`MatchOpenSearchAlerts` reads the stored alerts of the selected monitor or
trigger, and `applyOpenSearchAlertGate` passes the check when none of them is
firing and none was triggered since the deployment started.  The query is
limited to the 50 alerts that were updated last.

`alert_check_passes_iff`: when a passed check says that no matching alert is
firing or was triggered.  `LOWER`, `%q` and the order of rows that were
updated at one time are parameters.
-/

namespace Rhythm.Suites

open Alerts Text

/-! ## Matching alerts -/

/-- `OpenSearchAlertMatch`. -/
structure OpenSearchAlertMatch where
  receiverId : String
  externalMonitorId : String
  externalTriggerId : String
  externalMonitorName : String
  externalTriggerName : String
  deriving DecidableEq

def OpenSearchAlertMatch.trimmed (query : OpenSearchAlertMatch) : OpenSearchAlertMatch where
  receiverId := trimSpace query.receiverId
  externalMonitorId := trimSpace query.externalMonitorId
  externalTriggerId := trimSpace query.externalTriggerId
  externalMonitorName := trimSpace query.externalMonitorName
  externalTriggerName := trimSpace query.externalTriggerName

def OpenSearchAlertMatch.NoIdentity (query : OpenSearchAlertMatch) : Prop :=
  query.externalMonitorId = "" ∧ query.externalMonitorName = "" ∧ query.externalTriggerId = "" ∧
    query.externalTriggerName = ""

instance (query : OpenSearchAlertMatch) : Decidable query.NoIdentity :=
  inferInstanceAs (Decidable (_ ∧ _))

section Query

variable (lower : String → String) (position : AlertId ↪ Nat)

/-- The `WHERE` clause: an empty parameter matches every row. -/
def MatchesQuery (query : OpenSearchAlertMatch) (alert : Alert) : Prop :=
  alert.source = .openSearchAlerting ∧
    match alert.external with
    | none => False
    | some external =>
      external.receiverId = query.receiverId ∧
        (query.externalMonitorId = "" ∨ external.monitorId = query.externalMonitorId) ∧
        (query.externalTriggerId = "" ∨ external.triggerId = query.externalTriggerId) ∧
        (query.externalMonitorName = "" ∨
          lower external.monitorName = lower query.externalMonitorName) ∧
        (query.externalTriggerName = "" ∨
          lower external.triggerName = lower query.externalTriggerName)

instance (query : OpenSearchAlertMatch) : DecidablePred (MatchesQuery lower query) := by
  intro alert
  unfold MatchesQuery
  cases alert.external <;> infer_instance

/-- `ORDER BY a.updated_at DESC`; rows that were updated at one time come by their position. -/
def UpdatedBefore (a b : Alert) : Prop :=
  b.updatedAt < a.updatedAt ∨ a.updatedAt = b.updatedAt ∧ position a.id ≤ position b.id

instance : DecidableRel (UpdatedBefore position) :=
  fun _ _ => inferInstanceAs (Decidable (_ ∨ _))

def matchingAlerts (query : OpenSearchAlertMatch) (alerts : AlertTable) : List Alert :=
  alerts.rows.filter fun alert => MatchesQuery lower query alert

/-- `MatchOpenSearchAlerts`; `failure` is the error of a query that fails. -/
def matchOpenSearchAlerts (query : OpenSearchAlertMatch) (failure : Option String)
    (alerts : AlertTable) : Except String (List Alert) :=
  let query := query.trimmed
  if query.receiverId = "" then .error "receiverId is required to match OpenSearch alerts"
  else if query.NoIdentity then
    .error "OpenSearch alert match requires a monitor or trigger identity"
  else
    match failure with
    | some message => .error message
    | none => .ok (page (UpdatedBefore position) 50 (matchingAlerts lower query alerts))

end Query

/-! ## The gate -/

/-- The fields of `Check` that an alert check is made of, with those of its stage. -/
structure AlertCheck where
  stageId : String
  stageName : String
  id : String
  kind : String
  receiverId : String
  externalMonitorId : String
  externalTriggerId : String
  externalMonitorName : String
  externalTriggerName : String
  name : String
  required : Bool
  deriving DecidableEq

/-- The fields of `CheckResult` that an alert check fills in. -/
structure AlertCheckResult where
  check : AlertCheck
  name : String
  externalMonitorName : String
  externalTriggerName : String
  alertId : Option AlertId
  alertState : Option AlertState
  upstreamState : String
  status : String
  decision : String
  failureCategory : String
  failureReason : String
  deriving DecidableEq

def stateText : AlertState → String
  | .open => "OPEN"
  | .acknowledged => "ACKNOWLEDGED"
  | .resolved => "RESOLVED"
  | .suppressed => "SUPPRESSED"
  | .error => "ERROR"

/-- `isOpenSearchAlertFiring`. -/
def isOpenSearchAlertFiring (alert : Alert) : Bool :=
  match alert.state with
  | .open | .acknowledged | .error => true
  | _ => false

/-- The first match fills in what the result does not say yet. -/
def fillFromMatch (alert : Alert) (result : AlertCheckResult) : AlertCheckResult :=
  if result.alertId = none then
    { result with
      alertId := some alert.id
      alertState := some alert.state
      upstreamState := alert.upstreamState
      name := if result.name = "" then alert.title else result.name
      externalMonitorName :=
        if result.externalMonitorName = "" then (alert.external.map (·.monitorName)).getD ""
        else result.externalMonitorName
      externalTriggerName :=
        if result.externalTriggerName = "" then (alert.external.map (·.triggerName)).getD ""
        else result.externalTriggerName }
  else result

def failByAlert (alert : Alert) (category reason : String) (result : AlertCheckResult) :
    AlertCheckResult :=
  { result with
    status := "FAILED"
    alertId := some alert.id
    alertState := some alert.state
    upstreamState := alert.upstreamState
    failureCategory := category
    failureReason := reason }

section Gate

variable (quote : String → String)

/-- The first loop: the first firing match fails the check. -/
def gateFiring (result : AlertCheckResult) : List Alert → AlertCheckResult × Bool
  | [] => (result, false)
  | alert :: rest =>
    let result := fillFromMatch alert result
    if isOpenSearchAlertFiring alert = true then
      (failByAlert alert "ALERT_FIRING"
        ("OpenSearch alert " ++ quote (defaultString alert.title (toString alert.id)) ++ " is " ++
          toLower (stateText alert.state) ++ ".") result, true)
    else gateFiring result rest

/-- The second loop: the first match triggered at or after the deployment start. -/
def gateTriggered (start : Time) (matched : List Alert) (result : AlertCheckResult) :
    Option AlertCheckResult :=
  (matched.find? fun alert => start ≤ alert.lastTriggeredAt).map fun alert =>
    failByAlert alert "ALERT_TRIGGERED_POST_DEPLOY"
      ("OpenSearch alert " ++ quote (defaultString alert.title (toString alert.id)) ++
        " triggered at or after deployment start.") result

/-- `applyOpenSearchAlertGate`. -/
def applyOpenSearchAlertGate (result : AlertCheckResult) (matched : List Alert)
    (deploymentStart : Option Time) : AlertCheckResult :=
  match gateFiring quote result matched with
  | (failed, true) => failed
  | (result, false) =>
    match deploymentStart.bind fun start => gateTriggered quote start matched result with
    | some failed => failed
    | none => { result with status := "SUCCESS", decision := "PASS" }

/-! ## The check -/

/-- What a check reads, and what fails while it does. -/
structure AlertServices where
  /-- There is an alert service. -/
  available : Bool
  receivers : OpenSearch.ReceiverTable
  failsReceiver : Bool
  alerts : AlertTable
  queryFailure : Option String

def AlertCheck.query (check : AlertCheck) : OpenSearchAlertMatch where
  receiverId := check.receiverId
  externalMonitorId := check.externalMonitorId
  externalTriggerId := check.externalTriggerId
  externalMonitorName := check.externalMonitorName
  externalTriggerName := check.externalTriggerName

def AlertCheck.failed (check : AlertCheck) (category reason : String) : AlertCheckResult where
  check := check
  name := check.name
  externalMonitorName := check.externalMonitorName
  externalTriggerName := check.externalTriggerName
  alertId := none
  alertState := none
  upstreamState := ""
  status := "FAILED"
  decision := ""
  failureCategory := category
  failureReason := reason

/-- `evaluateOpenSearchAlertCheck`. -/
def evaluateOpenSearchAlertCheck (lower : String → String) (position : AlertId ↪ Nat)
    (services : AlertServices) (check : AlertCheck) (deploymentStart : Option Time) :
    AlertCheckResult :=
  if services.available = false then
    check.failed "ALERTING_UNAVAILABLE" "OpenSearch alert evaluation is unavailable."
  else if services.failsReceiver = true ∨ services.receivers.get? check.receiverId = none then
    check.failed "RECEIVER_NOT_FOUND" "OpenSearch alert receiver was not found."
  else
    match
      matchOpenSearchAlerts lower position check.query services.queryFailure services.alerts with
    | .error message => check.failed "ALERT_LOOKUP_ERROR" (safeError message)
    | .ok matched => applyOpenSearchAlertGate quote (check.failed "" "") matched deploymentStart

/-! ## When a check passes -/

/-- What the claim of a passed check rules out: the alert is firing, or was triggered at or after
the deployment start. -/
def Alarming (start : Time) (alert : Alert) : Prop :=
  isOpenSearchAlertFiring alert = true ∨ start ≤ alert.lastTriggeredAt

variable {quote : String → String} {result : AlertCheckResult} {matched : List Alert} {start : Time}

theorem gateFiring_snd :
    (gateFiring quote result matched).2 = true ↔
      ∃ alert ∈ matched, isOpenSearchAlertFiring alert = true := by
  induction matched generalizing result with
  | nil => simp [gateFiring]
  | cons alert rest ih =>
    by_cases hfiring : isOpenSearchAlertFiring alert = true
    · simp [gateFiring, hfiring]
    · simp [gateFiring, hfiring, ih]

theorem status_gateFiring (h : (gateFiring quote result matched).2 = true) :
    (gateFiring quote result matched).1.status = "FAILED" := by
  induction matched generalizing result with
  | nil => simp [gateFiring] at h
  | cons alert rest ih =>
    by_cases hfiring : isOpenSearchAlertFiring alert = true
    · simp [gateFiring, hfiring, failByAlert]
    · simp only [gateFiring, hfiring] at h ⊢
      exact ih h

/-- **The gate** passes exactly when no match of the page is alarming. -/
theorem gate_success_iff :
    (applyOpenSearchAlertGate quote result matched (some start)).status = "SUCCESS" ↔
      ∀ alert ∈ matched, ¬ Alarming start alert := by
  unfold applyOpenSearchAlertGate
  cases hloop : gateFiring quote result matched with
  | mk result' final =>
    cases final with
    | true =>
      have hfinal : (gateFiring quote result matched).2 = true := by rw [hloop]
      have hstatus := status_gateFiring hfinal
      obtain ⟨alert, hmem, hfiring⟩ := gateFiring_snd.mp hfinal
      rw [hloop] at hstatus
      have hfailed : result'.status = "FAILED" := hstatus
      refine iff_of_false (fun hsuccess => ?_) fun h => h alert hmem (.inl hfiring)
      have hsuccess : result'.status = "SUCCESS" := hsuccess
      rw [hfailed] at hsuccess
      simp at hsuccess
    | false =>
      have hquiet : ∀ alert ∈ matched, ¬ isOpenSearchAlertFiring alert = true := by
        intro alert hmem hfiring
        have hfinal : (gateFiring quote result matched).2 = true :=
          gateFiring_snd.mpr ⟨alert, hmem, hfiring⟩
        rw [hloop] at hfinal
        contradiction
      simp only [Option.bind_some, gateTriggered]
      cases hfind : matched.find? fun alert => start ≤ alert.lastTriggeredAt with
      | none =>
        refine iff_of_true rfl fun alert hmem h => ?_
        have htriggered := List.find?_eq_none.mp hfind alert hmem
        rcases h with hfiring | hstart
        · exact hquiet alert hmem hfiring
        · exact htriggered (decide_eq_true hstart)
      | some alert =>
        have hstart : start ≤ alert.lastTriggeredAt := by simpa using List.find?_some hfind
        refine iff_of_false (by simp [failByAlert]) fun h => ?_
        exact h alert (List.mem_of_find?_eq_some hfind) (.inr hstart)

/-! ## When a passed check is right -/

section Passed

variable (quote) (lower : String → String) (position : AlertId ↪ Nat) (services : AlertServices)
  (check : AlertCheck) (start : Time)

def AlertCheck.Selects (check : AlertCheck) (alert : Alert) : Prop :=
  MatchesQuery lower check.query.trimmed alert

/-- The alerts can be looked up: the service and the receiver are there, the check names the
receiver and a monitor or a trigger, and the query does not fail. -/
def AlertServices.CanLookUp (services : AlertServices) (check : AlertCheck) : Prop :=
  services.available = true ∧ services.failsReceiver = false ∧
    services.receivers.get? check.receiverId ≠ none ∧ check.query.trimmed.receiverId ≠ "" ∧
    ¬ check.query.trimmed.NoIdentity ∧ services.queryFailure = none

/-- Whenever alarming alerts are selected, fewer than 50 selected ones were updated after one of
them. -/
def AlertServices.AlarmsNearTop (services : AlertServices) (check : AlertCheck) (start : Time) :
    Prop :=
  (∃ alert ∈ services.alerts, check.Selects lower alert ∧ Alarming start alert) →
    ∃ alert ∈ services.alerts, check.Selects lower alert ∧ Alarming start alert ∧
      rank (UpdatedBefore position) (matchingAlerts lower check.query.trimmed services.alerts)
        alert < 50

instance : Std.Total (UpdatedBefore position) := by
  refine ⟨fun a b => ?_⟩
  unfold UpdatedBefore
  rcases Nat.lt_trichotomy a.updatedAt b.updatedAt with h | h | h
  · exact .inr (.inl h)
  · rcases Nat.le_total (position a.id) (position b.id) with hp | hp
    · exact .inl (.inr ⟨h, hp⟩)
    · exact .inr (.inr ⟨h.symm, hp⟩)
  · exact .inl (.inl h)

instance : IsTrans Alert (UpdatedBefore position) := by
  refine ⟨fun a b c hab hbc => ?_⟩
  unfold UpdatedBefore at *
  have hnat : ∀ x y z p q r : Nat, (y < x ∨ x = y ∧ p ≤ q) → (z < y ∨ y = z ∧ q ≤ r) →
      z < x ∨ x = z ∧ p ≤ r := by omega
  exact hnat _ _ _ _ _ _ hab hbc

theorem mem_matchPage_iff (query : OpenSearchAlertMatch) (alerts : AlertTable) (alert : Alert) :
    alert ∈ page (UpdatedBefore position) 50 (matchingAlerts lower query alerts) ↔
      (alert ∈ alerts ∧ MatchesQuery lower query alert) ∧
        rank (UpdatedBefore position) (matchingAlerts lower query alerts) alert < 50 := by
  have hnodup : (matchingAlerts lower query alerts).Nodup :=
    (alerts.nodup.of_map).sublist List.filter_sublist
  rw [mem_page_iff hnodup, matchingAlerts, List.mem_filter, decide_eq_true_eq]
  · rfl
  · intro a ha b hb hab hba
    refine Table.eq_of_key_eq (List.mem_of_mem_filter ha) (List.mem_of_mem_filter hb) ?_
    have hnat : ∀ x y p q : Nat, (y < x ∨ x = y ∧ p ≤ q) → (x < y ∨ y = x ∧ q ≤ p) → p = q := by
      omega
    exact position.injective (hnat _ _ _ _ hab hba)

theorem matchOpenSearchAlerts_eq_ok_iff (query : OpenSearchAlertMatch) (failure : Option String)
    (alerts : AlertTable) (matched : List Alert) :
    matchOpenSearchAlerts lower position query failure alerts = .ok matched ↔
      query.trimmed.receiverId ≠ "" ∧ ¬ query.trimmed.NoIdentity ∧ failure = none ∧
        page (UpdatedBefore position) 50 (matchingAlerts lower query.trimmed alerts) = matched := by
  by_cases hid : query.trimmed.receiverId = ""
  · simp [matchOpenSearchAlerts, hid]
  · by_cases hidentity : query.trimmed.NoIdentity
    · simp [matchOpenSearchAlerts, hid, hidentity]
    · cases failure <;> simp [matchOpenSearchAlerts, hid, hidentity]

theorem evaluate_of_not_canLookUp (h : ¬ services.CanLookUp check) :
    ∃ category reason,
      evaluateOpenSearchAlertCheck quote lower position services check (some start) =
        check.failed category reason := by
  unfold evaluateOpenSearchAlertCheck
  split
  · exact ⟨_, _, rfl⟩
  · rename_i havailable
    split
    · exact ⟨_, _, rfl⟩
    · rename_i hreceiver
      rw [not_or] at hreceiver
      split
      · exact ⟨_, _, rfl⟩
      · rename_i matched hmatched
        obtain ⟨hid, hidentity, hquery, -⟩ :=
          (matchOpenSearchAlerts_eq_ok_iff lower position _ _ _ _).mp hmatched
        exact absurd ⟨by simpa using havailable, by simpa using hreceiver.1, hreceiver.2, hid,
          hidentity, hquery⟩ h

theorem evaluate_of_canLookUp (h : services.CanLookUp check) :
    evaluateOpenSearchAlertCheck quote lower position services check (some start) =
      applyOpenSearchAlertGate quote (check.failed "" "")
        (page (UpdatedBefore position) 50
          (matchingAlerts lower check.query.trimmed services.alerts)) (some start) := by
  obtain ⟨havailable, hreceiver, hfound, hid, hidentity, hquery⟩ := h
  have hmatched := (matchOpenSearchAlerts_eq_ok_iff lower position check.query
    services.queryFailure services.alerts _).mpr ⟨hid, hidentity, hquery, rfl⟩
  simp [evaluateOpenSearchAlertCheck, hmatched, havailable, hreceiver, hfound]

/-- **When an alert check passes only without active alerts.**  For every store of alerts and every
check: a passed check has no selected alert that is firing or was triggered at or after the
deployment start, exactly when the alerts cannot be looked up or, of the selected alerts that are
so, one is among the 50 selected alerts that were updated last. -/
theorem alert_check_passes_iff :
    ((evaluateOpenSearchAlertCheck quote lower position services check (some start)).status =
        "SUCCESS" →
      ∀ alert ∈ services.alerts, check.Selects lower alert → ¬ Alarming start alert) ↔
      ¬ services.CanLookUp check ∨ services.AlarmsNearTop lower position check start := by
  by_cases hlookup : services.CanLookUp check
  · rw [evaluate_of_canLookUp quote lower position services check start hlookup, gate_success_iff]
    simp only [hlookup, not_true, false_or, mem_matchPage_iff]
    constructor
    · rintro h ⟨alert, hmem, hselects, halarming⟩
      by_contra hnone
      refine h ?_ alert hmem hselects halarming
      rintro other ⟨⟨hother, hmatches⟩, hrank⟩ hbad
      exact hnone ⟨other, hother, hmatches, hbad, hrank⟩
    · intro h hquiet alert hmem hselects halarming
      obtain ⟨other, hother, hmatches, hbad, hrank⟩ := h ⟨alert, hmem, hselects, halarming⟩
      exact hquiet other ⟨⟨hother, hmatches⟩, hrank⟩ hbad
  · refine iff_of_true (fun hsuccess => ?_) (.inl hlookup)
    obtain ⟨category, reason, hfailed⟩ :=
      evaluate_of_not_canLookUp quote lower position services check start hlookup
    rw [hfailed] at hsuccess
    simp [AlertCheck.failed] at hsuccess

end Passed

/-- An alert of one trigger, updated last at `updatedAt`. -/
def triggerAlert (id updatedAt : Nat) (state : AlertState) : Alert where
  id := id
  monitorId := none
  deduplicationKey := toString id
  state := state
  severity := .high
  title := "latency"
  description := ""
  failureCategory := "OPENSEARCH_ALERT"
  failedStepId := ""
  consecutiveFailures := 1
  firstTriggeredAt := updatedAt
  lastTriggeredAt := updatedAt
  resolvedAt := if state = .resolved then some updatedAt else none
  createdAt := updatedAt
  updatedAt := updatedAt
  source := .openSearchAlerting
  external := some ⟨"receiver", "monitor", "", "BUCKET_LEVEL", "trigger", "", "alert", toString id⟩
  upstreamState := stateText state
  hitCount := none
  lastReceivedAt := some updatedAt
  lastReconciledAt := none

def triggerCheck : AlertCheck :=
  ⟨"stage", "Stage", "check", "OPENSEARCH_ALERT", "receiver", "monitor", "trigger", "", "",
    "Latency", true⟩

/-- An open alert of one bucket, and 50 alerts of other buckets that were resolved later. -/
def crowdedServices : AlertServices where
  available := true
  receivers := ⟨[⟨"receiver", true, "", "", none, [], none⟩], by decide⟩
  failsReceiver := false
  alerts :=
    ⟨triggerAlert 0 0 .open ::
      (List.range 50).map fun i => triggerAlert (i + 1) (i + 1) .resolved, by decide⟩
  queryFailure := none

/-- With 50 alerts resolved later, the check passes although one alert is open. -/
theorem open_alert_passes :
    (evaluateOpenSearchAlertCheck id id (.refl Nat) crowdedServices triggerCheck
        (some 100)).status = "SUCCESS" ∧
      ∃ alert ∈ crowdedServices.alerts, triggerCheck.Selects id alert ∧ alert.state = .open := by
  refine ⟨by decide +kernel, triggerAlert 0 0 .open, List.mem_cons_self, ?_, rfl⟩
  unfold AlertCheck.Selects
  decide +kernel

end Gate

end Rhythm.Suites
