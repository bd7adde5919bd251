import Rhythm.Alerts.LatestEvent

/-!
# Rhythm.Alerts.Reconcile

`Reconcile`: the alerts that the Alerting API reports, applied one by one for the
receiver that asks.  The API is asked for the alerts of every monitor; what it
reports becomes an event with the fields that it shares with a webhook, without
the bucket key, and an alert that the receiver does not accept or whose
statements fail is passed over.

`fmt.Sprint` of a number is a parameter, beside those of `Ingest`.
-/

namespace Rhythm.Alerts.OpenSearch

open Notifications Text Unmarshal

/-! ## The Alerting API -/

/-- What `Reconcile` works with. -/
structure ReconcileLibrary extends Library where
  /-- `%v` of a `float64`. -/
  formatFloat : Rat → String

/-- An alert as the API reports it: a `map[string]any`, or nil. -/
abbrev ApiAlert := Option (List (String × Json))

/-- `json.Unmarshal` into the payload. -/
def unmarshalAlerts (lib : Library) : Decoder (List ApiAlert) :=
  struct [field "alerts" id (fun alerts _ => alerts) (slice (map lib.parseFloat) none)]

/-- `text`. -/
def text (lib : ReconcileLibrary) : Json → String
  | .null => ""
  | value => sprint lib.formatFloat value

def normalizeAPIMonitorType (value : String) : String :=
  let value := toUpper value
  if contains value "BUCKET" then "BUCKET_LEVEL"
  else if contains value "DOC" then "DOCUMENT_LEVEL"
  else "QUERY_LEVEL"

/-- `eventFromAPI`, without the period, which only becomes evidence. -/
def eventFromAPI (lib : ReconcileLibrary) (item : ApiAlert) : ExternalEvent :=
  let fields := item.getD []
  { monitorId := text lib (member fields "monitor_id")
    monitorName := text lib (member fields "monitor_name")
    monitorType := normalizeAPIMonitorType (text lib (member fields "monitor_type"))
    triggerId := text lib (member fields "trigger_id")
    triggerName := text lib (member fields "trigger_name")
    severity := text lib (member fields "severity")
    alertId := text lib (member fields "id")
    bucketKey := ""
    state := text lib (member fields "state")
    hitCount := none
    error := text lib (member fields "error_message")
    occurredAt := none }

def reportedEvent (lib : ReconcileLibrary) (item : ApiAlert) : ExternalEvent :=
  normalizeEvent lib.unescape (eventFromAPI lib item)

/-- The event of a reported alert that the receiver accepts. -/
def acceptedEvent (lib : ReconcileLibrary) (receiver : Receiver) (item : ApiAlert) :
    Option ExternalEvent :=
  if (eventFromAPI lib item).monitorId = "" then none
  else if validateEvent (reportedEvent lib item) receiver.expectedMonitorTypes = none then
    some (reportedEvent lib item)
  else none

/-! ## The loop -/

/-- What a reconciliation meets: the identifiers it draws, the time that passes before each
alert of the report, the statement of `applyEvent` that fails there, and whether the receiver
is read. -/
structure ReconcileConditions where
  newAlertId : (alerts : AlertTable) → FreshAlertId alerts
  elapsed : Nat → Nat
  failing : Nat → Option Statement
  failsReceiver : Bool

/-- The clock of alert `i`. -/
def ReconcileConditions.clock (conds : ReconcileConditions) (i : Nat) (s : State) : State :=
  { s with now := s.now + conds.elapsed i }

/-- The identifier of a new row for alert `i`. -/
def ReconcileConditions.newID (conds : ReconcileConditions) (i : Nat) (s : State) :
    FreshAlertId (conds.clock i s).alerts :=
  conds.newAlertId s.alerts

/-- `applyEvent` for alert `i` of the report, and whether it returns without an error. -/
def reconcileEvent (conds : ReconcileConditions) (receiverID : String) (i : Nat)
    (event : ExternalEvent) (s : State) : State × Bool :=
  let newID := conds.newID i s
  ((applyEvent receiverID event true newID (conds.failing i) (conds.clock i s)).get
      (applyEvent_isSome newID),
    (conds.failing i).all fun statement =>
      statement = .enqueueNotifications ∧
        (eventTarget receiverID event newID (conds.clock i s)).due = none)

/-- The loop of `Reconcile`, from alert `i` of the report on, and how many were applied. -/
def reconcileAlerts (lib : ReconcileLibrary) (conds : ReconcileConditions) (receiver : Receiver) :
    Nat → List ApiAlert → State → State × Nat
  | _, [], s => (s, 0)
  | i, item :: items, s =>
    match acceptedEvent lib receiver item with
    | none => reconcileAlerts lib conds receiver (i + 1) items s
    | some event =>
      let applied := reconcileEvent conds receiver.id i event s
      let rest := reconcileAlerts lib conds receiver (i + 1) items applied.1
      (rest.1, if applied.2 then rest.2 + 1 else rest.2)

/-! ## Reconcile -/

inductive ReconcileError where
  | unavailable | receiver | fetch
  | message (text : String)
  deriving DecidableEq

/-- The reply to a reconciliation. -/
structure Reconciliation where
  alertsSeen : Nat
  alertsChanged : Nat
  completedAt : Time
  deriving DecidableEq

/-- What `Reconcile` does before its loop: the receiver and the report.  Without a fetcher there
is no response, and a fetch that fails has none inside. -/
def fetchReport (lib : ReconcileLibrary) (conds : ReconcileConditions)
    (response : Option (Option ByteArray)) (receiverID : String) (receivers : ReceiverTable) :
    Except ReconcileError (Receiver × List ApiAlert) :=
  match response with
  | none => .error .unavailable
  | some fetched =>
    match (receivers.get? receiverID).filter fun _ => !conds.failsReceiver with
    | none => .error .receiver
    | some receiver =>
      match fetched with
      | none => .error .fetch
      | some raw =>
        match (lib.parse raw).bind fun text => unmarshalAlerts lib.toLibrary text [] with
        | none => .error (.message "OpenSearch Alerting API returned invalid JSON")
        | some report => .ok (receiver, report)

/-- `Reconcile`. -/
def reconcile (lib : ReconcileLibrary) (conds : ReconcileConditions)
    (response : Option (Option ByteArray)) (receiverID : String) (receivers : ReceiverTable)
    (s : State) : State × Except ReconcileError Reconciliation :=
  match fetchReport lib conds response receiverID receivers with
  | .error error => (s, .error error)
  | .ok (receiver, report) =>
    let done := reconcileAlerts lib conds receiver 0 report s
    (done.1, .ok ⟨report.length, done.2, done.1.now⟩)

/-! ## What an event writes -/

section Written

variable {receiverID : String} {event : ExternalEvent} {reconciled : Bool} {newID : AlertId}
  {s : State} {alerts : AlertTable}

theorem alertId_eventTarget :
    (eventTarget receiverID event newID s).alertId =
      ((latestAlert? (deduplicationKey receiverID event) s.alerts).map Alert.id).getD newID := by
  unfold eventTarget
  cases latestAlert? (deduplicationKey receiverID event) s.alerts <;> rfl

variable {conds : ReconcileConditions}

theorem applyEvent_reconcileEvent {i : Nat} :
    applyEvent receiverID event true (conds.newID i s) (conds.failing i) (conds.clock i s) =
      some (reconcileEvent conds receiverID i event s).1 :=
  (Option.some_get _).symm

theorem writeAlert_reconcileEvent {i : Nat}
    (hwrites : (conds.failing i).any Statement.precedesWrite = false) :
    writeAlert receiverID event true (conds.newID i s) (conds.clock i s) =
      some (reconcileEvent conds receiverID i event s).1.alerts := by
  have happlied := @applyEvent_reconcileEvent receiverID event s conds i
  simp only [applyEvent, hwrites, Bool.false_eq_true, if_false, Option.map_eq_some_iff]
    at happlied
  obtain ⟨alerts, halerts, hnext⟩ := happlied
  rw [halerts, ← hnext]

theorem alerts_reconcileEvent {i : Nat}
    (hfails : (conds.failing i).any Statement.precedesWrite = true) :
    (reconcileEvent conds receiverID i event s).1.alerts = s.alerts := by
  have happlied := @applyEvent_reconcileEvent receiverID event s conds i
  rw [applyEvent, if_pos hfails, Option.some.injEq] at happlied
  rw [← happlied]
  rfl

end Written

end Rhythm.Alerts.OpenSearch
