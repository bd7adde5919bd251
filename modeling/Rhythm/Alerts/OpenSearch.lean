import Mathlib.Data.List.MinMax
import Rhythm.Alerts.Domain
import Rhythm.Transition

/-!
# Rhythm.Alerts.OpenSearch

Alerts received from OpenSearch: `applyEvent` moves the one row of the upstream
alert through its incidents — open, resolved, open again — and queues the
notifications of each change.  The system around it acknowledges and resolves
alerts by hand, switches channels on and off and dispatches deliveries.

The statements of `applyEvent` are not one transaction: an event carries the
statement at which the pool fails, if it does, and what was written before it
stays.
-/

namespace Rhythm.Alerts.OpenSearch

open Notifications

/-! ## Events -/

/-- `ExternalEvent`, normalised, without the parts that only become evidence. -/
structure ExternalEvent where
  monitorId : String
  monitorName : String
  monitorType : String
  triggerId : String
  triggerName : String
  severity : String
  alertId : String
  bucketKey : String
  state : String
  hitCount : Option Int
  error : String
  occurredAt : Option Time
  deriving DecidableEq

/-- `mapState`. -/
def mapState : String → AlertState
  | "ACKNOWLEDGED" => .acknowledged
  | "COMPLETED" | "DELETED" => .resolved
  | "ERROR" => .error
  | _ => .open

/-- `mapSeverity`. -/
def mapSeverity : String → Severity
  | "1" | "CRITICAL" => .critical
  | "2" | "HIGH" => .high
  | "3" | "WARNING" | "MEDIUM" => .warning
  | "4" | "LOW" => .low
  | _ => .info

def category (event : ExternalEvent) : String :=
  if event.state = "ERROR" then "OPENSEARCH_MONITOR_ERROR" else "OPENSEARCH_ALERT"

/-- The key under which the receiver's events of one upstream alert share a row. -/
def deduplicationKey (receiverID : String) (event : ExternalEvent) : String :=
  "opensearch:" ++ receiverID ++ ":" ++ event.monitorId ++ ":" ++ event.triggerId ++ ":" ++
    event.alertId ++ ":" ++ event.bucketKey

/-! ## The row of an event -/

/-- The row of `INSERT INTO alerts`. -/
def insertedAlert (newID : AlertId) (receiverID : String) (event : ExternalEvent)
    (reconciled : Bool) (occurred : Time) : Alert where
  id := newID
  monitorId := none
  deduplicationKey := deduplicationKey receiverID event
  state := mapState event.state
  severity := mapSeverity event.severity
  title :=
    if event.triggerName ≠ "" then event.triggerName
    else if event.monitorName ≠ "" then event.monitorName
    else "OpenSearch alert"
  description := if event.error ≠ "" then event.error else event.monitorName
  failureCategory := category event
  failedStepId := ""
  consecutiveFailures := 1
  firstTriggeredAt := occurred
  lastTriggeredAt := occurred
  resolvedAt := if mapState event.state = .resolved then some occurred else none
  createdAt := occurred
  updatedAt := occurred
  source := .openSearchAlerting
  external := some
    { receiverId := receiverID
      monitorId := event.monitorId
      monitorName := event.monitorName
      monitorType := event.monitorType
      triggerId := event.triggerId
      triggerName := event.triggerName
      alertId := event.alertId
      bucketKey := event.bucketKey }
  upstreamState := event.state
  hitCount := event.hitCount
  lastReceivedAt := some occurred
  lastReconciledAt := if reconciled then some occurred else none

/-- The state of an alert after an event: an acknowledged alert stays acknowledged for as
long as the upstream alert is not over. -/
def nextState (existing state : AlertState) : AlertState :=
  if existing = .acknowledged ∧ (state = .open ∨ state = .error) then .acknowledged else state

/-- The columns of `UPDATE alerts SET`. -/
def updatedAlert (event : ExternalEvent) (reconciled : Bool) (occurred : Time) (state : AlertState)
    (alert : Alert) : Alert :=
  { alert with
    state := state
    upstreamState := event.state
    severity := mapSeverity event.severity
    description := if event.error ≠ "" then event.error else alert.description
    hitCount := event.hitCount
    lastTriggeredAt := occurred
    lastReceivedAt := if reconciled then alert.lastReceivedAt else some occurred
    lastReconciledAt := if reconciled then some occurred else alert.lastReconciledAt
    resolvedAt := if state = .resolved then some occurred else none
    updatedAt := occurred }

/-- `SELECT id,state FROM alerts WHERE deduplication_key=$1 ORDER BY created_at DESC
LIMIT 1`. -/
def latestAlert? (key : String) (alerts : AlertTable) : Option Alert :=
  (alerts.rows.filter fun alert => alert.deduplicationKey = key).argmax Alert.createdAt

/-! ## Notifications -/

/-- The three cases of `enqueueOpenSearchNotifications`; `none` as the previous state is a
new alert. -/
def notification : Option AlertState → AlertState → Option EventType
  | none, state => if state = .open ∨ state = .error then some .alertOpened else none
  | some previous, state =>
    if previous ≠ state ∧ (state = .open ∨ state = .error) ∧ previous ≠ .acknowledged then
      some .alertOpened
    else if previous ≠ state ∧ state = .resolved ∧
        (previous = .open ∨ previous = .acknowledged ∨ previous = .error) then
      some .alertRecovered
    else none

/-- `enqueueOpenSearchNotifications`. -/
def enqueueOpenSearchNotifications (alertID : AlertId) (previous : Option AlertState)
    (state : AlertState) (now : Time) (channels : ChannelTable) (deliveries : DeliveryTable) :
    DeliveryTable :=
  match notification previous state with
  | some eventType => enqueue alertID eventType now channels deliveries
  | none => deliveries

/-! ## The system -/

/-- The tables and the clock. -/
structure State where
  now : Time
  channels : ChannelTable
  alerts : AlertTable
  deliveries : DeliveryTable

def initial (now : Time) : State where
  now := now
  channels := .empty
  alerts := .empty
  deliveries := .empty

/-- The statements of `applyEvent`. -/
inductive Statement where
  | selectAlert | writeAlert | recordEvent | enqueueNotifications
  deriving DecidableEq

def Statement.precedesWrite : Statement → Bool
  | .selectAlert | .writeAlert => true
  | _ => false

/-- What an event does: the row it writes, the state it finds and the state it leaves. -/
structure Target where
  alertId : AlertId
  previous : Option AlertState
  state : AlertState

/-- The row that an event of the receiver meets in `s`, or creates as `newID`. -/
def eventTarget (receiverID : String) (event : ExternalEvent) (newID : AlertId) (s : State) :
    Target :=
  match latestAlert? (deduplicationKey receiverID event) s.alerts with
  | none => ⟨newID, none, mapState event.state⟩
  | some existing =>
    ⟨existing.id, some existing.state, nextState existing.state (mapState event.state)⟩

/-- The `INSERT` or the `UPDATE` of an event. -/
def writeAlert (receiverID : String) (event : ExternalEvent) (reconciled : Bool) (newID : AlertId)
    (s : State) : Option AlertTable :=
  let occurred := event.occurredAt.getD s.now
  match latestAlert? (deduplicationKey receiverID event) s.alerts with
  | none => s.alerts.insert (insertedAlert newID receiverID event reconciled occurred)
  | some existing =>
    some (s.alerts.update (fun alert => alert.id = existing.id)
      (updatedAlert event reconciled occurred
        (nextState existing.state (mapState event.state))))

/-- `applyEvent`, for a webhook event or a reconciled one.  A new row needs an identifier
that no row has. -/
def applyEvent (receiverID : String) (event : ExternalEvent) (reconciled : Bool) (newID : AlertId)
    (failing : Option Statement) (s : State) : Option State :=
  if failing.any Statement.precedesWrite then some s
  else
    (writeAlert receiverID event reconciled newID s).map fun alerts =>
      let target := eventTarget receiverID event newID s
      { s with
        alerts := alerts
        deliveries :=
          if failing = none then
            enqueueOpenSearchNotifications target.alertId target.previous target.state
              (event.occurredAt.getD s.now) s.channels s.deliveries
          else s.deliveries }

/-- `Acknowledge`. -/
def acknowledge (alertID : AlertId) (now : Time) (alerts : AlertTable) : AlertTable :=
  alerts.update (fun alert => alert.id = alertID ∧ (alert.state = .open ∨ alert.state = .error))
    fun alert => { alert with state := .acknowledged, updatedAt := now }

/-- `Resolve`: refused for an alert that is active upstream. -/
def resolve (alertID : AlertId) (now : Time) (alerts : AlertTable) : AlertTable :=
  alerts.update
    (fun alert => alert.id = alertID ∧
      ¬ (alert.source = .openSearchAlerting ∧
        (alert.upstreamState = "ACTIVE" ∨ alert.upstreamState = "ACKNOWLEDGED")) ∧
      (alert.state = .open ∨ alert.state = .acknowledged ∨ alert.state = .error))
    fun alert => { alert with state := .resolved, resolvedAt := some now, updatedAt := now }

/-- One event, one request or one move of a dispatcher. -/
inductive Action where
  | tick (elapsed : Nat)
  | createChannel (channel : Channel)
  | setChannelActive (channelID : ChannelId) (active : Bool)
  | applyEvent (receiverID : String) (event : ExternalEvent) (reconciled : Bool) (newID : AlertId)
      (failing : Option Statement)
  | acknowledge (alertID : AlertId)
  | resolve (alertID : AlertId)
  /-- A dispatcher's `claim`; with `SKIP LOCKED` any claimable delivery can be the next. -/
  | claim (key : DeliveryKey)
  /-- The end of a dispatcher's `processOne`. -/
  | finish (key : DeliveryKey) (delivered : Bool)
  deriving DecidableEq

/-- **One step of the alert store.** -/
def step (s : State) : Action → Option State
  | .tick elapsed => some { s with now := s.now + elapsed }
  | .createChannel channel =>
    (s.channels.insert channel).map fun channels => { s with channels := channels }
  | .setChannelActive channelID active =>
    some { s with
      channels := s.channels.update (fun channel => channel.id = channelID)
        fun channel => { channel with active := active } }
  | .applyEvent receiverID event reconciled newID failing =>
    applyEvent receiverID event reconciled newID failing s
  | .acknowledge alertID => some { s with alerts := acknowledge alertID s.now s.alerts }
  | .resolve alertID => some { s with alerts := resolve alertID s.now s.alerts }
  | .claim key =>
    if s.deliveries.any fun d => d.key = key ∧ Claimable s.now s.channels d then
      some { s with deliveries := claimDelivery key s.deliveries }
    else none
  | .finish key delivered =>
    if s.deliveries.any fun d => d.key = key ∧ d.status = .sending then
      some { s with deliveries := finishDelivery key delivered s.now s.deliveries }
    else none

def State.alertState? (s : State) (alertID : AlertId) : Option AlertState :=
  (s.alerts.get? alertID).map Alert.state

/-! ## What an event does -/

variable {receiverID : String} {event : ExternalEvent} {reconciled : Bool} {newID : AlertId}
  {failing : Option Statement} {s s' : State}

variable {alerts : AlertTable}

theorem get?_of_latestAlert? {key : String} {existing : Alert}
    (h : latestAlert? key alerts = some existing) : alerts.get? existing.id = some existing :=
  Table.get?_of_mem (List.mem_of_mem_filter (List.argmax_mem h))

theorem previous_eventTarget (h : writeAlert receiverID event reconciled newID s = some alerts) :
    (eventTarget receiverID event newID s).previous =
      s.alertState? (eventTarget receiverID event newID s).alertId := by
  unfold writeAlert at h
  unfold eventTarget State.alertState?
  cases hlatest : latestAlert? (deduplicationKey receiverID event) s.alerts with
  | none =>
    simp only [hlatest] at h
    have hfresh : s.alerts.get? newID = none := Table.get?_of_insert_eq_none h
    simp [hfresh]
  | some existing => simp [get?_of_latestAlert? hlatest]

def writtenAlert (receiverID : String) (event : ExternalEvent) (reconciled : Bool)
    (newID : AlertId) (s : State) : Alert :=
  let occurred := event.occurredAt.getD s.now
  match latestAlert? (deduplicationKey receiverID event) s.alerts with
  | none => insertedAlert newID receiverID event reconciled occurred
  | some existing =>
    updatedAlert event reconciled occurred (nextState existing.state (mapState event.state))
      existing

/-- **The rows after an event.**  The target's row is the one that the event writes; every
other row stays. -/
theorem get?_writeAlert (h : writeAlert receiverID event reconciled newID s = some alerts)
    (k : AlertId) :
    alerts.get? k =
      if k = (eventTarget receiverID event newID s).alertId then
        some (writtenAlert receiverID event reconciled newID s)
      else s.alerts.get? k := by
  unfold writeAlert at h
  unfold eventTarget writtenAlert
  cases hlatest : latestAlert? (deduplicationKey receiverID event) s.alerts with
  | none =>
    simp only [hlatest] at h ⊢
    have hfresh : s.alerts.get? newID = none := Table.get?_of_insert_eq_none h
    rw [Table.get?_insert h]
    by_cases hk : k = newID
    · subst hk
      simp [hfresh, insertedAlert]
    · have hne : newID ≠ k := fun h => hk h.symm
      simp [hk, hne, insertedAlert]
  | some existing =>
    simp only [hlatest, Option.some.injEq] at h ⊢
    subst h
    rw [Table.get?_update_key]
    by_cases hk : k = existing.id
    · subst hk
      simp [get?_of_latestAlert? hlatest]
    · simp [hk]

theorem state_writtenAlert :
    (writtenAlert receiverID event reconciled newID s).state =
      (eventTarget receiverID event newID s).state := by
  unfold writtenAlert eventTarget
  cases latestAlert? (deduplicationKey receiverID event) s.alerts <;> rfl

/-- **An event row by row.**  The target's row takes the target's state; every other alert
keeps its own. -/
theorem state_writeAlert (k : AlertId)
    (h : writeAlert receiverID event reconciled newID s = some alerts) :
    (alerts.get? k).map Alert.state =
      if k = (eventTarget receiverID event newID s).alertId then
        some (eventTarget receiverID event newID s).state
      else s.alertState? k := by
  rw [get?_writeAlert h, ← @state_writtenAlert receiverID event reconciled,
    apply_ite (Option.map _)]
  rfl

/-- An event that reaches its write: the alert's row, then the notifications of the change,
unless a later statement fails. -/
theorem applyEvent_ok (hwrites : failing.any Statement.precedesWrite = false)
    (h : applyEvent receiverID event reconciled newID failing s = some s') :
    let target := eventTarget receiverID event newID s
    target.previous = s.alertState? target.alertId ∧
      (∀ k, s'.alertState? k =
        if k = target.alertId then some target.state else s.alertState? k) ∧
      s'.channels = s.channels ∧
      s'.deliveries =
        if failing = none then
          enqueueOpenSearchNotifications target.alertId target.previous target.state
            (event.occurredAt.getD s.now) s.channels s.deliveries
        else s.deliveries := by
  simp only [applyEvent, hwrites, Bool.false_eq_true, if_false, Option.map_eq_some_iff] at h
  obtain ⟨alerts, halerts, rfl⟩ := h
  exact ⟨previous_eventTarget halerts, fun k => state_writeAlert k halerts, rfl, rfl⟩

theorem mapState_ne_suppressed (value : String) : mapState value ≠ .suppressed := by
  unfold mapState
  split <;> simp

theorem state_eventTarget_ne_suppressed :
    (eventTarget receiverID event newID s).state ≠ .suppressed := by
  grind [eventTarget, latestAlert?, mapState_ne_suppressed, nextState]

end Rhythm.Alerts.OpenSearch
