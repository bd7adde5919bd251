import Mathlib.Data.List.Sort
import Rhythm.Alerts.OpenSearch
import Rhythm.Unmarshal

/-!
# Rhythm.Alerts.Ingest

`Ingest`: a webhook delivery of up to a hundred alert events.  The delivery's receipt is
inserted under the hash of its body first; a body that has a receipt already is a
duplicate.  Its events are applied one by one after that, and the first that is
invalid or fails ends the delivery.

Each statement is its own transaction, so a delivery carries the statements that
fail.  The scanner of `json.Unmarshal`, the conversions of numbers and times,
`html.UnescapeString` and SHA-256 are parameters.
-/

namespace Rhythm.Alerts.OpenSearch

open Notifications Text Unmarshal

/-! ## The envelope -/

/-- The parts of Go's library that `Ingest` works with. -/
structure Library where
  /-- The syntax tree of a JSON text. -/
  parse : ByteArray → Option JsonText
  parseFloat : String → Option Rat
  /-- `time.Time.UnmarshalJSON`, within the quotes. -/
  parseTime : String → Option Time
  /-- `html.UnescapeString`. -/
  unescape : String → String
  /-- `sha256.Sum256`, in hexadecimal. -/
  sha256 : ByteArray → String

structure Envelope where
  schema : String
  events : List ExternalEvent
  event : Option ExternalEvent
  message : Option JsonText

def Envelope.zero : Envelope := ⟨"", [], none, none⟩

def ExternalEvent.zero : ExternalEvent where
  monitorId := ""
  monitorName := ""
  monitorType := ""
  triggerId := ""
  triggerName := ""
  severity := ""
  alertId := ""
  bucketKey := ""
  state := ""
  hitCount := none
  error := ""
  occurredAt := none

/-- Into a `time.Time`. -/
def decodeTime (lib : Library) : Decoder Time
  | .null, value => some value
  | .str value, _ => lib.parseTime value
  | _, _ => none

/-- Into an `ExternalEvent`. -/
def decodeEvent (lib : Library) : Decoder ExternalEvent :=
  struct
    [field "monitorId" ExternalEvent.monitorId (fun v e => { e with monitorId := v }) string,
      field "monitorName" ExternalEvent.monitorName (fun v e => { e with monitorName := v }) string,
      field "monitorType" ExternalEvent.monitorType (fun v e => { e with monitorType := v }) string,
      field "triggerId" ExternalEvent.triggerId (fun v e => { e with triggerId := v }) string,
      field "triggerName" ExternalEvent.triggerName (fun v e => { e with triggerName := v }) string,
      field "severity" ExternalEvent.severity (fun v e => { e with severity := v }) string,
      field "alertId" ExternalEvent.alertId (fun v e => { e with alertId := v }) string,
      field "bucketKey" ExternalEvent.bucketKey (fun v e => { e with bucketKey := v }) string,
      field "state" ExternalEvent.state (fun v e => { e with state := v }) string,
      unkept "periodStart" "" string,
      unkept "periodEnd" "" string,
      field "hitCount" ExternalEvent.hitCount (fun v e => { e with hitCount := v })
        (pointer int64 0),
      field "error" ExternalEvent.error (fun v e => { e with error := v }) string,
      unkept "findingIds" [] (slice string ""),
      unkept "documentIds" [] (slice string ""),
      unkept "samples" [] (slice (map lib.parseFloat) none),
      unkept "resultSummary" none (map lib.parseFloat),
      field "occurredAt" ExternalEvent.occurredAt (fun v e => { e with occurredAt := v })
        (pointer (decodeTime lib) 0)]

/-- `json.Unmarshal` into an `Envelope`. -/
def unmarshalEnvelope (lib : Library) : Decoder Envelope :=
  struct
    [field "schema" Envelope.schema (fun v e => { e with schema := v }) string,
      field "events" Envelope.events (fun v e => { e with events := v })
        (slice (decodeEvent lib) .zero),
      field "event" Envelope.event (fun v e => { e with event := v })
        (pointer (decodeEvent lib) .zero),
      field "message" Envelope.message (fun v e => { e with message := v }) rawMessage]

def envelopeSchema : String := "rhythm.opensearch-alert.v1"

/-- The envelope inside the message of a notification wrapper: a JSON text in a string, or
the object itself. -/
def unwrapMessage (lib : Library) (envelope : Envelope) (message : JsonText) :
    Except String Envelope :=
  match string message "" with
  | some inner =>
    match (lib.parse inner.toUTF8).bind fun text => unmarshalEnvelope lib text envelope with
    | none => .error "notification message does not contain a valid Rhythm envelope"
    | some envelope => .ok envelope
  | none =>
    match unmarshalEnvelope lib message envelope with
    | none => .error "notification wrapper is invalid"
    | some envelope => .ok envelope

/-- `decodeEnvelope`. -/
def decodeEnvelope (lib : Library) (raw : ByteArray) : Except String Envelope := do
  let envelope ←
    match (lib.parse raw).bind fun text => unmarshalEnvelope lib text .zero with
    | none => .error "request body must be valid JSON"
    | some envelope => .ok envelope
  let envelope ←
    match envelope.message with
    | some message =>
      if envelope.schema = "" then unwrapMessage lib envelope message else .ok envelope
    | none => .ok envelope
  if envelope.schema ≠ envelopeSchema then .error "unsupported webhook schema"
  else .ok envelope

/-- The events of an envelope: the list, then the single one. -/
def Envelope.all (envelope : Envelope) : List ExternalEvent :=
  envelope.events ++ envelope.event.toList

/-- `normalizeEvent`. -/
def normalizeEvent (unescape : String → String) (event : ExternalEvent) : ExternalEvent :=
  let monitorId := unescape (trimSpace event.monitorId)
  let triggerId := unescape (trimSpace event.triggerId)
  let alertId := unescape (trimSpace event.alertId)
  let bucketKey := unescape (trimSpace event.bucketKey)
  let state := toUpper (trimSpace event.state)
  { event with
    monitorId := monitorId
    monitorName := unescape (trimSpace event.monitorName)
    monitorType := toUpper (trimSpace event.monitorType)
    triggerId := triggerId
    triggerName := unescape (trimSpace event.triggerName)
    severity := toUpper (trimSpace event.severity)
    alertId := if alertId = "" then monitorId ++ ":" ++ triggerId ++ ":" ++ bucketKey else alertId
    bucketKey := bucketKey
    state := if state = "" then "ACTIVE" else state
    error := unescape (trimSpace event.error) }

/-- `validateEvent`: the message of the first problem. -/
def validateEvent (event : ExternalEvent) (expected : List String) : Option String :=
  if event.monitorId = "" ∨ event.triggerId = "" ∨ event.alertId = "" then
    some "monitorId, triggerId, and alertId are required"
  else if event.state ∉ ["ACTIVE", "ACKNOWLEDGED", "COMPLETED", "DELETED", "ERROR"] then
    some "upstream alert state is invalid"
  else if event.monitorType ∉ expected then
    some "monitor type is not enabled for this receiver"
  else none

/-! ## Receivers and receipts -/

/-- A row of `opensearch_alert_receivers`. -/
structure Receiver where
  id : String
  enabled : Bool
  tokenHash : String
  previousTokenHash : String
  previousTokenExpiresAt : Option Time
  expectedMonitorTypes : List String
  lastDeliveryAt : Option Time
  deriving DecidableEq

abbrev ReceiverTable := Table Receiver Receiver.id

/-- `validToken`. -/
def validToken (lib : Library) (token : String) (receiver : Receiver) (now : Time) : Bool :=
  let candidate := lib.sha256 (trimSpace token).toUTF8
  candidate = receiver.tokenHash ∨
    receiver.previousTokenHash ≠ "" ∧ receiver.previousTokenExpiresAt.any (now < ·) ∧
      candidate = receiver.previousTokenHash

inductive ReceiptStatus where
  | accepted | processed | rejected | duplicate
  deriving DecidableEq

/-- `normalized_evidence`. -/
structure ReceiptEvidence where
  processedEvents : Nat
  monitorTypes : List String
  deriving DecidableEq

/-- What the receipt of a delivery is unique on. -/
structure ReceiptKey where
  receiverId : String
  bodyHash : String
  deriving DecidableEq

/-- A row of `opensearch_alert_deliveries`.  Empty evidence is `none`. -/
structure Receipt where
  id : Nat
  key : ReceiptKey
  schemaVersion : String
  status : ReceiptStatus
  eventCount : Nat
  safeError : String
  evidence : Option ReceiptEvidence
  receivedAt : Time
  processedAt : Option Time
  deriving DecidableEq

/-- The receipts, under their unique index. -/
abbrev ReceiptTable := Table Receipt Receipt.key

/-- The identifier of a new receipt: one that no row has. -/
abbrev FreshReceiptId (receipts : ReceiptTable) :=
  { id : Nat // ∀ receipt ∈ receipts, receipt.id ≠ id }

/-- A row of `alert_events`, without its evidence. -/
structure AlertEvent where
  alertId : AlertId
  eventType : String
  upstreamState : String
  summary : String
  occurredAt : Time
  deriving DecidableEq

/-- The tables that a delivery reads and writes. -/
structure Inbox where
  store : State
  events : List AlertEvent
  receipts : ReceiptTable
  receivers : ReceiverTable

/-- What a delivery is for. -/
structure Effects where
  alerts : AlertTable
  events : List AlertEvent
  notifications : DeliveryTable

def Inbox.effects (inbox : Inbox) : Effects :=
  ⟨inbox.store.alerts, inbox.events, inbox.store.deliveries⟩

def Inbox.later (inbox : Inbox) (wait : Nat) : Inbox :=
  { inbox with store := { inbox.store with now := inbox.store.now + wait } }

/-! ## One delivery -/

/-- The statements of `Ingest`; event `i` has those of `applyEvent`. -/
inductive Step where
  | loadReceiver | insertReceipt | selectReceipt | listReceipts
  | event (i : Nat) (statement : Statement)
  | rejectReceipt | finishReceipt | touchReceiver
  deriving DecidableEq

/-- What a delivery meets: the identifiers it draws, the time that passes before each of its
events, and the statements that fail. -/
structure Conditions where
  newAlertId : (alerts : AlertTable) → FreshAlertId alerts
  newReceiptId : (receipts : ReceiptTable) → FreshReceiptId receipts
  elapsed : Nat → Nat
  fails : Step → Bool

def Conditions.Unfailing (conds : Conditions) : Prop := ∀ step, conds.fails step = false

/-- The first statement of event `i` that would fail. -/
def Conditions.failing (conds : Conditions) (i : Nat) : Option Statement :=
  [.selectAlert, .writeAlert, .recordEvent, .enqueueNotifications].find? fun statement =>
    conds.fails (.event i statement)

/-- The clock of event `i`. -/
def Inbox.clock (inbox : Inbox) (conds : Conditions) (i : Nat) : State :=
  { inbox.store with now := inbox.store.now + conds.elapsed i }

/-- The row that event `i` meets, or creates. -/
def Inbox.target (inbox : Inbox) (conds : Conditions) (receiverID : String) (i : Nat)
    (event : ExternalEvent) : Target :=
  eventTarget receiverID event (conds.newAlertId inbox.store.alerts) (inbox.clock conds i)

def Target.due (target : Target) : Option EventType := notification target.previous target.state

variable {s : State}

theorem applyEvent_isSome {receiverID : String} {event : ExternalEvent} {reconciled : Bool}
    {failing : Option Statement} (newID : FreshAlertId s.alerts) :
    (applyEvent receiverID event reconciled newID failing s).isSome = true := by
  have hwrite : (writeAlert receiverID event reconciled newID s).isSome = true := by
    unfold writeAlert
    cases latestAlert? (deduplicationKey receiverID event) s.alerts with
    | none =>
      rw [Option.isSome_iff_ne_none]
      intro hnone
      obtain ⟨alert, halert⟩ := Table.insert_eq_none_iff.mp hnone
      have hfresh := newID.2
      simp [insertedAlert, hfresh] at halert
    | some existing => rfl
  unfold applyEvent
  split
  · rfl
  · rw [Option.isSome_map, hwrite]

/-- `applyEvent` for event `i` of a delivery, and whether it returns without an error. -/
def ingestEvent (conds : Conditions) (receiverID : String) (i : Nat) (event : ExternalEvent)
    (inbox : Inbox) : Inbox × Bool :=
  let failing := conds.failing i
  let target := inbox.target conds receiverID i event
  let newID : FreshAlertId (inbox.clock conds i).alerts := conds.newAlertId inbox.store.alerts
  ({ inbox with
      store :=
        (applyEvent receiverID event false newID failing (inbox.clock conds i)).get
          (applyEvent_isSome newID)
      events :=
        if failing = none ∨ failing = some .enqueueNotifications then
          inbox.events ++
            [{ alertId := target.alertId
               eventType := "OPENSEARCH_" ++ event.state
               upstreamState := event.state
               summary := "OpenSearch alert state received"
               occurredAt := (inbox.clock conds i).now }]
        else inbox.events },
    -- the insert of the notifications is made only when some are due
    failing.all fun statement => statement = .enqueueNotifications ∧ target.due = none)

/-- Why a delivery ends early: the text in its receipt and the text of the reply. -/
structure Rejection where
  stored : String
  replied : String
  deriving DecidableEq

/-- The loop of `Ingest`, from event `i` on. -/
def ingestEvents (lib : Library) (conds : Conditions) (receiver : Receiver) :
    Nat → List ExternalEvent → Inbox → Inbox × Option Rejection
  | _, [], inbox => (inbox, none)
  | i, event :: events, inbox =>
    let event := normalizeEvent lib.unescape event
    match validateEvent event receiver.expectedMonitorTypes with
    | some message => (inbox, some ⟨message, message⟩)
    | none =>
      let applied := ingestEvent conds receiver.id i event inbox
      if applied.2 then ingestEvents lib conds receiver (i + 1) events applied.1
      else
        (applied.1,
          some ⟨"Unable to normalize alert event.", "alert event could not be processed"⟩)

/-- An error of `Ingest`; a database error has the driver's text. -/
inductive IngestError where
  | unauthorized
  | message (text : String)
  | database
  deriving DecidableEq

/-- `rejectDelivery`. -/
def rejectDelivery (conds : Conditions) (key : ReceiptKey) (message : String) (inbox : Inbox) :
    Inbox :=
  if conds.fails .rejectReceipt then inbox
  else
    { inbox with
      receipts := inbox.receipts.update (fun receipt => receipt.key = key) fun receipt =>
        { receipt with
          status := .rejected
          safeError := String.ofList (message.toList.take 500)
          processedAt := some inbox.store.now } }

def finishReceipt (conds : Conditions) (key : ReceiptKey) (evidence : ReceiptEvidence)
    (inbox : Inbox) : Inbox :=
  { inbox with
    receipts :=
      if conds.fails .finishReceipt then inbox.receipts
      else
        inbox.receipts.update (fun receipt => receipt.key = key) fun receipt =>
          { receipt with
            status := .processed
            evidence := some evidence
            processedAt := some inbox.store.now }
    receivers :=
      if conds.fails .touchReceiver then inbox.receivers
      else
        inbox.receivers.update (fun receiver => receiver.id = key.receiverId) fun receiver =>
          { receiver with lastDeliveryAt := some inbox.store.now } }

def acceptedReceipt (id : Nat) (key : ReceiptKey) (schema : String) (eventCount : Nat)
    (now : Time) : Receipt where
  id := id
  key := key
  schemaVersion := schema
  status := .accepted
  eventCount := eventCount
  safeError := ""
  evidence := none
  receivedAt := now
  processedAt := none

/-- `Deliveries`: the newest hundred receipts of a receiver; none when the read fails. -/
def deliveries (conds : Conditions) (receiverID : String) (receipts : ReceiptTable) :
    List Receipt :=
  if conds.fails .listReceipts then []
  else
    ((receipts.rows.filter fun (d : Receipt) => d.key.receiverId = receiverID).insertionSort
      fun (a b : Receipt) => b.receivedAt ≤ a.receivedAt).take 100

/-- The reply to a delivery whose body has a receipt already. -/
def duplicateReply (conds : Conditions) (stored : Receipt) (schema : String) (eventCount : Nat)
    (inbox : Inbox) : Receipt :=
  ((deliveries conds stored.key.receiverId inbox.receipts).find? fun d => d.id = stored.id).getD
    { acceptedReceipt stored.id stored.key schema eventCount inbox.store.now with
      status := .duplicate }

/-- `Ingest` once the credential and the envelope are accepted. -/
def deliver (lib : Library) (conds : Conditions) (receiver : Receiver) (bodyHash schema : String)
    (events : List ExternalEvent) (inbox : Inbox) : Inbox × Except IngestError (Receipt × Bool) :=
  let key : ReceiptKey := ⟨receiver.id, bodyHash⟩
  let deliveryID : Nat := conds.newReceiptId inbox.receipts
  let accepted := acceptedReceipt deliveryID key schema events.length inbox.store.now
  if conds.fails .insertReceipt then (inbox, .error .database)
  else
    let inbox := { inbox with receipts := inbox.receipts.insertIgnore accepted }
    match if conds.fails .selectReceipt then none else inbox.receipts.get? key with
    | none => (inbox, .error .database)
    | some stored =>
      if stored.id ≠ deliveryID then
        (inbox, .ok (duplicateReply conds stored schema events.length inbox, true))
      else
        match ingestEvents lib conds receiver 0 events inbox with
        | (inbox, some rejection) =>
          (rejectDelivery conds key rejection.stored inbox, .error (.message rejection.replied))
        | (inbox, none) =>
          let evidence : ReceiptEvidence := ⟨events.length, receiver.expectedMonitorTypes⟩
          (finishReceipt conds key evidence inbox,
            .ok ({ accepted with
              status := .processed
              evidence := some evidence
              processedAt := some accepted.receivedAt }, false))

/-- The receiver of a delivery, when the credential is good. -/
def authorize (lib : Library) (conds : Conditions) (receiverID token : String) (inbox : Inbox) :
    Option Receiver :=
  if conds.fails .loadReceiver then none
  else
    (inbox.receivers.get? receiverID).filter fun receiver =>
      receiver.enabled && validToken lib token receiver inbox.store.now

def accept (lib : Library) (raw : ByteArray) : Except String (String × List ExternalEvent) := do
  let envelope ← decodeEnvelope lib raw
  if envelope.all.length = 0 ∨ envelope.all.length > 100 then
    .error "webhook must contain between 1 and 100 events"
  else .ok (envelope.schema, envelope.all)

/-- **`Ingest`.** -/
def ingest (lib : Library) (conds : Conditions) (receiverID token : String) (raw : ByteArray)
    (inbox : Inbox) : Inbox × Except IngestError (Receipt × Bool) :=
  match authorize lib conds receiverID token inbox with
  | none => (inbox, .error .unauthorized)
  | some receiver =>
    match accept lib raw with
    | .error message => (inbox, .error (.message message))
    | .ok (schema, events) =>
      deliver lib conds receiver (lib.sha256 raw) schema events inbox

/-! ## The state of an upstream alert -/

def upstreamState? (key : String) (alerts : AlertTable) : Option AlertState :=
  (latestAlert? key alerts).map Alert.state

def afterEvent (previous : Option AlertState) (event : ExternalEvent) : AlertState :=
  previous.elim (mapState event.state) fun existing => nextState existing (mapState event.state)

theorem argmax_map {f : Alert → Time} {g : Alert → Alert} (hf : ∀ alert, f (g alert) = f alert)
    (rows : List Alert) : (rows.map g).argmax f = (rows.argmax f).map g := by
  induction rows with
  | nil => rfl
  | cons row rows ih =>
    rw [List.map_cons, List.argmax_cons, List.argmax_cons, ih]
    cases rows.argmax f with
    | none => rfl
    | some later =>
      simp only [Option.map_some, hf]
      split <;> rfl

variable {alerts : AlertTable}

theorem latestAlert?_update {p : Alert → Prop} [DecidablePred p]
    {f : Alert → Alert} {hf : Table.KeepsKey Alert.id f} (key : String)
    (hkey : ∀ alert, (f alert).deduplicationKey = alert.deduplicationKey)
    (hcreated : ∀ alert, (f alert).createdAt = alert.createdAt) :
    latestAlert? key (alerts.update p f hf) =
      (latestAlert? key alerts).map fun alert => if p alert then f alert else alert := by
  have hkept : ∀ alert, (if p alert then f alert else alert).deduplicationKey =
      alert.deduplicationKey := fun alert => by
    split
    · exact hkey alert
    · rfl
  have htime : ∀ alert, (if p alert then f alert else alert).createdAt = alert.createdAt :=
    fun alert => by
      split
      · exact hcreated alert
      · rfl
  rw [latestAlert?, latestAlert?, Table.update, List.filter_map, ← argmax_map htime]
  congr 3
  funext alert
  simp only [Function.comp, hkept]

theorem key_of_latestAlert? {key : String} {existing : Alert}
    (h : latestAlert? key alerts = some existing) : existing.deduplicationKey = key := by
  have hmem := List.argmax_mem h
  simpa using List.of_mem_filter hmem

theorem deduplicationKey_writtenAlert {receiverID : String} {event : ExternalEvent}
    {reconciled : Bool} {newID : AlertId} {s : State} :
    (writtenAlert receiverID event reconciled newID s).deduplicationKey =
      deduplicationKey receiverID event := by
  unfold writtenAlert
  cases hlatest : latestAlert? (deduplicationKey receiverID event) s.alerts with
  | none => rfl
  | some existing =>
    have hkey := key_of_latestAlert? hlatest
    exact hkey

variable {newID : AlertId}

/-- **The row of an event.**  Afterwards its key reads the target; every other key reads what
it read before. -/
theorem latestAlert?_writeAlert {receiverID : String} {event : ExternalEvent} {reconciled : Bool}
    (key : String) (h : writeAlert receiverID event reconciled newID s = some alerts) :
    (latestAlert? key alerts).map (fun alert => (alert.id, alert.state)) =
      if key = deduplicationKey receiverID event then
        some ((eventTarget receiverID event newID s).alertId,
          (eventTarget receiverID event newID s).state)
      else (latestAlert? key s.alerts).map fun alert => (alert.id, alert.state) := by
  unfold writeAlert at h
  unfold eventTarget
  cases hlatest : latestAlert? (deduplicationKey receiverID event) s.alerts with
  | none =>
    simp only [hlatest] at h ⊢
    obtain ⟨-, hrows⟩ := Table.insert_eq_some_iff.mp h
    rw [latestAlert?, hrows, List.filter_append]
    by_cases hkey : key = deduplicationKey receiverID event
    · subst hkey
      rw [latestAlert?, List.argmax_eq_none] at hlatest
      simp [hlatest, insertedAlert]
    · have hother : deduplicationKey receiverID event ≠ key := fun h => hkey h.symm
      simp [hkey, hother, insertedAlert, latestAlert?]
  | some existing =>
    simp only [hlatest, Option.some.injEq] at h ⊢
    subst h
    rw [latestAlert?_update (f := updatedAlert event reconciled _ _) key (fun _ => rfl)
      fun _ => rfl]
    by_cases hkey : key = deduplicationKey receiverID event
    · subst hkey
      simp [hlatest, updatedAlert]
    · rw [if_neg hkey, Option.map_map]
      cases hread : latestAlert? key s.alerts with
      | none => rfl
      | some row =>
        have hne : row.id ≠ existing.id := by
          intro hid
          have hsame : row = existing := Option.some.inj
            ((get?_of_latestAlert? hread).symm.trans (hid ▸ get?_of_latestAlert? hlatest))
          subst hsame
          exact hkey ((key_of_latestAlert? hread).symm.trans (key_of_latestAlert? hlatest))
        simp [hne]

theorem previous_eventTarget_eq {receiverID : String} {event : ExternalEvent} :
    (eventTarget receiverID event newID s).previous =
      upstreamState? (deduplicationKey receiverID event) s.alerts := by
  unfold eventTarget upstreamState?
  cases latestAlert? (deduplicationKey receiverID event) s.alerts <;> rfl

theorem state_eventTarget_eq {receiverID : String} {event : ExternalEvent} :
    (eventTarget receiverID event newID s).state =
      afterEvent (upstreamState? (deduplicationKey receiverID event) s.alerts) event := by
  unfold eventTarget upstreamState? afterEvent
  cases latestAlert? (deduplicationKey receiverID event) s.alerts <;> rfl

/-! ## What an event of a delivery does -/

variable {lib : Library} {conds : Conditions} {receiver : Receiver} {receiverID : String} {i : Nat}
  {event : ExternalEvent} {inbox : Inbox}

theorem Conditions.Unfailing.failing_eq (h : conds.Unfailing) (i : Nat) :
    conds.failing i = none := by
  rw [Conditions.failing, List.find?_eq_none]
  intro statement _
  rw [h]
  simp

theorem previous_target :
    (inbox.target conds receiverID i event).previous =
      upstreamState? (deduplicationKey receiverID event) inbox.store.alerts :=
  previous_eventTarget_eq

theorem state_target :
    (inbox.target conds receiverID i event).state =
      afterEvent (upstreamState? (deduplicationKey receiverID event) inbox.store.alerts) event :=
  state_eventTarget_eq

/-- **An event of a delivery.**  Once its row is written its key reads the target; the channels
stay, and the notifications are queued unless their insert fails. -/
theorem ingestEvent_ok (hwrites : (conds.failing i).any Statement.precedesWrite = false) :
    let target := inbox.target conds receiverID i event
    let next := (ingestEvent conds receiverID i event inbox).1
    (∀ key, (latestAlert? key next.store.alerts).map (fun alert => (alert.id, alert.state)) =
      if key = deduplicationKey receiverID event then some (target.alertId, target.state)
      else (latestAlert? key inbox.store.alerts).map fun alert => (alert.id, alert.state)) ∧
    next.store.channels = inbox.store.channels ∧
    next.store.deliveries =
      if conds.failing i = none then
        enqueueOpenSearchNotifications target.alertId target.previous target.state
          (event.occurredAt.getD (inbox.clock conds i).now) inbox.store.channels
          inbox.store.deliveries
      else inbox.store.deliveries := by
  intro target next
  have happlied : applyEvent receiverID event false (conds.newAlertId inbox.store.alerts)
      (conds.failing i) (inbox.clock conds i) = some next.store :=
    (Option.some_get _).symm
  simp only [applyEvent, hwrites, Bool.false_eq_true, if_false, Option.map_eq_some_iff] at happlied
  obtain ⟨alerts, halerts, hnext⟩ := happlied
  rw [← hnext]
  exact ⟨fun key => latestAlert?_writeAlert key halerts, rfl, rfl⟩

theorem upstreamState?_ingestEvent (key : String)
    (hwrites : (conds.failing i).any Statement.precedesWrite = false) :
    upstreamState? key (ingestEvent conds receiverID i event inbox).1.store.alerts =
      if key = deduplicationKey receiverID event then
        some (afterEvent (upstreamState? key inbox.store.alerts) event)
      else upstreamState? key inbox.store.alerts := by
  obtain ⟨halerts, -, -⟩ := ingestEvent_ok hwrites
  have hkey := congrArg (Option.map Prod.snd) (halerts key)
  rw [Option.map_map] at hkey
  rw [upstreamState?]
  refine hkey.trans ?_
  split
  · next h =>
    subst h
    rw [Option.map_some, state_target]
  · rw [Option.map_map]
    rfl

theorem ingestEvents_cons_ok {events : List ExternalEvent}
    (hvalid :
      validateEvent (normalizeEvent lib.unescape event) receiver.expectedMonitorTypes = none)
    (hok : (ingestEvent conds receiver.id i (normalizeEvent lib.unescape event) inbox).2 = true) :
    ingestEvents lib conds receiver i (event :: events) inbox =
      ingestEvents lib conds receiver (i + 1) events
        (ingestEvent conds receiver.id i (normalizeEvent lib.unescape event) inbox).1 := by
  simp only [ingestEvents, hvalid, hok, if_true]

theorem ingestEvents_cons_failed {events : List ExternalEvent}
    (hvalid :
      validateEvent (normalizeEvent lib.unescape event) receiver.expectedMonitorTypes = none)
    (hfailed :
      (ingestEvent conds receiver.id i (normalizeEvent lib.unescape event) inbox).2 = false) :
    (ingestEvents lib conds receiver i (event :: events) inbox).1 =
      (ingestEvent conds receiver.id i (normalizeEvent lib.unescape event) inbox).1 := by
  simp only [ingestEvents, hvalid, hfailed, Bool.false_eq_true, if_false]

theorem ok_of_failing_none (h : conds.failing i = none) :
    (ingestEvent conds receiverID i event inbox).2 = true := by
  simp [ingestEvent, h]

/-! ## What a delivery does -/

theorem ingestEvent_receipts (receipts : ReceiptTable) :
    ingestEvent conds receiverID i event { inbox with receipts := receipts } =
      ({ (ingestEvent conds receiverID i event inbox).1 with receipts := receipts },
        (ingestEvent conds receiverID i event inbox).2) := rfl

theorem ingestEvents_receipts (receipts : ReceiptTable) (events : List ExternalEvent) :
    ingestEvents lib conds receiver i events { inbox with receipts := receipts } =
      ({ (ingestEvents lib conds receiver i events inbox).1 with receipts := receipts },
        (ingestEvents lib conds receiver i events inbox).2) := by
  induction events generalizing i inbox with
  | nil => rfl
  | cons event events ih =>
    simp only [ingestEvents]
    cases validateEvent (normalizeEvent lib.unescape event) receiver.expectedMonitorTypes with
    | some message => rfl
    | none =>
      dsimp only
      rw [ingestEvent_receipts]
      dsimp only
      split
      · exact ih
      · rfl

theorem receipts_ingestEvents (events : List ExternalEvent) :
    (ingestEvents lib conds receiver i events inbox).1.receipts = inbox.receipts := by
  have h := @ingestEvents_receipts lib conds receiver i inbox inbox.receipts events
  exact congrArg (fun result => result.1.receipts) h

variable {bodyHash schema : String} {events : List ExternalEvent} {receipt : Receipt}

/-- **A body with a receipt.**  Nothing changes, and unless a statement fails the reply is a
success that says so. -/
theorem deliver_duplicate (h : inbox.receipts.get? ⟨receiver.id, bodyHash⟩ = some receipt) :
    (deliver lib conds receiver bodyHash schema events inbox).1 = inbox ∧
      (conds.Unfailing → ∃ reply,
        (deliver lib conds receiver bodyHash schema events inbox).2 = .ok (reply, true)) := by
  have hkept : ∀ r : Receipt, r.key = ⟨receiver.id, bodyHash⟩ →
      inbox.receipts.insertIgnore r = inbox.receipts := by
    intro r hr
    have hrefused : inbox.receipts.insert r = none :=
      Table.insert_eq_none_iff.mpr ⟨receipt, by rw [hr]; exact h⟩
    rw [Table.insertIgnore, hrefused, Option.getD_none]
  have hother : receipt.id ≠ (conds.newReceiptId inbox.receipts).1 :=
    (conds.newReceiptId inbox.receipts).2 receipt (Table.mem_of_get? h)
  simp only [deliver]
  rw [hkept _ rfl]
  constructor
  · split
    · rfl
    · cases conds.fails .selectReceipt with
      | true => rfl
      | false => simp [h, hother]
  · intro hunfailing
    rw [hunfailing, hunfailing]
    simp [h, hother]

theorem rejectDelivery_ok {key : ReceiptKey} {message : String} :
    (rejectDelivery conds key message inbox).effects = inbox.effects ∧
      ∀ k, ((rejectDelivery conds key message inbox).receipts.get? k).isSome =
        (inbox.receipts.get? k).isSome := by
  unfold rejectDelivery
  split
  · exact ⟨rfl, fun _ => rfl⟩
  · refine ⟨rfl, fun k => ?_⟩
    rw [Table.get?_update, Option.isSome_map]

theorem finishReceipt_ok {key : ReceiptKey} {evidence : ReceiptEvidence} :
    (finishReceipt conds key evidence inbox).effects = inbox.effects ∧
      ∀ k, ((finishReceipt conds key evidence inbox).receipts.get? k).isSome =
        (inbox.receipts.get? k).isSome := by
  refine ⟨rfl, fun k => ?_⟩
  unfold finishReceipt
  dsimp only
  split
  · rfl
  · rw [Table.get?_update, Option.isSome_map]

/-- **A body without a receipt.**  It has one afterwards, whatever fails, and what it leaves is
what its events leave. -/
theorem deliver_new (hnone : inbox.receipts.get? ⟨receiver.id, bodyHash⟩ = none)
    (hinsert : conds.fails .insertReceipt = false) :
    ((deliver lib conds receiver bodyHash schema events inbox).1.receipts.get?
        ⟨receiver.id, bodyHash⟩).isSome = true ∧
      (deliver lib conds receiver bodyHash schema events inbox).1.effects =
        if conds.fails .selectReceipt = true then inbox.effects
        else (ingestEvents lib conds receiver 0 events inbox).1.effects := by
  have hinserted : ∀ r : Receipt, r.key = ⟨receiver.id, bodyHash⟩ →
      (inbox.receipts.insertIgnore r).get? ⟨receiver.id, bodyHash⟩ = some r := by
    intro r hr
    rw [Table.get?_insertIgnore, hnone, Option.none_or, if_pos hr]
  simp only [deliver, hinsert, Bool.false_eq_true, if_false]
  rw [hinserted _ rfl]
  cases conds.fails .selectReceipt with
  | true =>
    refine ⟨?_, rfl⟩
    simp only [if_true]
    rw [hinserted _ rfl]
    rfl
  | false =>
    simp only [Bool.false_eq_true, if_false]
    rw [if_neg (by simp [acceptedReceipt])]
    cases hresult : ingestEvents lib conds receiver 0 events
        { inbox with receipts := inbox.receipts.insertIgnore (acceptedReceipt
          (conds.newReceiptId inbox.receipts) ⟨receiver.id, bodyHash⟩ schema events.length
            inbox.store.now) } with
    | mk next rejection =>
      have hreceipts := congrArg (fun result => result.1.receipts) hresult
      have heffects := congrArg (fun result => result.1.effects) hresult
      dsimp only at hreceipts heffects
      rw [receipts_ingestEvents] at hreceipts
      rw [ingestEvents_receipts] at heffects
      have hsome : (next.receipts.get? ⟨receiver.id, bodyHash⟩).isSome = true := by
        rw [← hreceipts, hinserted _ rfl]
        rfl
      cases rejection with
      | some rejection =>
        exact ⟨(rejectDelivery_ok.2 _).trans hsome, rejectDelivery_ok.1.trans heffects.symm⟩
      | none => exact ⟨(finishReceipt_ok.2 _).trans hsome, finishReceipt_ok.1.trans heffects.symm⟩

theorem ingest_accepted (hauthorized : authorize lib conds receiverID token inbox = some receiver)
    (haccepted : accept lib raw = .ok (schema, events)) :
    ingest lib conds receiverID token raw inbox =
      deliver lib conds receiver (lib.sha256 raw) schema events inbox := by
  simp only [ingest, hauthorized, haccepted]

/-! ## A receiver with no deliveries -/

def sampleBody (state : String) (occurredAt : JsonText) : JsonText :=
  .obj
    [("schema", .str envelopeSchema),
      ("event", .obj
        [("monitorId", .str "m"), ("monitorType", .str "QUERY_LEVEL"), ("triggerId", .str "t"),
          ("alertId", .str "a"), ("state", .str state), ("occurredAt", occurredAt)])]

def sampleLibrary (body other : JsonText) : Library where
  parse raw := some (if raw.size = 0 then body else other)
  parseFloat _ := none
  parseTime text :=
    if text = "2026-01-01T00:00:05Z" then some 5
    else if text = "2026-01-01T00:00:10Z" then some 10
    else none
  unescape := id
  sha256 raw := if raw.size = 0 then "body" else "other"

def sampleConditions (failing : Option Step) : Conditions where
  newAlertId alerts :=
    ⟨(alerts.rows.map Alert.id).foldr max 0 + 1, Table.get?_eq_none_iff.mpr fun _ hmem =>
      Nat.ne_of_lt (Nat.lt_succ_of_le
        (List.le_max_of_le' 0 (List.mem_map_of_mem hmem) (Nat.le_refl _)))⟩
  newReceiptId receipts :=
    ⟨(receipts.rows.map Receipt.id).foldr max 0 + 1, fun _ hmem =>
      Nat.ne_of_lt (Nat.lt_succ_of_le
        (List.le_max_of_le' 0 (List.mem_map_of_mem hmem) (Nat.le_refl _)))⟩
  elapsed _ := 0
  fails step := step = failing

def sampleReceiver : Receiver where
  id := "r"
  enabled := true
  tokenHash := "other"
  previousTokenHash := ""
  previousTokenExpiresAt := none
  expectedMonitorTypes := ["QUERY_LEVEL"]
  lastDeliveryAt := none

def sampleInbox : Inbox where
  store := initial 0
  events := []
  receipts := .empty
  receivers := ⟨[sampleReceiver], by decide⟩

end Rhythm.Alerts.OpenSearch
