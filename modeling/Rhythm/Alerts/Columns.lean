import Rhythm.Alerts.Ingest
import Rhythm.Alerts.Payload
import Rhythm.Storage.SavedRun

/-!
# Rhythm.Alerts.Columns

`Ingest` in a database that is available and takes what its columns take.  The texts of an event
go into `VARCHAR` columns and its evidence into a `JSONB` one; a text is too long, or has a NUL
character that PostgreSQL does not store, although `validateEvent` has accepted it.

Identifiers, times, counts and the texts of the receiver fit their columns.  The parts of an event
that only become evidence are an input, and so is the size of an encoded document.

* `accepted_insertStatement_iff`, `accepted_updateStatement_iff` — which events a row takes;
* `recorded_iff` — when all events of a delivery are recorded.
-/

namespace Rhythm.Alerts.OpenSearch

open Notifications Text Sql
open Storage (severityText)

/-! ## Rows -/

/-- What a `VARCHAR` column keeps of a text that it takes: spaces beyond the limit are cut. -/
def kept (limit : Nat) (s : String) : String := String.ofList (s.toList.take limit)

def keptAlert (alert : Alert) : Alert :=
  { alert with
    deduplicationKey := kept 255 alert.deduplicationKey
    title := kept 255 alert.title
    external := alert.external.map fun external =>
      { external with
        monitorId := kept 255 external.monitorId
        monitorName := kept 255 external.monitorName
        monitorType := kept 80 external.monitorType
        triggerId := kept 255 external.triggerId
        triggerName := kept 255 external.triggerName
        alertId := kept 255 external.alertId
        bucketKey := kept 500 external.bucketKey } }

def keptAlerts (alerts : AlertTable) : AlertTable :=
  alerts.update (fun _ => True) keptAlert ⟨fun _ => rfl⟩

def stateText : AlertState → String
  | .open => "OPEN"
  | .acknowledged => "ACKNOWLEDGED"
  | .resolved => "RESOLVED"
  | .suppressed => "SUPPRESSED"
  | .error => "ERROR"

/-- The unique index on active alerts admits a row with this key and state. -/
def Unrivalled (alerts : AlertTable) (alertID : AlertId) (key : String) (state : AlertState) :
    Prop :=
  state = .open ∨ state = .acknowledged →
    ∀ other ∈ alerts.rows, other.id ≠ alertID → other.IsActive → other.deduplicationKey ≠ key

instance (alerts : AlertTable) (alertID : AlertId) (key : String) (state : AlertState) :
    Decidable (Unrivalled alerts alertID key state) :=
  inferInstanceAs (Decidable (_ → _))

/-! ## Evidence -/

/-- How the evidence of an event is masked and encoded. -/
structure Masking where
  /-- `strings.EqualFold` -/
  equalFold : String → String → Bool
  patterns : List String
  /-- The bytes of `json.Marshal`. -/
  size : Json → Nat

/-- The evidence of an event: masked, or replaced when it is larger than 256 KiB. -/
def storedEvidence (masking : Masking) (event : ExternalEvent) (payload : Payload) : Json :=
  let evidence := evidenceJson (maskValue masking.equalFold masking.patterns
    { payload with error := event.error }.evidence)
  if masking.size evidence > 256 * 1024 then
    .obj [("captureState", .str "TRUNCATED"), ("error", .str event.error)]
  else evidence

/-! ## Statements -/

section Statements

variable (receiverID : String) (event : ExternalEvent) (evidence : Json)

/-- `SELECT … FROM alerts WHERE deduplication_key=$1`. -/
def selectStatement : Sql.Statement where
  columns := [Sql.text (deduplicationKey receiverID event)]
  constraint := true

/-- `INSERT INTO alerts`. -/
def insertStatement (newID : AlertId) (alerts : AlertTable) : Sql.Statement where
  columns :=
    [varchar 255 (deduplicationKey receiverID event), varchar 50 (stateText (mapState event.state)),
      varchar 50 (severityText (mapSeverity event.severity)),
      varchar 255 (insertedAlert newID receiverID event false 0).title,
      Sql.text (insertedAlert newID receiverID event false 0).description,
      varchar 100 (category event), varchar 255 event.monitorId, varchar 255 event.monitorName,
      varchar 80 event.monitorType, varchar 255 event.triggerId, varchar 255 event.triggerName,
      varchar 255 event.alertId, varchar 500 event.bucketKey, varchar 50 event.state,
      jsonb evidence]
  constraint := Unrivalled alerts newID (kept 255 (deduplicationKey receiverID event))
    (mapState event.state)

/-- `UPDATE alerts SET`. -/
def updateStatement (existing : Alert) (alerts : AlertTable) : Sql.Statement where
  columns :=
    [varchar 50 (stateText (nextState existing.state (mapState event.state))),
      varchar 50 event.state, varchar 50 (severityText (mapSeverity event.severity)),
      Sql.text event.error, jsonb evidence]
  constraint := Unrivalled alerts existing.id existing.deduplicationKey
    (nextState existing.state (mapState event.state))

/-- `INSERT INTO alert_events`. -/
def eventStatement : Sql.Statement where
  columns :=
    [varchar 80 ("OPENSEARCH_" ++ event.state), nullIfEmpty (varchar 50 event.state),
      varchar 500 "OpenSearch alert state received", jsonb evidence]
  constraint := true

def writeStatement (newID : AlertId) (alerts : AlertTable) : Sql.Statement :=
  match latestAlert? (deduplicationKey receiverID event) alerts with
  | none => insertStatement receiverID event evidence newID alerts
  | some existing => updateStatement event evidence existing alerts

/-- The statements of `applyEvent` that the database refuses.  Those of the notifications have no
text of the event. -/
def refused (newID : AlertId) (alerts : AlertTable) : Step → Bool
  | .event _ .selectAlert => !decide (selectStatement receiverID event).Accepted
  | .event _ .writeAlert =>
    !decide (writeStatement receiverID event evidence newID alerts).Accepted
  | .event _ .recordEvent => !decide (eventStatement event evidence).Accepted
  | _ => false

end Statements

/-! ## A delivery -/

section Delivery

variable (lib : Library) (conds : Conditions) (masking : Masking) (payloads : Nat → Payload)

/-- What event `i` meets: the database refuses what its columns do not take, and nothing else. -/
def refusing (receiverID : String) (i : Nat) (event : ExternalEvent) (inbox : Inbox) :
    Conditions :=
  { conds with
    fails := refused receiverID event (storedEvidence masking event (payloads i))
      (conds.newAlertId inbox.store.alerts) inbox.store.alerts }

/-- `applyEvent` for event `i` of a delivery, and whether it returns without an error. -/
def storeEvent (receiverID : String) (i : Nat) (event : ExternalEvent) (inbox : Inbox) :
    Inbox × Bool :=
  let applied := ingestEvent (refusing conds masking payloads receiverID i event inbox) receiverID
    i event inbox
  ({ applied.1 with
      store := { applied.1.store with alerts := keptAlerts applied.1.store.alerts } },
    applied.2)

/-- The loop of `Ingest`, from event `i` on. -/
def storeEvents (receiver : Receiver) :
    Nat → List ExternalEvent → Inbox → Inbox × Option Rejection
  | _, [], inbox => (inbox, none)
  | i, event :: events, inbox =>
    let event := normalizeEvent lib.unescape event
    match validateEvent event receiver.expectedMonitorTypes with
    | some message => (inbox, some ⟨message, message⟩)
    | none =>
      let applied := storeEvent conds masking payloads receiver.id i event inbox
      if applied.2 then storeEvents receiver (i + 1) events applied.1
      else
        (applied.1,
          some ⟨"Unable to normalize alert event.", "alert event could not be processed"⟩)

/-- `Ingest` once the credential and the envelope are accepted. -/
def deliverStored (receiver : Receiver) (bodyHash schema : String) (events : List ExternalEvent)
    (inbox : Inbox) : Inbox × Except IngestError (Receipt × Bool) :=
  let key : ReceiptKey := ⟨receiver.id, bodyHash⟩
  let accepted := acceptedReceipt (conds.newReceiptId inbox.receipts) key schema events.length
    inbox.store.now
  match inbox.receipts.get? key with
  | some stored => (inbox, .ok (duplicateReply conds stored schema events.length inbox, true))
  | none =>
    let inbox := { inbox with receipts := inbox.receipts.insertIgnore accepted }
    match storeEvents lib conds masking payloads receiver 0 events inbox with
    | (inbox, some rejection) =>
      (rejectDelivery conds key rejection.stored inbox, .error (.message rejection.replied))
    | (inbox, none) =>
      let evidence : ReceiptEvidence := ⟨events.length, receiver.expectedMonitorTypes⟩
      (finishReceipt conds key evidence inbox,
        .ok ({ accepted with
          status := .processed
          evidence := some evidence
          processedAt := some accepted.receivedAt }, false))

/-- **`Ingest`**; `payloads` has the parts of the events that only become evidence. -/
def ingestStored (receiverID token : String) (raw : ByteArray) (inbox : Inbox) :
    Inbox × Except IngestError (Receipt × Bool) :=
  match authorize lib conds receiverID token inbox with
  | none => (inbox, .error .unauthorized)
  | some receiver =>
    match accept lib raw with
    | .error message => (inbox, .error (.message message))
    | .ok (schema, events) =>
      deliverStored lib conds masking payloads receiver (lib.sha256 raw) schema events inbox

end Delivery

/-! ## What fits -/

section Fit

/-- A row for a new alert takes the event: its key and the names of its monitor and trigger are
short enough, and no active alert holds the key. -/
structure FitsNew (receiverID : String) (event : ExternalEvent) (newID : AlertId)
    (alerts : AlertTable) : Prop where
  key : WithinLimit 255 (deduplicationKey receiverID event)
  monitorName : WithinLimit 255 event.monitorName ∧ NulFree event.monitorName
  triggerName : WithinLimit 255 event.triggerName ∧ NulFree event.triggerName
  unrivalled : Unrivalled alerts newID (kept 255 (deduplicationKey receiverID event))
    (mapState event.state)

/-- The alerts table takes an event: neither its key nor its error nor what is stored of its
evidence has a NUL character, and its row takes it, if there is none yet. -/
structure Fits (masking : Masking) (receiverID : String) (event : ExternalEvent)
    (payload : Payload) (newID : AlertId) (alerts : AlertTable) : Prop where
  key : NulFree (deduplicationKey receiverID event)
  error : NulFree event.error
  evidence : (storedEvidence masking event payload).NulFree
  newRow : latestAlert? (deduplicationKey receiverID event) alerts = none →
    FitsNew receiverID event newID alerts
  oldRow : ∀ existing ∈ latestAlert? (deduplicationKey receiverID event) alerts,
    Unrivalled alerts existing.id existing.deduplicationKey
      (nextState existing.state (mapState event.state))

/-- Each event of a delivery fits the table that it meets. -/
def FitAll (lib : Library) (conds : Conditions) (masking : Masking) (payloads : Nat → Payload)
    (receiverID : String) : Nat → List ExternalEvent → Inbox → Prop
  | _, [], _ => True
  | i, event :: events, inbox =>
    let event := normalizeEvent lib.unescape event
    Fits masking receiverID event (payloads i) (conds.newAlertId inbox.store.alerts)
        inbox.store.alerts ∧
      FitAll lib conds masking payloads receiverID (i + 1) events
        (storeEvent conds masking payloads receiverID i event inbox).1

variable {receiverID : String} {event : ExternalEvent} {evidence : Json} {newID : AlertId}
  {alerts : AlertTable}

theorem withinLimit_of_append {limit : Nat} {s t : String} (h : WithinLimit limit (s ++ t)) :
    WithinLimit limit t := by
  intro c hc
  refine h c ?_
  rw [String.toList_append, List.drop_append]
  refine List.mem_append_right _ ?_
  have hdrop : t.toList.drop limit = (t.toList.drop (limit - s.toList.length)).drop
      (limit - (limit - s.toList.length)) := by
    rw [List.drop_drop]
    congr 1
    omega
  rw [hdrop] at hc
  exact List.mem_of_mem_drop hc

theorem withinLimit_mono {limit limit' : Nat} {s : String} (h : WithinLimit limit s)
    (hle : limit ≤ limit') : WithinLimit limit' s := by
  intro c hc
  refine h c ?_
  have hdrop : s.toList.drop limit' = (s.toList.drop limit).drop (limit' - limit) := by
    rw [List.drop_drop]
    congr 1
    omega
  rw [hdrop] at hc
  exact List.mem_of_mem_drop hc

theorem length_lt_of_withinLimit {limit : Nat} {s t : String}
    (h : WithinLimit limit (s ++ ":" ++ t)) : s.length < limit := by
  by_contra hle
  rw [not_lt, ← String.length_toList] at hle
  have hcolon : ':' ∈ (s ++ ":" ++ t).toList.drop limit := by
    rw [String.toList_append, String.toList_append, List.append_assoc,
      List.drop_append_of_le_length hle]
    exact List.mem_append_right _ List.mem_cons_self
  exact absurd (h ':' hcolon) (by decide)

theorem takes_identifiers (hkey : WithinLimit 255 (deduplicationKey receiverID event))
    (hnul : NulFree (deduplicationKey receiverID event)) :
    (ColumnType.varchar 255).Takes (.text event.monitorId) ∧
      (ColumnType.varchar 255).Takes (.text event.triggerId) ∧
      (ColumnType.varchar 255).Takes (.text event.alertId) ∧
      (ColumnType.varchar 500).Takes (.text event.bucketKey) := by
  unfold deduplicationKey at hkey hnul
  have hlength := length_lt_of_withinLimit hkey
  have hbucket := withinLimit_mono (withinLimit_of_append hkey) (by decide : 255 ≤ 500)
  simp only [String.length_append] at hlength
  simp only [nulFree_append] at hnul
  obtain ⟨⟨⟨⟨⟨⟨⟨⟨-, -⟩, hmonitor⟩, -⟩, htrigger⟩, -⟩, halert⟩, -⟩, hbucketNul⟩ := hnul
  exact ⟨⟨withinLimit_of_length_le (by omega), hmonitor⟩,
    ⟨withinLimit_of_length_le (by omega), htrigger⟩,
    ⟨withinLimit_of_length_le (by omega), halert⟩, hbucket, hbucketNul⟩

/-- What `validateEvent` leaves of an event: a state and a monitor type of a short list. -/
structure ShortLists (event : ExternalEvent) : Prop where
  state : event.state ∈ ["ACTIVE", "ACKNOWLEDGED", "COMPLETED", "DELETED", "ERROR"]
  monitorType : event.monitorType ∈ ["QUERY_LEVEL", "BUCKET_LEVEL", "DOCUMENT_LEVEL"]

theorem takes_state (h : ShortLists event) : (ColumnType.varchar 50).Takes (.text event.state) ∧
    (ColumnType.varchar 80).Takes (.text ("OPENSEARCH_" ++ event.state)) ∧ event.state ≠ "" := by
  have hstate := h.state
  revert hstate
  generalize event.state = state
  simp only [List.mem_cons, List.not_mem_nil, or_false]
  rintro (rfl | rfl | rfl | rfl | rfl) <;> decide

theorem takes_monitorType (h : ShortLists event) :
    (ColumnType.varchar 80).Takes (.text event.monitorType) := by
  have htype := h.monitorType
  revert htype
  generalize event.monitorType = type
  simp only [List.mem_cons, List.not_mem_nil, or_false]
  rintro (rfl | rfl | rfl) <;> decide

theorem takes_stateText (state : AlertState) :
    (ColumnType.varchar 50).Takes (.text (stateText state)) := by
  cases state <;> decide

theorem takes_severityText (severity : Severity) :
    (ColumnType.varchar 50).Takes (.text (severityText severity)) := by
  cases severity <;> decide

theorem takes_category (event : ExternalEvent) :
    (ColumnType.varchar 100).Takes (.text (category event)) := by
  unfold category
  split <;> decide

theorem accepted_selectStatement_iff :
    (selectStatement receiverID event).Accepted ↔ NulFree (deduplicationKey receiverID event) := by
  unfold selectStatement Sql.Statement.Accepted
  rw [List.forall_mem_singleton]
  exact and_iff_right rfl

theorem accepted_eventStatement_iff (h : ShortLists event) :
    (eventStatement event evidence).Accepted ↔ evidence.NulFree := by
  obtain ⟨hstate, htype, hne⟩ := takes_state h
  have hkept : nullIfEmpty (varchar 50 event.state) = varchar 50 event.state := by
    simp [nullIfEmpty, hne]
  unfold eventStatement Sql.Statement.Accepted
  rw [hkept]
  simp only [List.forall_mem_cons]
  constructor
  · rintro ⟨-, -, -, -, hevidence, -⟩
    exact hevidence
  · intro hevidence
    exact ⟨trivial, htype, hstate, by decide, hevidence, List.forall_mem_nil _⟩

theorem accepted_updateStatement_iff {existing : Alert} (h : ShortLists event) :
    (updateStatement event evidence existing alerts).Accepted ↔
      NulFree event.error ∧ evidence.NulFree ∧
        Unrivalled alerts existing.id existing.deduplicationKey
          (nextState existing.state (mapState event.state)) := by
  unfold updateStatement Sql.Statement.Accepted
  simp only [List.forall_mem_cons, decide_eq_true_eq]
  constructor
  · rintro ⟨hunrivalled, -, -, -, herror, hevidence, -⟩
    exact ⟨herror, hevidence, hunrivalled⟩
  · rintro ⟨herror, hevidence, hunrivalled⟩
    exact ⟨hunrivalled, takes_stateText _, (takes_state h).1, takes_severityText _, herror,
      hevidence, List.forall_mem_nil _⟩

theorem accepted_insertStatement_iff (h : ShortLists event)
    (hnul : NulFree (deduplicationKey receiverID event)) :
    (insertStatement receiverID event evidence newID alerts).Accepted ↔
      NulFree event.error ∧ evidence.NulFree ∧ FitsNew receiverID event newID alerts := by
  unfold insertStatement Sql.Statement.Accepted
  simp only [List.forall_mem_cons, decide_eq_true_eq]
  constructor
  · rintro ⟨hunrivalled, hkey, -, -, -, hdescription, -, -, hmonitor, -, -, htrigger, -, -, -,
      hevidence, -⟩
    refine ⟨?_, hevidence, hkey.1, hmonitor, htrigger, hunrivalled⟩
    by_cases hempty : event.error = ""
    · rw [hempty]
      decide
    · simpa [insertedAlert, hempty, ColumnType.Takes] using hdescription
  · rintro ⟨herror, hevidence, hkey, hmonitor, htrigger, hunrivalled⟩
    obtain ⟨hmonitorId, htriggerId, halertId, hbucket⟩ := takes_identifiers hkey hnul
    have htitle : (ColumnType.varchar 255).Takes
        (.text (insertedAlert newID receiverID event false 0).title) := by
      unfold insertedAlert
      dsimp only
      split
      · exact htrigger
      · split
        · exact hmonitor
        · decide
    have hdescription :
        NulFree (insertedAlert newID receiverID event false 0).description := by
      unfold insertedAlert
      dsimp only
      split
      · exact herror
      · exact hmonitor.2
    exact ⟨hunrivalled, ⟨hkey, hnul⟩, takes_stateText _, takes_severityText _, htitle,
      hdescription, takes_category event, hmonitorId, hmonitor, takes_monitorType h, htriggerId,
      htrigger, halertId, hbucket, (takes_state h).1, hevidence, List.forall_mem_nil _⟩

end Fit

/-! ## What is recorded -/

section Recorded

variable {lib : Library} {conds : Conditions} {masking : Masking} {payloads : Nat → Payload}
  {receiver : Receiver} {receiverID : String} {i : Nat} {event : ExternalEvent} {inbox : Inbox}

theorem failing_eq_none_iff : conds.failing i = none ↔
    conds.fails (.event i .selectAlert) = false ∧ conds.fails (.event i .writeAlert) = false ∧
      conds.fails (.event i .recordEvent) = false ∧
      conds.fails (.event i .enqueueNotifications) = false := by
  unfold Conditions.failing
  rw [List.find?_eq_none]
  simp only [List.forall_mem_cons, Bool.not_eq_true, List.not_mem_nil, false_implies,
    implies_true, and_true]

/-- An event returns without an error exactly if no statement fails, when that of the notifications
does not. -/
theorem ingestEvent_snd_iff (hnotified : conds.fails (.event i .enqueueNotifications) = false) :
    (ingestEvent conds receiverID i event inbox).2 = true ↔ conds.failing i = none := by
  refine ⟨fun hok => ?_, ok_of_failing_none⟩
  cases hfailing : conds.failing i with
  | none => rfl
  | some statement =>
    grind [Conditions.failing, ingestEvent]

theorem storeEvent_snd_iff_failing :
    (storeEvent conds masking payloads receiverID i event inbox).2 = true ↔
      (refusing conds masking payloads receiverID i event inbox).failing i = none := by
  have hnotified : (refusing conds masking payloads receiverID i event inbox).fails
      (.event i .enqueueNotifications) = false := by
    simp only [refusing, refused]
  unfold storeEvent
  dsimp only
  exact ingestEvent_snd_iff hnotified

/-- **An event is applied exactly if it fits.** -/
theorem storeEvent_snd_iff (h : ShortLists event) :
    (storeEvent conds masking payloads receiverID i event inbox).2 = true ↔
      Fits masking receiverID event (payloads i) (conds.newAlertId inbox.store.alerts)
        inbox.store.alerts := by
  rw [storeEvent_snd_iff_failing, failing_eq_none_iff]
  simp only [refusing, refused, Bool.not_eq_false', decide_eq_true_eq, and_true]
  rw [accepted_selectStatement_iff, accepted_eventStatement_iff h]
  unfold writeStatement
  cases hlatest : latestAlert? (deduplicationKey receiverID event) inbox.store.alerts with
  | none =>
    dsimp only
    constructor
    · rintro ⟨hkey, hwrite, hevidence⟩
      obtain ⟨herror, -, hnew⟩ := (accepted_insertStatement_iff h hkey).mp hwrite
      exact ⟨hkey, herror, hevidence, fun _ => hnew, fun existing hexisting => by
        rw [hlatest] at hexisting
        cases hexisting⟩
    · intro hfits
      exact ⟨hfits.key, (accepted_insertStatement_iff h hfits.key).mpr
        ⟨hfits.error, hfits.evidence, hfits.newRow hlatest⟩, hfits.evidence⟩
  | some existing =>
    dsimp only
    rw [accepted_updateStatement_iff h]
    constructor
    · rintro ⟨hkey, ⟨herror, hevidence, hunrivalled⟩, -⟩
      refine ⟨hkey, herror, hevidence, fun hnone => ?_, fun other hother => ?_⟩
      · rw [hlatest] at hnone
        cases hnone
      · rw [hlatest] at hother
        obtain rfl := Option.some.inj hother
        exact hunrivalled
    · intro hfits
      exact ⟨hfits.key, ⟨hfits.error, hfits.evidence, hfits.oldRow existing hlatest⟩,
        hfits.evidence⟩

theorem length_events_storeEvent
    (h : (storeEvent conds masking payloads receiverID i event inbox).2 = true) :
    (storeEvent conds masking payloads receiverID i event inbox).1.events.length =
      inbox.events.length + 1 := by
  have hnone := storeEvent_snd_iff_failing.mp h
  unfold storeEvent ingestEvent
  dsimp only
  rw [if_pos (Or.inl hnone), List.length_append]
  rfl

theorem shortLists_of_validateEvent {expected : List String}
    (hvalid : validateEvent event expected = none)
    (htypes : ∀ type ∈ expected, type ∈ ["QUERY_LEVEL", "BUCKET_LEVEL", "DOCUMENT_LEVEL"]) :
    ShortLists event := by
  unfold validateEvent at hvalid
  split at hvalid
  · cases hvalid
  · split at hvalid
    · cases hvalid
    · next hstate =>
      split at hvalid
      · cases hvalid
      · next htype => exact ⟨not_not.mp hstate, htypes _ (not_not.mp htype)⟩

/-- **The loop of a delivery** reaches its end exactly if all events fit, and has recorded them
then. -/
theorem storeEvents_iff (events : List ExternalEvent)
    (hvalid : ∀ event ∈ events,
      validateEvent (normalizeEvent lib.unescape event) receiver.expectedMonitorTypes = none)
    (htypes : ∀ type ∈ receiver.expectedMonitorTypes,
      type ∈ ["QUERY_LEVEL", "BUCKET_LEVEL", "DOCUMENT_LEVEL"]) :
    ((storeEvents lib conds masking payloads receiver i events inbox).2 = none ↔
        FitAll lib conds masking payloads receiver.id i events inbox) ∧
      ((storeEvents lib conds masking payloads receiver i events inbox).2 = none →
        (storeEvents lib conds masking payloads receiver i events inbox).1.events.length =
          inbox.events.length + events.length) := by
  induction events generalizing i inbox with
  | nil => exact ⟨iff_of_true rfl trivial, fun _ => rfl⟩
  | cons event events ih =>
    have hfirst := hvalid event List.mem_cons_self
    have hlists := shortLists_of_validateEvent hfirst htypes
    have hrest := @ih (i + 1) (storeEvent conds masking payloads receiver.id i
      (normalizeEvent lib.unescape event) inbox).1 fun other hother =>
        hvalid other (List.mem_cons_of_mem event hother)
    unfold storeEvents FitAll
    dsimp only
    rw [hfirst]
    dsimp only
    by_cases hstored : (storeEvent conds masking payloads receiver.id i
        (normalizeEvent lib.unescape event) inbox).2 = true
    · rw [if_pos hstored, hrest.1]
      refine ⟨(and_iff_right ((storeEvent_snd_iff hlists).mp hstored)).symm, fun hall => ?_⟩
      rw [hrest.2 (hrest.1.mpr hall), length_events_storeEvent hstored, List.length_cons]
      omega
    · grind [storeEvent_snd_iff]

theorem storeEvent_receipts (receipts : ReceiptTable) :
    storeEvent conds masking payloads receiverID i event { inbox with receipts := receipts } =
      ({ (storeEvent conds masking payloads receiverID i event inbox).1 with receipts := receipts },
        (storeEvent conds masking payloads receiverID i event inbox).2) := by
  grind [refusing, storeEvent, ingestEvent_receipts]

theorem fitAll_receipts (receipts : ReceiptTable) (events : List ExternalEvent) :
    FitAll lib conds masking payloads receiverID i events { inbox with receipts := receipts } ↔
      FitAll lib conds masking payloads receiverID i events inbox := by
  induction events generalizing i inbox with
  | nil => exact Iff.rfl
  | cons event events ih =>
    unfold FitAll
    dsimp only
    rw [storeEvent_receipts]
    exact and_congr_right fun _ => ih

variable {token schema bodyHash : String} {raw : ByteArray} {events : List ExternalEvent}

/-- **A delivery** is processed exactly if its body is new and its events fit, and has recorded them
then. -/
theorem deliverStored_iff
    (hvalid : ∀ event ∈ events,
      validateEvent (normalizeEvent lib.unescape event) receiver.expectedMonitorTypes = none)
    (htypes : ∀ type ∈ receiver.expectedMonitorTypes,
      type ∈ ["QUERY_LEVEL", "BUCKET_LEVEL", "DOCUMENT_LEVEL"]) :
    let result := deliverStored lib conds masking payloads receiver bodyHash schema events inbox
    ((∃ receipt, result.2 = .ok (receipt, false)) ↔
        inbox.receipts.get? ⟨receiver.id, bodyHash⟩ = none ∧
          FitAll lib conds masking payloads receiver.id 0 events inbox) ∧
      ((∃ receipt, result.2 = .ok (receipt, false)) →
        result.1.events.length = inbox.events.length + events.length) := by
  unfold deliverStored
  dsimp only
  cases hreceipt : inbox.receipts.get? ⟨receiver.id, bodyHash⟩ with
  | some stored =>
    grind
  | none =>
    dsimp only
    generalize inbox.receipts.insertIgnore (acceptedReceipt (conds.newReceiptId inbox.receipts)
      ⟨receiver.id, bodyHash⟩ schema events.length inbox.store.now) = receipts
    rw [and_iff_right rfl, ← fitAll_receipts receipts]
    generalize haccepting : ({ inbox with receipts := receipts } : Inbox) = accepted
    have hevents : accepted.events = inbox.events := by rw [← haccepting]
    obtain ⟨hiff, hlength⟩ := @storeEvents_iff lib conds masking payloads receiver 0 accepted events
      hvalid htypes
    rw [← hiff]
    cases hstored : storeEvents lib conds masking payloads receiver 0 events accepted with
    | mk next rejection =>
      rw [hstored] at hlength
      cases rejection with
      | some rejection =>
        grind
      | none =>
        refine ⟨iff_of_true ⟨_, rfl⟩ rfl, fun _ => ?_⟩
        rw [← hevents]
        exact hlength rfl

theorem ingestStored_eq
    (hauthorized : authorize lib conds receiverID token inbox = some receiver)
    (haccepted : accept lib raw = .ok (schema, events)) :
    ingestStored lib conds masking payloads receiverID token raw inbox =
      deliverStored lib conds masking payloads receiver (lib.sha256 raw) schema events inbox := by
  unfold ingestStored
  rw [hauthorized]
  dsimp only
  rw [haccepted]

/-- All events of a delivery are recorded: the reply says so, and each has its row in
`alert_events`. -/
structure RecordsAll (lib : Library) (conds : Conditions) (masking : Masking)
    (payloads : Nat → Payload) (receiverID token : String) (raw : ByteArray) (inbox : Inbox)
    (events : List ExternalEvent) : Prop where
  reply : ∃ receipt,
    (ingestStored lib conds masking payloads receiverID token raw inbox).2 = .ok (receipt, false)
  events : (ingestStored lib conds masking payloads receiverID token raw inbox).1.events.length =
    inbox.events.length + events.length

/-- **Every valid event is recorded**, exactly if the body has no receipt yet and each event fits
the columns of its row. -/
theorem recordsAll_iff
    (hauthorized : authorize lib conds receiverID token inbox = some receiver)
    (htypes : ∀ type ∈ receiver.expectedMonitorTypes,
      type ∈ ["QUERY_LEVEL", "BUCKET_LEVEL", "DOCUMENT_LEVEL"])
    (haccepted : accept lib raw = .ok (schema, events))
    (hvalid : ∀ event ∈ events,
      validateEvent (normalizeEvent lib.unescape event) receiver.expectedMonitorTypes = none) :
    RecordsAll lib conds masking payloads receiverID token raw inbox events ↔
      inbox.receipts.get? ⟨receiver.id, lib.sha256 raw⟩ = none ∧
        FitAll lib conds masking payloads receiver.id 0 events inbox := by
  obtain ⟨hreply, hlength⟩ := @deliverStored_iff lib conds masking payloads receiver inbox schema
    (lib.sha256 raw) events hvalid htypes
  rw [← @ingestStored_eq lib conds masking payloads receiver receiverID inbox token schema raw
    events hauthorized haccepted] at hreply hlength
  exact ⟨fun h => hreply.mp h.reply, fun h => ⟨hreply.mpr h, hlength (hreply.mpr h)⟩⟩

/-! ### Two deliveries -/

def namedBody (triggerName : String) : JsonText :=
  .obj
    [("schema", .str envelopeSchema),
      ("event", .obj
        [("monitorId", .str "m"), ("monitorType", .str "QUERY_LEVEL"), ("triggerId", .str "t"),
          ("triggerName", .str triggerName), ("alertId", .str "a"), ("state", .str "ACTIVE")])]

def namedEvent (triggerName : String) : ExternalEvent :=
  { ExternalEvent.zero with
    monitorId := "m"
    monitorType := "QUERY_LEVEL"
    triggerId := "t"
    triggerName := triggerName
    alertId := "a"
    state := "ACTIVE" }

def sampleMasking : Masking := ⟨fun a b => a = b, [], fun _ => 0⟩

theorem accept_namedBody (triggerName : String) :
    accept (sampleLibrary (namedBody triggerName) .null) .empty =
      .ok (envelopeSchema, [namedEvent triggerName]) := by
  rfl

/-- An event with short texts is recorded. -/
theorem recordsAll_named : RecordsAll (sampleLibrary (namedBody "n") .null) (sampleConditions none)
    sampleMasking (fun _ => findingsPayload 0) "r" "token" .empty sampleInbox
    [namedEvent "n"] := by
  have hauthorized : authorize (sampleLibrary (namedBody "n") .null) (sampleConditions none) "r"
      "token" sampleInbox = some sampleReceiver := by decide
  refine (recordsAll_iff hauthorized (by decide) (accept_namedBody "n") (by decide)).mpr
    ⟨by decide, ?_, trivial⟩
  have hnone : latestAlert? (deduplicationKey "r" (namedEvent "n")) sampleInbox.store.alerts =
      none := rfl
  exact ⟨by decide, by decide, by decide, fun _ => ⟨by decide, by decide, by decide, by decide⟩,
    fun existing hexisting => by cases hexisting⟩

def letters (n : Nat) : String := String.ofList (List.replicate n 'n')

theorem trimSpace_letters (n : Nat) : trimSpace (letters n) = letters n := by
  refine trimSpace_of_forall fun c hc => ?_
  rw [letters, String.toList_ofList] at hc
  rw [List.eq_of_mem_replicate hc]
  decide

theorem not_withinLimit_letters (limit : Nat) : ¬WithinLimit limit (letters (limit + 1)) := by
  intro h
  have hmem : 'n' ∈ (letters (limit + 1)).toList.drop limit := by
    rw [letters, String.toList_ofList, List.drop_replicate, Nat.add_sub_cancel_left]
    exact List.mem_singleton_self 'n'
  exact absurd (h 'n' hmem) (by decide)

theorem normalizeEvent_namedEvent (name : String) :
    normalizeEvent id (namedEvent name) =
      { namedEvent name with
        triggerName := trimSpace name
        severity := toUpper (trimSpace "") } := by
  have hmonitor : trimSpace "m" = "m" := by decide
  have htrigger : trimSpace "t" = "t" := by decide
  have halert : trimSpace "a" = "a" := by decide
  have hempty : trimSpace "" = "" := by decide
  have htype : toUpper (trimSpace "QUERY_LEVEL") = "QUERY_LEVEL" := by decide
  have hstate : toUpper (trimSpace "ACTIVE") = "ACTIVE" := by decide
  simp [normalizeEvent, namedEvent, ExternalEvent.zero, hmonitor, htrigger, halert, hempty, htype,
    hstate]

theorem validateEvent_namedEvent (name : String) :
    validateEvent (normalizeEvent id (namedEvent name)) sampleReceiver.expectedMonitorTypes =
      none := by
  rw [normalizeEvent_namedEvent]
  simp [validateEvent, namedEvent, sampleReceiver]

theorem not_recordsAll_named {name : String} (hname : ¬WithinLimit 255 (trimSpace name)) :
    ¬RecordsAll (sampleLibrary (namedBody name) .null) (sampleConditions none) sampleMasking
      (fun _ => findingsPayload 0) "r" "token" .empty sampleInbox [namedEvent name] := by
  intro hrecords
  have hauthorized : authorize (sampleLibrary (namedBody name) .null) (sampleConditions none)
      "r" "token" sampleInbox = some sampleReceiver := by rfl
  have hvalid : ∀ event ∈ [namedEvent name], validateEvent (normalizeEvent
      (sampleLibrary (namedBody name) .null).unescape event)
        sampleReceiver.expectedMonitorTypes = none :=
    List.forall_mem_singleton.mpr (validateEvent_namedEvent name)
  have hreply := hrecords.reply
  rw [ingestStored_eq hauthorized (accept_namedBody name)] at hreply
  obtain ⟨-, hfits, -⟩ := (deliverStored_iff hvalid (by decide)).1.mp hreply
  exact hname (hfits.newRow rfl).triggerName.1

/-- The name of a trigger is not checked, but its column has a limit. -/
theorem long_name_lost : ¬ ∀ (lib : Library) (conds : Conditions) (masking : Masking)
    (payloads : Nat → Payload) (receiver : Receiver) (receiverID token : String)
    (raw : ByteArray) (inbox : Inbox) (schema : String) (events : List ExternalEvent),
    authorize lib conds receiverID token inbox = some receiver →
    (∀ type ∈ receiver.expectedMonitorTypes,
      type ∈ ["QUERY_LEVEL", "BUCKET_LEVEL", "DOCUMENT_LEVEL"]) →
    accept lib raw = .ok (schema, events) →
    (∀ event ∈ events,
      validateEvent (normalizeEvent lib.unescape event) receiver.expectedMonitorTypes = none) →
    inbox.receipts.get? ⟨receiver.id, lib.sha256 raw⟩ = none →
    RecordsAll lib conds masking payloads receiverID token raw inbox events := by
  intro hall
  have hlong : ¬WithinLimit 255 (trimSpace (letters 256)) := by
    rw [trimSpace_letters]
    exact not_withinLimit_letters 255
  refine not_recordsAll_named hlong (hall _ _ _ _ sampleReceiver _ _ _ _ _ _ ?_
    (by decide) (accept_namedBody _)
    (List.forall_mem_singleton.mpr (validateEvent_namedEvent (letters 256))) ?_)
  · rfl
  · rfl

end Recorded

end Rhythm.Alerts.OpenSearch
