import Rhythm.Alerts.Notifications
import Rhythm.Outbox
import Rhythm.Text

/-!
# Rhythm.Alerts.Dispatchers

The two outboxes of an alert, `notification_deliveries` and
`sahara_dispatches`, each with its own dispatcher.  `claim` commits `SENDING`,
and only the process that has claimed a row moves it on: no query looks for
`SENDING` rows, whatever their age.

The transactions are those that `Rhythm.Outbox` takes one at a time.  A crash
at any point between the commit of `claim` and the `UPDATE` at the end of
`processOne` is the same crash, as is an `UPDATE` that fails; before the
commit it leaves no trace.
-/

namespace Rhythm

/-! ## Notifications -/

namespace Notifications

/-- The phases of `notification_deliveries`. -/
def DeliveryStatus.phase : DeliveryStatus → Outbox.Phase
  | .pending => .pending
  | .sending => .sending
  | .sent | .failed => .final

/-- The row at the end of `processOne`, which has read `attempts` in `claim`. -/
def recordDelivery (delivered : Bool) (attempts : Nat) (now : Time) (d : Delivery) : Delivery :=
  if delivered then settleDelivery true now d else settleDelivery false now { d with attempts }

/-- What an alert is enqueued with. -/
structure AlertEvent where
  alertID : AlertId
  eventType : EventType
  occurred : Time
  deriving DecidableEq

/-- The rows that `enqueue` inserts. -/
def queuedDeliveries (event : AlertEvent) (channels : ChannelTable) : List Delivery :=
  (channels.rows.filter Channel.active).map
    (pendingDelivery event.alertID event.eventType event.occurred)

theorem enqueue_eq_foldl_queuedDeliveries (event : AlertEvent) (channels : ChannelTable)
    (deliveries : DeliveryTable) :
    enqueue event.alertID event.eventType event.occurred channels deliveries =
      (queuedDeliveries event channels).foldl (fun rows row => rows.insertIgnore row)
        deliveries := by
  rw [queuedDeliveries, List.foldl_map, enqueue]

def HasChannel (channels : ChannelTable) (k : DeliveryKey) : Prop :=
  ∃ channel, channels.get? k.channelId = some channel ∧ channel.active = true

/-- Channels are added and edited, and no active one is deactivated. -/
def keepsChannels (channels channels' : ChannelTable) : Bool :=
  decide (∀ channel ∈ channels, channel.active = true →
    (channels'.get? channel.id).any Channel.active = true)

private theorem hasChannel_of_keepsChannels {channels channels' : ChannelTable} {k : DeliveryKey}
    (hkeeps : keepsChannels channels channels' = true) (h : HasChannel channels k) :
    HasChannel channels' k := by
  obtain ⟨channel, hget, hactive⟩ := h
  obtain ⟨hmem, hid⟩ := Table.get?_eq_some_iff.mp hget
  have hstays := of_decide_eq_true hkeeps channel hmem hactive
  rw [hid, Option.any_eq_true] at hstays
  exact hstays

private theorem recordDelivery_cases (delivered : Bool) (read : Nat) (now : Time) (d : Delivery) :
    (recordDelivery delivered read now d).status.phase = .final ∨
      (recordDelivery delivered read now d).status.phase = .pending ∧
        (recordDelivery delivered read now d).attempts = read + 1 ∧ read + 1 < 5 := by
  grind [recordDelivery, settleDelivery, DeliveryStatus.phase, Nat.lt_of_not_le]

theorem keepsKey_take :
    Table.KeepsKey Delivery.key fun d : Delivery => { d with status := .sending } :=
  ⟨fun _ => rfl⟩

theorem keepsKey_recordDelivery (delivered : Bool) (attempts : Nat) (now : Time) :
    Table.KeepsKey Delivery.key (recordDelivery delivered attempts now) :=
  ⟨fun _ => by cases delivered <;> rfl⟩

/-- `notification_deliveries`, with the channels as the environment. -/
def outbox : Outbox Delivery DeliveryKey ChannelTable Bool AlertEvent where
  key := Delivery.key
  phase d := d.status.phase
  attempts := Delivery.attempts
  createdAt := Delivery.createdAt
  limit := 5
  due channels now d := decide (Claimable now channels d)
  take d := { d with status := .sending }
  settle := recordDelivery
  queued := queuedDeliveries
  changes := keepsChannels
  Served := HasChannel
  done := true
  key_take := keepsKey_take
  key_settle := keepsKey_recordDelivery
  phase_of_due channels now d h := by rw [(of_decide_eq_true h).1]; rfl
  phase_take _ := rfl
  attempts_take _ := rfl
  settle_cases := recordDelivery_cases
  phase_settle_done _ _ _ := rfl
  queued_new event channels d hd := by
    obtain ⟨channel, hmem, rfl⟩ := List.mem_map.mp hd
    obtain ⟨hchannel, hactive⟩ := List.mem_filter.mp hmem
    exact ⟨rfl, rfl, channel, Table.get?_of_mem hchannel, hactive⟩
  served_of_changes _ _ _ := hasChannel_of_keepsChannels
  exists_due channels d hserved hphase := by
    have hpending : d.status = .pending := by
      cases hstatus : d.status <;> simp_all [DeliveryStatus.phase]
    refine ⟨channels, ?_, d.nextAttemptAt, fun now hnow => decide_eq_true ⟨hpending, hnow, hserved⟩⟩
    refine decide_eq_true fun channel hchannel hactive => ?_
    rw [Table.get?_of_mem hchannel, Option.any_some, hactive]
  limit_pos := by decide

end Notifications

/-! ## Sahara -/

namespace Sahara

inductive DispatchStatus where
  | pending | sending | sent | failed | skipped
  deriving DecidableEq

/-- A row of `sahara_dispatches`.  Its event type is always `ALERT_OPENED`. -/
structure Dispatch where
  alertId : AlertId
  status : DispatchStatus
  eventUniqueId : String
  attempts : Nat
  lastError : Option String
  nextAttemptAt : Time
  sentAt : Option Time
  createdAt : Time
  deriving DecidableEq

/-- The row that `enqueue` inserts, `ON CONFLICT (alert_id, event_type) DO NOTHING`. -/
def pendingDispatch (alertID : AlertId) (now : Time) : Dispatch where
  alertId := alertID
  status := .pending
  eventUniqueId := ""
  attempts := 0
  lastError := none
  nextAttemptAt := now
  sentAt := none
  createdAt := now

/-- `d.status='PENDING' AND d.next_attempt_at <= NOW()`, asked for only with an ingest URL. -/
def Claimable (ingestURL : String) (now : Time) (d : Dispatch) : Prop :=
  Text.trimSpace ingestURL ≠ "" ∧ d.status = .pending ∧ d.nextAttemptAt ≤ now

instance (ingestURL : String) (now : Time) (d : Dispatch) : Decidable (Claimable ingestURL now d) :=
  inferInstanceAs (Decidable (_ ∧ _))

/-- What became of a claimed dispatch, with the texts as they are stored. -/
inductive DispatchResult where
  | skipped (reason : String)
  | sent
  | failed (error : String)
  deriving DecidableEq

/-- The event that `Prepare` has made, and the result of its dispatch. -/
structure Processed where
  eventUniqueID : String
  result : DispatchResult
  deriving DecidableEq

/-- The row at the end of `processOne`, which has read `attempts` in `claim`. -/
def recordDispatch (processed : Processed) (attempts : Nat) (now : Time) (d : Dispatch) :
    Dispatch :=
  match processed.result with
  | .skipped reason =>
    { d with
      status := .skipped
      lastError := some reason
      eventUniqueId := processed.eventUniqueID }
  | .sent =>
    { d with
      status := .sent
      sentAt := some now
      lastError := none
      eventUniqueId := processed.eventUniqueID }
  | .failed error =>
    let attempts := attempts + 1
    { d with
      status := if attempts ≥ 5 then .failed else .pending
      attempts := attempts
      lastError := some error
      nextAttemptAt := now + (1 <<< min attempts 6) * 60000
      eventUniqueId := processed.eventUniqueID }

/-- The phases of `sahara_dispatches`. -/
def DispatchStatus.phase : DispatchStatus → Outbox.Phase
  | .pending => .pending
  | .sending => .sending
  | .sent | .failed | .skipped => .final

private theorem recordDispatch_cases (processed : Processed) (read : Nat) (now : Time)
    (d : Dispatch) :
    (recordDispatch processed read now d).status.phase = .final ∨
      (recordDispatch processed read now d).status.phase = .pending ∧
        (recordDispatch processed read now d).attempts = read + 1 ∧ read + 1 < 5 := by
  grind [recordDispatch, DispatchStatus.phase, Nat.lt_of_not_le]

theorem keepsKey_take :
    Table.KeepsKey Dispatch.alertId fun d : Dispatch => { d with status := .sending } :=
  ⟨fun _ => rfl⟩

theorem keepsKey_recordDispatch (processed : Processed) (attempts : Nat) (now : Time) :
    Table.KeepsKey Dispatch.alertId (recordDispatch processed attempts now) :=
  ⟨fun _ => by obtain ⟨_, _ | _ | _⟩ := processed <;> rfl⟩

/-- `sahara_dispatches`, with the ingest URL that the process runs with as the environment. -/
def outbox : Outbox Dispatch AlertId String Processed (AlertId × Time) where
  key := Dispatch.alertId
  phase d := d.status.phase
  attempts := Dispatch.attempts
  createdAt := Dispatch.createdAt
  limit := 5
  due ingestURL now d := decide (Claimable ingestURL now d)
  take d := { d with status := .sending }
  settle := recordDispatch
  queued event _ := [pendingDispatch event.1 event.2]
  changes _ _ := true
  Served _ _ := True
  done := ⟨"", .sent⟩
  key_take := keepsKey_take
  key_settle := keepsKey_recordDispatch
  phase_of_due _ _ d h := by rw [(of_decide_eq_true h).2.1]; rfl
  phase_take _ := rfl
  attempts_take _ := rfl
  settle_cases := recordDispatch_cases
  phase_settle_done _ _ _ := rfl
  queued_new event _ d hd := by
    rw [List.mem_singleton.mp hd]
    exact ⟨rfl, rfl, trivial⟩
  served_of_changes _ _ _ _ := id
  exists_due _ d _ hphase := by
    have hpending : d.status = .pending := by
      cases hstatus : d.status <;> simp_all [DispatchStatus.phase]
    have hurl : Text.trimSpace "https" ≠ "" := by decide
    exact ⟨"https", rfl, d.nextAttemptAt, fun now hnow => decide_eq_true ⟨hurl, hpending, hnow⟩⟩
  limit_pos := by decide

end Sahara

/-! ## No message is lost, unless a dispatcher goes down with it -/

namespace Alerts

open Outbox

/-- **Outgoing messages are lost with their dispatcher**, and only so.  In every state of a run,
every notification that is not sent or failed can still be picked up and none was attempted more
than five times, exactly when no dispatcher goes down with one in its hands; likewise for Sahara. -/
theorem messages_kept_iff_emptyHanded (now : Time) (channels : Notifications.ChannelTable)
    (ingestURL : String) (as : List (Action _ _ _ _)) (bs : List (Action _ _ _ _)) :
    (Along (recording (step Notifications.outbox) record) (fun _ _ x' => NothingLost x')
          (initial _ now channels, fun _ => 0) as ↔
        Along (recording (step Notifications.outbox) record) (fun x a _ => EmptyHanded x.1 a)
          (initial _ now channels, fun _ => 0) as) ∧
      (Along (recording (step Sahara.outbox) record) (fun _ _ x' => NothingLost x')
          (initial _ now ingestURL, fun _ => 0) bs ↔
        Along (recording (step Sahara.outbox) record) (fun x a _ => EmptyHanded x.1 a)
          (initial _ now ingestURL, fun _ => 0) bs) :=
  ⟨nothing_lost_iff_emptyHanded, nothing_lost_iff_emptyHanded⟩

/-- The message of alert 1 is claimed by a dispatcher that goes down before it writes the
result. -/
theorem claimed_message_is_lost :
    (∃ x, runActions (recording (step Notifications.outbox) record)
        (initial Notifications.outbox 0 ⟨[⟨7, true⟩], by decide⟩, fun _ => 0)
        [.enqueue ⟨1, .alertOpened, 0⟩, .claim 0 [] ⟨1, 7, .alertOpened⟩, .crash 0] = some x ∧
      ¬ NothingLost x) ∧
    ∃ x, runActions (recording (step Sahara.outbox) record)
        (initial Sahara.outbox 0 "https", fun _ => 0)
        [.enqueue (1, 0), .claim 0 [] 1, .crash 0] = some x ∧
      ¬ NothingLost x := by
  constructor
  · refine ⟨_, rfl, fun hkept => ?_⟩
    have hpicked := hkept.1 _ (Table.mem_of_get? (k := ⟨1, 7, .alertOpened⟩) rfl) (by decide)
    refine Lost.not_deliverable ⟨⟨_, rfl, rfl⟩, fun held hheld => ?_⟩ hpicked
    exact absurd hheld List.not_mem_nil
  · refine ⟨_, rfl, fun hkept => ?_⟩
    have hpicked := hkept.1 _ (Table.mem_of_get? (k := 1) rfl) (by decide)
    refine Lost.not_deliverable ⟨⟨_, rfl, rfl⟩, fun held hheld => ?_⟩ hpicked
    exact absurd hheld List.not_mem_nil

end Alerts

end Rhythm
