import Rhythm.Runs.Domain

/-!
# Rhythm.Alerts.Notifications

The deliveries of an alert's notifications: one row for each alert, channel
and event type, queued by `enqueue` and moved by the dispatcher.  The primary
key of a delivery is the hash of these three, and the table is also unique on
them, so here they are the key.

What is sent, and whether the channel accepts it, is the outcome of the
dispatcher's `deliver` and an input to `processOne`.
-/

namespace Rhythm

abbrev AlertId := Nat
abbrev ChannelId := Nat

namespace Notifications

/-! ## Channels and deliveries -/

/-- A configuration profile of kind `NOTIFICATION`. -/
structure Channel where
  id : ChannelId
  active : Bool
  deriving DecidableEq

abbrev ChannelTable := Table Channel Channel.id

inductive EventType where
  | alertOpened | alertRecovered
  deriving DecidableEq

instance (p : EventType → Prop) [DecidablePred p] : Decidable (∀ eventType, p eventType) :=
  decidable_of_iff (p .alertOpened ∧ p .alertRecovered)
    ⟨fun ⟨hopened, hrecovered⟩ eventType => by cases eventType <;> assumption,
      fun h => ⟨h _, h _⟩⟩

inductive DeliveryStatus where
  | pending | sending | sent | failed
  deriving DecidableEq

structure DeliveryKey where
  alertId : AlertId
  channelId : ChannelId
  eventType : EventType
  deriving DecidableEq

/-- A row of `notification_deliveries`. -/
structure Delivery where
  key : DeliveryKey
  status : DeliveryStatus
  attempts : Nat
  nextAttemptAt : Time
  sentAt : Option Time
  createdAt : Time
  deriving DecidableEq

abbrev DeliveryTable := Table Delivery Delivery.key

/-! ## Enqueueing -/

/-- The row that `enqueue` inserts for one channel. -/
def pendingDelivery (alertID : AlertId) (eventType : EventType) (now : Time) (channel : Channel) :
    Delivery where
  key := ⟨alertID, channel.id, eventType⟩
  status := .pending
  attempts := 0
  nextAttemptAt := now
  sentAt := none
  createdAt := now

/-- `Enqueue` and `EnqueueWithPool`: a pending delivery for each active channel,
`ON CONFLICT(alert_id,channel_id,event_type) DO NOTHING`. -/
def enqueue (alertID : AlertId) (eventType : EventType) (now : Time) (channels : ChannelTable)
    (deliveries : DeliveryTable) : DeliveryTable :=
  (channels.rows.filter Channel.active).foldl
    (fun deliveries channel =>
      deliveries.insertIgnore (pendingDelivery alertID eventType now channel))
    deliveries

variable {channels : ChannelTable} {eventType : EventType} {alertID : AlertId}

/-- **`enqueue` row by row.**  An active channel without a delivery of this alert
and event type gets a pending one. -/
theorem get?_enqueue_of_none {now : Time} {deliveries : DeliveryTable} {channel : Channel}
    (hmem : channel ∈ channels) (hactive : channel.active = true)
    (hnone : deliveries.get? ⟨alertID, channel.id, eventType⟩ = none) :
    (enqueue alertID eventType now channels deliveries).get? ⟨alertID, channel.id, eventType⟩ =
      some (pendingDelivery alertID eventType now channel) := by
  have hfilter : channel ∈ channels.rows.filter Channel.active :=
    List.mem_filter.mpr ⟨hmem, hactive⟩
  rw [enqueue, Table.get?_foldl_insertIgnore, hnone, Option.none_or]
  cases hfind : (channels.rows.filter Channel.active).find? fun c =>
      (pendingDelivery alertID eventType now c).key = ⟨alertID, channel.id, eventType⟩ with
  | none =>
    have habsent := List.find?_eq_none.mp hfind channel hfilter
    simp [pendingDelivery] at habsent
  | some found =>
    grind [pendingDelivery]

/-- Every delivery that `enqueue` leaves was there, or is the pending one of its
own alert and event type. -/
theorem get?_enqueue_of_ne {now : Time} {deliveries : DeliveryTable} {k : DeliveryKey}
    (h : k.alertId ≠ alertID ∨ k.eventType ≠ eventType) :
    (enqueue alertID eventType now channels deliveries).get? k = deliveries.get? k := by
  have hnone : (channels.rows.filter Channel.active).find? (fun c =>
      (pendingDelivery alertID eventType now c).key = k) = none := by
    rw [List.find?_eq_none]
    intro c _ hkey
    have hk : (⟨alertID, c.id, eventType⟩ : DeliveryKey) = k := of_decide_eq_true hkey
    subst hk
    simp at h
  rw [enqueue, Table.get?_foldl_insertIgnore, hnone, Option.map_none, Option.or_none]

/-! ## Dispatching -/

/-- `d.status='PENDING' AND d.next_attempt_at<=NOW() AND p.active=TRUE`. -/
def Claimable (now : Time) (channels : ChannelTable) (d : Delivery) : Prop :=
  d.status = .pending ∧ d.nextAttemptAt ≤ now ∧
    ∃ channel, channels.get? d.key.channelId = some channel ∧ channel.active = true

instance (now : Time) (channels : ChannelTable) (d : Delivery) :
    Decidable (Claimable now channels d) :=
  match h : channels.get? d.key.channelId with
  | none => isFalse fun ⟨_, _, _, hc, _⟩ => by rw [h] at hc; contradiction
  | some channel =>
    decidable_of_iff (d.status = .pending ∧ d.nextAttemptAt ≤ now ∧ channel.active = true)
      (by simp [Claimable, h])

/-- `claim`: the delivery is being sent. -/
def claimDelivery (k : DeliveryKey) (deliveries : DeliveryTable) : DeliveryTable :=
  deliveries.update (fun d => d.key = k) fun d => { d with status := .sending }

/-- The end of `processOne`: sent, or tried again after `1<<min(attempts, 6)`
minutes, five times at most. -/
def settleDelivery (delivered : Bool) (now : Time) (d : Delivery) : Delivery :=
  if delivered then { d with status := .sent, sentAt := some now }
  else
    let attempts := d.attempts + 1
    { d with
      status := if attempts ≥ 5 then .failed else .pending
      attempts := attempts
      nextAttemptAt := now + (1 <<< min attempts 6) * 60000 }

@[simp] theorem settleDelivery_key (delivered : Bool) (now : Time) (d : Delivery) :
    (settleDelivery delivered now d).key = d.key := by
  cases delivered <;> rfl

/-- `UPDATE notification_deliveries … WHERE id=$1` at the end of `processOne`. -/
def finishDelivery (k : DeliveryKey) (delivered : Bool) (now : Time)
    (deliveries : DeliveryTable) : DeliveryTable :=
  deliveries.update (fun d => d.key = k) (settleDelivery delivered now) ⟨fun _ => by simp⟩

/-- **A queued delivery will be sent.**  What `enqueue` inserts can be claimed from
its own time on, for as long as its channel is active. -/
theorem claimable_pendingDelivery {occurred now : Time}
    {channel : Channel} (hmem : channel ∈ channels)
    (hactive : channel.active = true) (hnow : occurred ≤ now) :
    Claimable now channels (pendingDelivery alertID eventType occurred channel) :=
  ⟨rfl, hnow, channel, Table.get?_of_mem hmem, hactive⟩

end Notifications

end Rhythm
