import Rhythm.Alerts.Ingest

/-!
# Rhythm.Alerts.Redelivery

Can a webhook delivery that fails be sent again?  Its receipt is written before its
events and is never taken back, so the same body is a duplicate from then on and
what was not applied is lost.  A failure is harmless when it comes before the
receipt, or when it loses nothing.
-/

namespace Rhythm.Alerts.OpenSearch

open Notifications

/-- No table has changed. -/
structure Unchanged (before after : Inbox) : Prop where
  effects : after.effects = before.effects
  receipts : after.receipts = before.receipts
  receivers : after.receivers = before.receivers

/-- **The redelivery law.**  A delivery changes nothing, or the same body, accepted again at
any later time and without a failure, leaves what a delivery that did not fail would
have left. -/
def Retryable (lib : Library) (conds : Conditions) (receiverID token : String) (raw : ByteArray)
    (inbox : Inbox) : Prop :=
  let failed := (ingest lib conds receiverID token raw inbox).1
  Unchanged inbox failed ∨
    ∀ receiver schema events, authorize lib conds receiverID token inbox = some receiver →
      accept lib raw = .ok (schema, events) →
      ∀ wait, ∀ retry : Conditions, retry.Unfailing → ∃ unfailed : Conditions, unfailed.Unfailing ∧
        (deliver lib retry receiver (lib.sha256 raw) schema events (failed.later wait)).1.effects =
          (ingest lib unfailed receiverID token raw inbox).1.effects

/-- Every active channel has the notification that event `i` asks for, or it asks for none. -/
def Told (conds : Conditions) (receiverID : String) (i : Nat) (event : ExternalEvent)
    (inbox : Inbox) : Prop :=
  let target := inbox.target conds receiverID i event
  ∀ eventType, target.due = some eventType →
    ∀ channel ∈ inbox.store.channels, channel.active = true →
      (inbox.store.deliveries.get? ⟨target.alertId, channel.id, eventType⟩).isSome = true

def Stops (lib : Library) (receiver : Receiver) : List ExternalEvent → Prop
  | [] => True
  | event :: _ =>
    validateEvent (normalizeEvent lib.unescape event) receiver.expectedMonitorTypes ≠ none

/-- Event `i` fails at no statement, or at the insert of its notifications when these are
there, and it is the last one or asks for none. -/
def Harmless (lib : Library) (conds : Conditions) (receiver : Receiver) (i : Nat)
    (event : ExternalEvent) (events : List ExternalEvent) (inbox : Inbox) : Prop :=
  conds.failing i = none ∨
    conds.failing i = some .enqueueNotifications ∧ Told conds receiver.id i event inbox ∧
      ((inbox.target conds receiver.id i event).due = none ∨ Stops lib receiver events)

def Completes (lib : Library) (conds : Conditions) (receiver : Receiver) :
    Nat → List ExternalEvent → Inbox → Prop
  | _, [], _ => True
  | i, event :: events, inbox =>
    let event := normalizeEvent lib.unescape event
    validateEvent event receiver.expectedMonitorTypes = none →
      Harmless lib conds receiver i event events inbox ∧
        Completes lib conds receiver (i + 1) events
          (ingestEvent conds receiver.id i event inbox).1

/-- The delivery is refused, or fails before its receipt is written, or has one already; or
nothing of it is lost. -/
def FailsSafely (lib : Library) (conds : Conditions) (receiverID token : String)
    (raw : ByteArray) (inbox : Inbox) : Prop :=
  match authorize lib conds receiverID token inbox, accept lib raw with
  | some receiver, .ok (_, events) =>
    conds.fails .insertReceipt = true ∨
      (inbox.receipts.get? ⟨receiver.id, lib.sha256 raw⟩).isSome = true ∨
        if conds.fails .selectReceipt = true then Stops lib receiver events
        else Completes lib conds receiver 0 events inbox
  | _, _ => True

instance (lib : Library) (receiver : Receiver) (events : List ExternalEvent) :
    Decidable (Stops lib receiver events) :=
  match events with
  | [] => isTrue trivial
  | event :: _ => inferInstanceAs (Decidable (validateEvent (normalizeEvent lib.unescape event)
      receiver.expectedMonitorTypes ≠ none))

instance (conds : Conditions) (receiverID : String) (i : Nat) (event : ExternalEvent)
    (inbox : Inbox) : Decidable (Told conds receiverID i event inbox) :=
  match h : (inbox.target conds receiverID i event).due with
  | none => isTrue fun eventType hdue => by rw [h] at hdue; contradiction
  | some eventType =>
    decidable_of_iff (∀ channel ∈ inbox.store.channels, channel.active = true →
      (inbox.store.deliveries.get?
        ⟨(inbox.target conds receiverID i event).alertId, channel.id, eventType⟩).isSome = true)
      (by simp [Told, h])

instance (lib : Library) (conds : Conditions) (receiver : Receiver) (i : Nat)
    (event : ExternalEvent) (events : List ExternalEvent) (inbox : Inbox) :
    Decidable (Harmless lib conds receiver i event events inbox) :=
  inferInstanceAs (Decidable (_ ∨ _ ∧ _ ∧ (_ ∨ _)))

instance decidableCompletes (lib : Library) (conds : Conditions) (receiver : Receiver) :
    ∀ i events inbox, Decidable (Completes lib conds receiver i events inbox)
  | _, [], _ => isTrue trivial
  | i, event :: events, inbox =>
    have := decidableCompletes lib conds receiver (i + 1) events
      (ingestEvent conds receiver.id i (normalizeEvent lib.unescape event) inbox).1
    inferInstanceAs (Decidable (_ → _ ∧ _))

instance (lib : Library) (conds : Conditions) (receiverID token : String) (raw : ByteArray)
    (inbox : Inbox) : Decidable (FailsSafely lib conds receiverID token raw inbox) :=
  match hauthorized : authorize lib conds receiverID token inbox, haccepted : accept lib raw with
  | some receiver, .ok (_, events) =>
    decidable_of_iff
      (conds.fails .insertReceipt = true ∨
        (inbox.receipts.get? ⟨receiver.id, lib.sha256 raw⟩).isSome = true ∨
          if conds.fails .selectReceipt = true then Stops lib receiver events
          else Completes lib conds receiver 0 events inbox)
      (by simp only [FailsSafely, hauthorized, haccepted])
  | some _, .error _ => isTrue (by simp only [FailsSafely, hauthorized, haccepted])
  | none, _ => isTrue (by simp only [FailsSafely, hauthorized])

/-! ## Notifications that are there -/

theorem isSome_get?_enqueue {alertID : AlertId} {eventType : EventType} {now : Time}
    {channels : ChannelTable} {deliveries : DeliveryTable} {channel : Channel}
    (hmem : channel ∈ channels) (hactive : channel.active = true) :
    ((enqueue alertID eventType now channels deliveries).get?
      ⟨alertID, channel.id, eventType⟩).isSome = true := by
  cases hget : deliveries.get? ⟨alertID, channel.id, eventType⟩ with
  | none =>
    rw [get?_enqueue_of_none hmem hactive hget]
    rfl
  | some delivery =>
    rw [enqueue, Table.get?_foldl_insertIgnore, hget]
    rfl

theorem enqueue_eq_self {alertID : AlertId} {eventType : EventType} {now : Time}
    {channels : ChannelTable} {deliveries : DeliveryTable}
    (h : ∀ channel ∈ channels, channel.active = true →
      (deliveries.get? ⟨alertID, channel.id, eventType⟩).isSome = true) :
    enqueue alertID eventType now channels deliveries = deliveries := by
  have hrows : ∀ channel ∈ channels.rows.filter Channel.active,
      deliveries.insertIgnore (pendingDelivery alertID eventType now channel) = deliveries := by
    intro channel hchannel
    obtain ⟨hmem, hactive⟩ := List.mem_filter.mp hchannel
    obtain ⟨delivery, hdelivery⟩ := Option.isSome_iff_exists.mp (h channel hmem hactive)
    have hrefused : deliveries.insert (pendingDelivery alertID eventType now channel) = none :=
      Table.insert_eq_none_iff.mpr ⟨delivery, hdelivery⟩
    rw [Table.insertIgnore, hrefused, Option.getD_none]
  rw [enqueue]
  generalize channels.rows.filter Channel.active = rows at hrows
  induction rows with
  | nil => rfl
  | cons channel rows ih =>
    rw [List.foldl_cons, hrows channel List.mem_cons_self]
    exact ih fun other hother => hrows other (List.mem_cons_of_mem _ hother)

variable {lib : Library} {conds : Conditions} {receiver : Receiver} {receiverID : String} {i : Nat}
  {event : ExternalEvent} {inbox : Inbox}

theorem applyEvent_told {reconciled : Bool} {newID : AlertId} {s : State}
    (h : ∀ eventType, (eventTarget receiverID event newID s).due = some eventType →
      ∀ channel ∈ s.channels, channel.active = true →
        (s.deliveries.get?
          ⟨(eventTarget receiverID event newID s).alertId, channel.id, eventType⟩).isSome = true) :
    applyEvent receiverID event reconciled newID (some .enqueueNotifications) s =
      applyEvent receiverID event reconciled newID none s := by
  have hkept : enqueueOpenSearchNotifications (eventTarget receiverID event newID s).alertId
      (eventTarget receiverID event newID s).previous (eventTarget receiverID event newID s).state
      (event.occurredAt.getD s.now) s.channels s.deliveries = s.deliveries := by
    rw [enqueueOpenSearchNotifications]
    rw [Target.due] at h
    split
    · next eventType hdue => exact enqueue_eq_self (h eventType hdue)
    · rfl
  simp [applyEvent, Statement.precedesWrite, hkept]

/-! ## A delivery that does not fail -/

def Conditions.mended (conds : Conditions) : Conditions := { conds with fails := fun _ => false }

theorem unfailing_mended (conds : Conditions) : conds.mended.Unfailing := fun _ => rfl

theorem ingestEvent_mended (hfailing : conds.failing i = none) :
    ingestEvent conds.mended receiverID i event inbox =
      ingestEvent conds receiverID i event inbox := by
  have hmended : conds.mended.failing i = none := (unfailing_mended conds).failing_eq i
  simp only [ingestEvent, hmended, hfailing]
  rfl

theorem ingestEvent_mended_told (hfailing : conds.failing i = some .enqueueNotifications)
    (htold : Told conds receiverID i event inbox) :
    (ingestEvent conds.mended receiverID i event inbox).1 =
      (ingestEvent conds receiverID i event inbox).1 := by
  have hmended : conds.mended.failing i = none := (unfailing_mended conds).failing_eq i
  have hsame : applyEvent receiverID event false (conds.newAlertId inbox.store.alerts)
      (some .enqueueNotifications) (inbox.clock conds i) =
      applyEvent receiverID event false (conds.newAlertId inbox.store.alerts) none
        (inbox.clock conds i) := applyEvent_told htold
  simp only [ingestEvent, hmended, hfailing, hsame]
  rfl

theorem ingestEvents_of_stops {events : List ExternalEvent} (h : Stops lib receiver events) :
    (ingestEvents lib conds receiver i events inbox).1 = inbox := by
  cases events with
  | nil => rfl
  | cons event events =>
    obtain ⟨message, hmessage⟩ := Option.ne_none_iff_exists'.mp h
    simp only [ingestEvents, hmessage]

theorem completes_of_stops {events : List ExternalEvent} (h : Stops lib receiver events) :
    Completes lib conds receiver i events inbox := by
  cases events with
  | nil => trivial
  | cons event events =>
    intro hvalid
    exact absurd hvalid h

theorem ok_of_failing_enqueue (h : conds.failing i = some .enqueueNotifications) :
    (ingestEvent conds receiverID i event inbox).2 =
      decide ((inbox.target conds receiverID i event).due = none) := by
  simp [ingestEvent, h]

/-- **Harmless failures lose nothing.** -/
theorem ingestEvents_mended {events : List ExternalEvent}
    (h : Completes lib conds receiver i events inbox) :
    (ingestEvents lib conds.mended receiver i events inbox).1.effects =
      (ingestEvents lib conds receiver i events inbox).1.effects := by
  induction events generalizing i inbox with
  | nil => rfl
  | cons event events ih =>
    cases hvalid : validateEvent (normalizeEvent lib.unescape event)
        receiver.expectedMonitorTypes with
    | some message => simp only [ingestEvents, hvalid]
    | none =>
      have hmended : (ingestEvent conds.mended receiver.id i (normalizeEvent lib.unescape event)
          inbox).2 = true := ok_of_failing_none ((unfailing_mended conds).failing_eq i)
      rw [ingestEvents_cons_ok hvalid hmended]
      obtain ⟨hharmless, hrest⟩ := h hvalid
      obtain hnone | ⟨henqueue, htold, hlast⟩ := hharmless
      · rw [ingestEvents_cons_ok hvalid (ok_of_failing_none hnone), ingestEvent_mended hnone]
        exact ih hrest
      · rw [ingestEvent_mended_told henqueue htold]
        by_cases hdue : (inbox.target conds receiver.id i
            (normalizeEvent lib.unescape event)).due = none
        · rw [ingestEvents_cons_ok hvalid (by simp [ok_of_failing_enqueue henqueue, hdue])]
          exact ih hrest
        · rw [ingestEvents_cons_failed hvalid (by simp [ok_of_failing_enqueue henqueue, hdue]),
            ingestEvents_of_stops (hlast.resolve_left hdue)]

/-! ## What was lost -/

theorem length_events_ingestEvent :
    (ingestEvent conds receiverID i event inbox).1.events.length =
      inbox.events.length +
        if conds.failing i = none ∨ conds.failing i = some .enqueueNotifications then 1 else 0 := by
  simp only [ingestEvent]
  split <;> simp

theorem length_events_le (events : List ExternalEvent) :
    inbox.events.length ≤ (ingestEvents lib conds receiver i events inbox).1.events.length := by
  induction events generalizing i inbox with
  | nil => exact Nat.le_refl _
  | cons event events ih =>
    grind [length_events_ingestEvent, normalizeEvent, ingestEvents, ingestEvent]

theorem length_events_lt {events : List ExternalEvent} (hunfailing : conds.Unfailing)
    (h : ¬ Stops lib receiver events) :
    inbox.events.length < (ingestEvents lib conds receiver i events inbox).1.events.length := by
  cases events with
  | nil => exact absurd trivial h
  | cons event events =>
    have hvalid := not_not.mp h
    have hnone : conds.failing i = none := hunfailing.failing_eq i
    rw [ingestEvents_cons_ok hvalid (ok_of_failing_none hnone)]
    have hstep := @length_events_ingestEvent conds receiver.id i
      (normalizeEvent lib.unescape event) inbox
    have hrest := @length_events_le lib conds receiver (i + 1)
      (ingestEvent conds receiver.id i (normalizeEvent lib.unescape event) inbox).1 events
    rw [if_pos (.inl hnone)] at hstep
    omega

/-- Two inboxes that the same events meet alike. -/
structure Alike (a b : Inbox) : Prop where
  states : ∀ key, upstreamState? key a.store.alerts = upstreamState? key b.store.alerts
  channels : a.store.channels = b.store.channels
  recorded : a.events.length = b.events.length

theorem alike_refl (inbox : Inbox) : Alike inbox inbox := ⟨fun _ => rfl, rfl, rfl⟩

variable {unfailed : Conditions} {other : Inbox}

theorem alike_ingestEvent (hunfailed : unfailed.Unfailing)
    (hrecorded : conds.failing i = none ∨ conds.failing i = some .enqueueNotifications)
    (h : Alike inbox other) :
    Alike (ingestEvent conds receiverID i event inbox).1
      (ingestEvent unfailed receiverID i event other).1 := by
  have hwrites : (conds.failing i).any Statement.precedesWrite = false := by
    obtain hnone | henqueue := hrecorded
    · rw [hnone]
      rfl
    · rw [henqueue]
      rfl
  have hnone : unfailed.failing i = none := hunfailed.failing_eq i
  have hwrites' : (unfailed.failing i).any Statement.precedesWrite = false := by
    rw [hnone]
    rfl
  constructor
  · intro key
    rw [upstreamState?_ingestEvent key hwrites, upstreamState?_ingestEvent key hwrites',
      h.states key]
  · rw [(ingestEvent_ok hwrites).2.1, (ingestEvent_ok hwrites').2.1, h.channels]
  · rw [length_events_ingestEvent, length_events_ingestEvent, if_pos hrecorded,
      if_pos (.inl hnone), h.recorded]

theorem due_eq (h : Alike inbox other) :
    (inbox.target conds receiverID i event).due =
      (other.target unfailed receiverID i event).due := by
  rw [Target.due, Target.due, previous_target, previous_target, state_target, state_target,
    h.states]

/-- **The notifications were there.**  A failed insert that leaves what a successful one leaves
had nothing to add. -/
theorem told_of_effects_eq (hunfailed : unfailed.Unfailing)
    (henqueue : conds.failing i = some .enqueueNotifications) (h : Alike inbox other)
    (heffects : (ingestEvent conds receiverID i event inbox).1.effects =
      (ingestEvent unfailed receiverID i event other).1.effects) :
    Told conds receiverID i event inbox := by
  intro eventType hdue channel hchannel hactive
  have hnone : unfailed.failing i = none := hunfailed.failing_eq i
  obtain ⟨hrow, -, hdeliveries⟩ := @ingestEvent_ok conds receiverID i event inbox
    (by rw [henqueue]; rfl)
  obtain ⟨hrow', -, hdeliveries'⟩ := @ingestEvent_ok unfailed receiverID i event other
    (by rw [hnone]; rfl)
  have halerts := congrArg Effects.alerts heffects
  have hnotifications := congrArg Effects.notifications heffects
  simp only [Inbox.effects] at halerts hnotifications
  have hid : (inbox.target conds receiverID i event).alertId =
      (other.target unfailed receiverID i event).alertId := by
    have hread := hrow (deduplicationKey receiverID event)
    have hread' := hrow' (deduplicationKey receiverID event)
    rw [if_pos rfl] at hread hread'
    rw [halerts, hread'] at hread
    exact congrArg Prod.fst (Option.some.inj hread.symm)
  have hdue' : notification (other.target unfailed receiverID i event).previous
      (other.target unfailed receiverID i event).state = some eventType :=
    (due_eq h).symm.trans hdue
  rw [hdeliveries, if_neg (by simp [henqueue]), hdeliveries', if_pos hnone,
    enqueueOpenSearchNotifications, hdue'] at hnotifications
  rw [hnotifications, hid]
  exact isSome_get?_enqueue (h.channels ▸ hchannel) hactive

theorem recorded_of_effects_eq {events : List ExternalEvent} (hunfailed : unfailed.Unfailing)
    (h : Alike inbox other)
    (hvalid :
      validateEvent (normalizeEvent lib.unescape event) receiver.expectedMonitorTypes = none)
    (heffects : (ingestEvents lib conds receiver i (event :: events) inbox).1.effects =
      (ingestEvents lib unfailed receiver i (event :: events) other).1.effects) :
    conds.failing i = none ∨ conds.failing i = some .enqueueNotifications := by
  by_contra hunrecorded
  have hfailed : (ingestEvent conds receiver.id i (normalizeEvent lib.unescape event)
      inbox).2 = false := by
    obtain ⟨statement, hfailing⟩ := Option.ne_none_iff_exists'.mp (not_or.mp hunrecorded).1
    have henqueue : statement ≠ .enqueueNotifications := fun heq =>
      hunrecorded (.inr (heq ▸ hfailing))
    simp [ingestEvent, hfailing, henqueue]
  have hnone : unfailed.failing i = none := hunfailed.failing_eq i
  rw [ingestEvents_cons_failed hvalid hfailed,
    ingestEvents_cons_ok hvalid (ok_of_failing_none hnone)] at heffects
  have hlength := congrArg (fun effects => effects.events.length) heffects
  have hbefore := @length_events_ingestEvent conds receiver.id i
    (normalizeEvent lib.unescape event) inbox
  have hother := @length_events_ingestEvent unfailed receiver.id i
    (normalizeEvent lib.unescape event) other
  have hrest := @length_events_le lib unfailed receiver (i + 1) (ingestEvent unfailed
    receiver.id i (normalizeEvent lib.unescape event) other).1 events
  have hsame := h.recorded
  simp only [Inbox.effects] at hlength
  rw [if_neg hunrecorded] at hbefore
  rw [if_pos (.inl hnone)] at hother
  omega

theorem stops_of_effects_eq {events : List ExternalEvent} (hunfailed : unfailed.Unfailing)
    (h : Alike inbox other)
    (heffects : inbox.effects = (ingestEvents lib unfailed receiver i events other).1.effects) :
    Stops lib receiver events := by
  by_contra hgoes
  have hmore := @length_events_lt lib unfailed receiver i other events hunfailed hgoes
  have hlength := congrArg (fun effects => effects.events.length) heffects
  have hsame := h.recorded
  simp only [Inbox.effects] at hlength
  omega

/-- **Only harmless failures lose nothing.** -/
theorem completes_of_effects_eq {events : List ExternalEvent} (hunfailed : unfailed.Unfailing)
    (h : Alike inbox other)
    (heffects : (ingestEvents lib conds receiver i events inbox).1.effects =
      (ingestEvents lib unfailed receiver i events other).1.effects) :
    Completes lib conds receiver i events inbox := by
  induction events generalizing i inbox other with
  | nil => trivial
  | cons event events ih =>
    intro hvalid
    have hrecorded := recorded_of_effects_eq hunfailed h hvalid heffects
    have halike := @alike_ingestEvent conds receiver.id i (normalizeEvent lib.unescape event)
      inbox unfailed other hunfailed hrecorded h
    rw [ingestEvents_cons_ok hvalid (ok_of_failing_none (hunfailed.failing_eq i))] at heffects
    obtain hnone | henqueue := hrecorded
    · rw [ingestEvents_cons_ok hvalid (ok_of_failing_none hnone)] at heffects
      exact ⟨.inl hnone, ih halike heffects⟩
    · have hok := @ok_of_failing_enqueue conds receiver.id i (normalizeEvent lib.unescape event)
        inbox henqueue
      by_cases hdue : (inbox.target conds receiver.id i
          (normalizeEvent lib.unescape event)).due = none
      · rw [decide_eq_true hdue] at hok
        rw [ingestEvents_cons_ok hvalid hok] at heffects
        have htold : Told conds receiver.id i (normalizeEvent lib.unescape event) inbox := by
          intro eventType hsome
          rw [hdue] at hsome
          contradiction
        exact ⟨.inr ⟨henqueue, htold, .inl hdue⟩, ih halike heffects⟩
      · rw [decide_eq_false hdue] at hok
        rw [ingestEvents_cons_failed hvalid hok] at heffects
        have hstops := stops_of_effects_eq hunfailed halike heffects
        rw [ingestEvents_of_stops hstops] at heffects
        exact ⟨.inr ⟨henqueue, told_of_effects_eq hunfailed henqueue h heffects, .inr hstops⟩,
          completes_of_stops hstops⟩

/-! ## Whole deliveries -/

variable {bodyHash schema token : String} {raw : ByteArray} {events : List ExternalEvent}

theorem authorize_unfailing (hunfailed : unfailed.Unfailing)
    (h : authorize lib conds receiverID token inbox = some receiver) :
    authorize lib unfailed receiverID token inbox = some receiver := by
  unfold authorize at h ⊢
  rw [hunfailed]
  split at h
  · contradiction
  · exact h

theorem redelivery_effects {retry : Conditions} {wait : Nat}
    (h : (inbox.receipts.get? ⟨receiver.id, bodyHash⟩).isSome = true) :
    (deliver lib retry receiver bodyHash schema events (inbox.later wait)).1.effects =
      inbox.effects := by
  obtain ⟨receipt, hreceipt⟩ := Option.isSome_iff_exists.mp h
  have hlater : (inbox.later wait).receipts.get? ⟨receiver.id, bodyHash⟩ = some receipt := hreceipt
  rw [(deliver_duplicate hlater).1]
  rfl

theorem effects_deliver_unfailing (hunfailed : unfailed.Unfailing)
    (hnew : inbox.receipts.get? ⟨receiver.id, bodyHash⟩ = none) :
    (deliver lib unfailed receiver bodyHash schema events inbox).1.effects =
      (ingestEvents lib unfailed receiver 0 events inbox).1.effects := by
  have hselects : ¬ unfailed.fails .selectReceipt = true := by
    rw [hunfailed]
    exact Bool.false_ne_true
  rw [(deliver_new hnew (hunfailed _)).2, if_neg hselects]

theorem effects_mended_deliver (hnew : inbox.receipts.get? ⟨receiver.id, bodyHash⟩ = none)
    (hinsert : conds.fails .insertReceipt = false)
    (hsafe : if conds.fails .selectReceipt = true then Stops lib receiver events
      else Completes lib conds receiver 0 events inbox) :
    (deliver lib conds receiver bodyHash schema events inbox).1.effects =
      (deliver lib conds.mended receiver bodyHash schema events inbox).1.effects := by
  rw [effects_deliver_unfailing (unfailing_mended conds) hnew, (deliver_new hnew hinsert).2]
  split
  · next hselect =>
    rw [if_pos hselect] at hsafe
    rw [ingestEvents_of_stops hsafe]
  · next hselect =>
    rw [if_neg hselect] at hsafe
    exact (ingestEvents_mended hsafe).symm

theorem safe_of_effects_eq (hunfailed : unfailed.Unfailing)
    (hnew : inbox.receipts.get? ⟨receiver.id, bodyHash⟩ = none)
    (hinsert : conds.fails .insertReceipt = false)
    (heffects : (deliver lib conds receiver bodyHash schema events inbox).1.effects =
      (deliver lib unfailed receiver bodyHash schema events inbox).1.effects) :
    if conds.fails .selectReceipt = true then Stops lib receiver events
    else Completes lib conds receiver 0 events inbox := by
  rw [effects_deliver_unfailing hunfailed hnew, (deliver_new hnew hinsert).2] at heffects
  split
  · next hselect =>
    rw [if_pos hselect] at heffects
    exact stops_of_effects_eq hunfailed (alike_refl inbox) heffects
  · next hselect =>
    rw [if_neg hselect] at heffects
    exact completes_of_effects_eq hunfailed (alike_refl inbox) heffects

theorem unchanged_refl (inbox : Inbox) : Unchanged inbox inbox := ⟨rfl, rfl, rfl⟩

theorem retryable_of_failsSafely (h : FailsSafely lib conds receiverID token raw inbox) :
    Retryable lib conds receiverID token raw inbox := by
  cases hauthorized : authorize lib conds receiverID token inbox with
  | none =>
    refine .inl ?_
    simp only [ingest, hauthorized]
    exact unchanged_refl inbox
  | some receiver =>
    cases haccepted : accept lib raw with
    | error message =>
      refine .inl ?_
      simp only [ingest, hauthorized, haccepted]
      exact unchanged_refl inbox
    | ok accepted =>
      obtain ⟨schema, events⟩ := accepted
      simp only [FailsSafely, hauthorized, haccepted] at h
      simp only [Retryable]
      rw [ingest_accepted hauthorized haccepted]
      cases hinsert : conds.fails .insertReceipt with
      | true =>
        refine .inl ?_
        simp only [deliver, hinsert, if_true]
        exact unchanged_refl inbox
      | false =>
        cases hreceipt : inbox.receipts.get? ⟨receiver.id, lib.sha256 raw⟩ with
        | some receipt =>
          refine .inl ?_
          rw [(deliver_duplicate hreceipt).1]
          exact unchanged_refl inbox
        | none =>
          refine .inr fun receiver' schema' events' hreceiver hevents wait retry _ =>
            ⟨conds.mended, unfailing_mended conds, ?_⟩
          rw [hauthorized, Option.some.injEq] at hreceiver
          rw [haccepted, Except.ok.injEq, Prod.mk.injEq] at hevents
          obtain ⟨rfl, rfl⟩ := hevents
          subst hreceiver
          have hsafe := (h.resolve_left (by simp [hinsert])).resolve_left (by simp [hreceipt])
          rw [redelivery_effects (deliver_new hreceipt hinsert).1, ingest_accepted
            (authorize_unfailing (unfailing_mended conds) hauthorized) haccepted]
          exact effects_mended_deliver hreceipt hinsert hsafe

theorem failsSafely_of_retryable (h : Retryable lib conds receiverID token raw inbox) :
    FailsSafely lib conds receiverID token raw inbox := by
  cases hauthorized : authorize lib conds receiverID token inbox with
  | none => simp only [FailsSafely, hauthorized]
  | some receiver =>
    cases haccepted : accept lib raw with
    | error message => simp only [FailsSafely, hauthorized, haccepted]
    | ok accepted =>
      obtain ⟨schema, events⟩ := accepted
      simp only [FailsSafely, hauthorized, haccepted]
      simp only [Retryable] at h
      rw [ingest_accepted hauthorized haccepted] at h
      cases hinsert : conds.fails .insertReceipt with
      | true => exact .inl rfl
      | false =>
        cases hreceipt : inbox.receipts.get? ⟨receiver.id, lib.sha256 raw⟩ with
        | some receipt => exact .inr (.inl rfl)
        | none =>
          have hrecorded := (@deliver_new lib conds receiver inbox (lib.sha256 raw) schema events
            hreceipt hinsert).1
          obtain hunchanged | hretry := h
          · rw [hunchanged.receipts, hreceipt] at hrecorded
            contradiction
          · obtain ⟨unfailed, hunfailed, hsame⟩ := hretry receiver schema events hauthorized
              haccepted 0 conds.mended (unfailing_mended conds)
            rw [redelivery_effects hrecorded, ingest_accepted
              (authorize_unfailing hunfailed hauthorized) haccepted] at hsame
            exact .inr (.inr (safe_of_effects_eq hunfailed hreceipt hinsert hsame))

/-- **Retryable deliveries.**  For every body, receiver, inbox and set of statements that
fail: the delivery changes nothing, or its redelivery makes good what was lost,
exactly when it fails safely. -/
theorem retryable_iff (lib : Library) (conds : Conditions) (receiverID token : String)
    (raw : ByteArray) (inbox : Inbox) :
    Retryable lib conds receiverID token raw inbox ↔
      FailsSafely lib conds receiverID token raw inbox :=
  ⟨failsSafely_of_retryable, retryable_of_failsSafely⟩

/-- The insert of the alert fails: the body has its receipt, and the event is lost. -/
theorem failed_event_lost :
    ¬ ∀ lib conds receiverID token raw inbox,
      Retryable lib conds receiverID token raw inbox := by
  intro h
  have hsafe := failsSafely_of_retryable
    (h (sampleLibrary (sampleBody "ACTIVE" .null) .null)
      (sampleConditions (some (.event 0 .writeAlert))) "r" "token" .empty sampleInbox)
  revert hsafe
  decide +kernel

end Rhythm.Alerts.OpenSearch
