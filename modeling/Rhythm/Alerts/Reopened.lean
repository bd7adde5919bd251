import Rhythm.Alerts.OpenSearch

/-!
# Rhythm.Alerts.Reopened

Does every incident of a received alert notify?  A delivery is unique for its
alert, channel and event type, and the alert's row is used again for its next
incident, so `ON CONFLICT … DO NOTHING` swallows the notifications of a second
one.  Along a run every change notifies exactly when no statement fails after
a change was written and no active channel was told of an earlier one.
-/

namespace Rhythm.Alerts.OpenSearch

open Notifications

def Transition (eventType : EventType) (before after : Option AlertState) : Prop :=
  match eventType with
  | .alertOpened =>
    (before = none ∨ before = some .resolved) ∧ (after = some .open ∨ after = some .error)
  | .alertRecovered => before ≠ none ∧ before ≠ some .resolved ∧ after = some .resolved

instance (eventType : EventType) (before after : Option AlertState) :
    Decidable (Transition eventType before after) := by
  cases eventType <;> exact inferInstanceAs (Decidable (_ ∧ _))

/-- A delivery that was not there is now waiting for a dispatcher, who can claim it from
the time it is due. -/
def NewDelivery (s s' : State) (key : DeliveryKey) : Prop :=
  s.deliveries.get? key = none ∧
    ∃ d, s'.deliveries.get? key = some d ∧
      ∀ now, d.nextAttemptAt ≤ now → Claimable now s'.channels d

/-- **The notification law for one step.**  An event that starts or ends an incident leaves
a new delivery for each active channel. -/
def Notifies (s : State) (a : Action) (s' : State) : Prop :=
  match a with
  | .applyEvent .. =>
    ∀ alertID eventType, Transition eventType (s.alertState? alertID) (s'.alertState? alertID) →
      ∀ channel ∈ s.channels, channel.active = true →
        NewDelivery s s' ⟨alertID, channel.id, eventType⟩
  | _ => True

/-- An event that starts or ends an incident of the row it meets runs to its end, and no
active channel has a delivery of that kind from an earlier incident of the row. -/
def FirstOfItsKind (s : State) (a : Action) : Prop :=
  match a with
  | .applyEvent receiverID event _ newID failing =>
    let target := eventTarget receiverID event newID s
    failing.any Statement.precedesWrite = true ∨
      ∀ eventType, Transition eventType target.previous (some target.state) →
        ∀ channel ∈ s.channels, channel.active = true →
          failing = none ∧ (target.previous = none ∨
            s.deliveries.get? ⟨target.alertId, channel.id, eventType⟩ = none)
  | _ => True

instance (s : State) (a : Action) : Decidable (FirstOfItsKind s a) := by
  cases a <;> (dsimp only [FirstOfItsKind]; infer_instance)

/-! ## Invariants -/

/-- What holds in every reachable state: no alert is suppressed, and every delivery belongs
to an alert. -/
structure Invariant (s : State) : Prop where
  notSuppressed : ∀ k, s.alertState? k ≠ some .suppressed
  noDelivery : ∀ k, s.alertState? k.alertId = none → s.deliveries.get? k = none

theorem invariant_initial (now : Time) : Invariant (initial now) where
  notSuppressed k := by simp [initial, State.alertState?]
  noDelivery k _ := Table.get?_empty k

variable {receiverID : String} {event : ExternalEvent} {reconciled : Bool} {newID : AlertId}
  {failing : Option Statement} {s s' : State} {a : Action}

theorem invariant_updateAlerts {p : Alert → Prop} [DecidablePred p] {f : Alert → Alert}
    {hf : Table.KeepsKey Alert.id f} (hI : Invariant s)
    (hstate : ∀ alert, (f alert).state ≠ .suppressed) :
    Invariant { s with alerts := s.alerts.update p f hf } := by
  constructor
  · intro k
    have hbefore := hI.notSuppressed k
    rw [State.alertState?] at hbefore ⊢
    rw [Table.get?_update]
    cases hget : s.alerts.get? k with
    | none => simp
    | some alert =>
      by_cases hp : p alert
      · simp [hp, hstate]
      · simpa [hp, hget] using hbefore
  · intro k hk
    rw [State.alertState?, Option.map_eq_none_iff, Table.get?_update_eq_none] at hk
    exact hI.noDelivery k (Option.map_eq_none_iff.mpr hk)

theorem invariant_updateDeliveries {p : Delivery → Prop} [DecidablePred p] {f : Delivery → Delivery}
    {hf : Table.KeepsKey Delivery.key f} (hI : Invariant s) :
    Invariant { s with deliveries := s.deliveries.update p f hf } where
  notSuppressed := hI.notSuppressed
  noDelivery k hk := by
    rw [Table.get?_update_eq_none]
    exact hI.noDelivery k hk

theorem invariant_applyEvent (hI : Invariant s)
    (h : applyEvent receiverID event reconciled newID failing s = some s') : Invariant s' := by
  cases hwrites : failing.any Statement.precedesWrite with
  | true =>
    rw [applyEvent, if_pos hwrites, Option.some.injEq] at h
    exact h ▸ hI
  | false =>
    obtain ⟨hprevious, hstate, -, hdeliveries⟩ := applyEvent_ok hwrites h
    constructor
    · intro k
      rw [hstate]
      split
      · simpa using state_eventTarget_ne_suppressed
      · exact hI.notSuppressed k
    · intro k hk
      rw [hstate] at hk
      split at hk
      · contradiction
      · next hne =>
        have hkept : s'.deliveries.get? k = s.deliveries.get? k := by
          grind [enqueueOpenSearchNotifications, get?_enqueue_of_ne]
        rw [hkept]
        exact hI.noDelivery k hk

theorem invariant_step (hI : Invariant s) (h : step s a = some s') : Invariant s' := by
  cases a with
  | tick elapsed | setChannelActive channelID active =>
    simp only [step, Option.some.injEq] at h
    subst h
    exact ⟨hI.notSuppressed, hI.noDelivery⟩
  | createChannel channel =>
    simp only [step, Option.map_eq_some_iff] at h
    obtain ⟨channels, -, rfl⟩ := h
    exact ⟨hI.notSuppressed, hI.noDelivery⟩
  | applyEvent receiverID event reconciled newID failing => exact invariant_applyEvent hI h
  | acknowledge alertID | resolve alertID =>
    simp only [step, Option.some.injEq] at h
    subst h
    exact invariant_updateAlerts hI (by simp)
  | claim key | finish key delivered =>
    simp only [step, guarded_eq_some_iff] at h
    obtain ⟨-, rfl⟩ := h
    exact invariant_updateDeliveries hI

theorem not_transition_self (eventType : EventType) (state : Option AlertState) :
    ¬ Transition eventType state state := by
  cases eventType with
  | alertOpened =>
    rintro ⟨rfl | rfl, hafter⟩ <;> simp at hafter
  | alertRecovered =>
    rintro ⟨-, hbefore, hafter⟩
    exact hbefore hafter

theorem notification_of_transition {eventType : EventType} {previous : Option AlertState}
    {state : AlertState} (hsuppressed : previous ≠ some .suppressed)
    (h : Transition eventType previous (some state)) :
    notification previous state = some eventType := by
  cases eventType with
  | alertOpened =>
    obtain ⟨rfl | rfl, hafter⟩ := h <;> cases state <;> simp_all [notification]
  | alertRecovered =>
    obtain ⟨hnone, hresolved, hafter⟩ := h
    cases previous with
    | none => contradiction
    | some previous => cases previous <;> simp_all [notification]

/-- **An event notifies exactly when it is the first of its kind.** -/
theorem notifies_applyEvent_iff (hI : Invariant s)
    (h : applyEvent receiverID event reconciled newID failing s = some s') :
    Notifies s (.applyEvent receiverID event reconciled newID failing) s' ↔
      FirstOfItsKind s (.applyEvent receiverID event reconciled newID failing) := by
  cases hwrites : failing.any Statement.precedesWrite with
  | true =>
    rw [applyEvent, if_pos hwrites, Option.some.injEq] at h
    subst h
    simp [Notifies, FirstOfItsKind, hwrites, not_transition_self]
  | false =>
    obtain ⟨hprevious, hstate, hchannels, hdeliveries⟩ := applyEvent_ok hwrites h
    simp only [Notifies, FirstOfItsKind, hwrites, Bool.false_eq_true, false_or]
    generalize eventTarget receiverID event newID s = target at hprevious hstate hdeliveries
    have hsuppressed : target.previous ≠ some .suppressed := hprevious ▸ hI.notSuppressed _
    constructor
    · intro hlaw eventType htransition channel hchannel hactive
      have hmoved : Transition eventType (s.alertState? target.alertId)
          (s'.alertState? target.alertId) := by
        rw [hstate, if_pos rfl, ← hprevious]
        exact htransition
      obtain ⟨hnone, d, hd, -⟩ := hlaw target.alertId eventType hmoved channel hchannel hactive
      refine ⟨?_, .inr hnone⟩
      by_contra hfails
      rw [hdeliveries, if_neg hfails, hnone] at hd
      contradiction
    · intro hfirst alertID eventType hmoved channel hchannel hactive
      have htarget : alertID = target.alertId := by
        by_contra hne
        rw [hstate, if_neg hne] at hmoved
        exact not_transition_self _ _ hmoved
      subst htarget
      rw [hstate, if_pos rfl, ← hprevious] at hmoved
      obtain ⟨hruns, hfresh⟩ := hfirst eventType hmoved channel hchannel hactive
      have hnone : s.deliveries.get? ⟨target.alertId, channel.id, eventType⟩ = none :=
        hfresh.elim (fun habsent => hI.noDelivery _ (hprevious.symm.trans habsent)) id
      refine ⟨hnone, pendingDelivery target.alertId eventType (event.occurredAt.getD s.now) channel,
        ?_, fun now hnow => ?_⟩
      · rw [hdeliveries, if_pos hruns, enqueueOpenSearchNotifications,
          notification_of_transition hsuppressed hmoved]
        exact get?_enqueue_of_none hchannel hactive hnone
      · rw [hchannels]
        exact claimable_pendingDelivery hchannel hactive hnow

theorem notifies_iff (hI : Invariant s) (h : step s a = some s') :
    Notifies s a s' ↔ FirstOfItsKind s a := by
  cases a with
  | applyEvent receiverID event reconciled newID failing => exact notifies_applyEvent_iff hI h
  | tick | createChannel | setChannelActive | acknowledge | resolve | claim | finish =>
    exact Iff.rfl

/-! ## Along a run -/

/-- **Incidents notify.**  For every order of webhook events, reconciliations, requests,
channel changes and dispatches: each start and each end of an incident leaves a
new delivery for every active channel exactly when every event is the first of
its kind. -/
theorem notifies_along_iff (now : Time) (as : List Action) :
    Along step Notifies (initial now) as ↔
      Along step (fun s a _ => FirstOfItsKind s a) (initial now) as :=
  along_iff_along (fun _ _ _ hI h => invariant_step hI h) (fun _ _ _ hI h => notifies_iff hI h)
    (invariant_initial now)

def sampleEvent (state : String) : ExternalEvent where
  monitorId := "m"
  monitorName := "checkout errors"
  monitorType := "QUERY_LEVEL"
  triggerId := "t"
  triggerName := ""
  severity := "1"
  alertId := "a"
  bucketKey := ""
  state := state
  hitCount := none
  error := ""
  occurredAt := none

/-- An alert opens, is resolved and opens again: the channel that was told of the first
incident is not told of the second. -/
theorem reopened_alert_silent : ¬ ∀ now as, Along step Notifies (initial now) as := by
  intro h
  have hfirst := (along_iff_along (fun _ _ _ hI h => invariant_step hI h)
    (fun _ _ _ hI h => notifies_iff hI h) (invariant_initial 0)).mp
    (h 0 [.createChannel ⟨1, true⟩,
      .applyEvent "r" (sampleEvent "ACTIVE") false 1 none,
      .applyEvent "r" (sampleEvent "COMPLETED") false 2 none,
      .applyEvent "r" (sampleEvent "ACTIVE") false 3 none])
  revert hfirst
  decide

end Rhythm.Alerts.OpenSearch
