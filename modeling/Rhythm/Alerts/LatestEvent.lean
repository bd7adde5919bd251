import Rhythm.Alerts.Ingest

/-!
# Rhythm.Alerts.LatestEvent

Which event decides the state of an alert that OpenSearch sends?  The occurrence
times only date the row: the event that arrives last decides, among the bodies that
are new to the receiver, and an acknowledged alert stays acknowledged while its
upstream alert goes on.
-/

namespace Rhythm.Alerts.OpenSearch

/-! ## Sequences of deliveries -/

/-- A delivery, and the time that passes before it. -/
structure Arrival where
  wait : Nat
  conds : Conditions
  receiverID : String
  token : String
  raw : ByteArray

def arrive (lib : Library) (arrival : Arrival) (inbox : Inbox) : Inbox :=
  (ingest lib arrival.conds arrival.receiverID arrival.token arrival.raw
    (inbox.later arrival.wait)).1

def ingestAll (lib : Library) : List Arrival → Inbox → Inbox
  | [], inbox => inbox
  | arrival :: arrivals, inbox => ingestAll lib arrivals (arrive lib arrival inbox)

/-- The events of a delivery that are valid, up to the first that is not. -/
def validEvents (lib : Library) (receiver : Receiver) (events : List ExternalEvent) :
    List ExternalEvent :=
  (events.map (normalizeEvent lib.unescape)).takeWhile fun event =>
    validateEvent event receiver.expectedMonitorTypes = none

/-- The events that a delivery has for the alert under a key. -/
def deliveredEvents (lib : Library) (key : String) (arrival : Arrival) (inbox : Inbox) :
    List ExternalEvent :=
  match authorize lib arrival.conds arrival.receiverID arrival.token inbox,
      accept lib arrival.raw with
  | some receiver, .ok (_, events) =>
    (validEvents lib receiver events).filter fun event => deduplicationKey receiver.id event = key
  | _, _ => []

/-- The events of one alert in the order in which they arrive, each with its occurrence time, or
else the time of its arrival. -/
def history (lib : Library) (key : String) : List Arrival → Inbox → List (Time × ExternalEvent)
  | [], _ => []
  | arrival :: arrivals, inbox =>
    let now := inbox.later arrival.wait
    (deliveredEvents lib key arrival now).map
        (fun event => (event.occurredAt.getD now.store.now, event)) ++
      history lib key arrivals (arrive lib arrival inbox)

/-- The state is the one that the event with the latest time implies. -/
def StateOfLatest (state : Option AlertState) (history : List (Time × ExternalEvent)) : Prop :=
  ∀ latest ∈ history, (∀ other ∈ history, other = latest ∨ other.1 < latest.1) →
    state = some (mapState latest.2.state)

instance (state : Option AlertState) (history : List (Time × ExternalEvent)) :
    Decidable (StateOfLatest state history) :=
  inferInstanceAs (Decidable (∀ latest ∈ history,
    (∀ other ∈ history, other = latest ∨ other.1 < latest.1) →
      state = some (mapState latest.2.state)))

/-! ## The last arrival -/

/-- The events of one alert in the order in which they arrive, without those of a body that the
receiver has had before. -/
def applied (lib : Library) (key : String) : List Arrival → Inbox → List ExternalEvent
  | [], _ => []
  | arrival :: arrivals, inbox =>
    let now := inbox.later arrival.wait
    (if (now.receipts.get? ⟨arrival.receiverID, lib.sha256 arrival.raw⟩).isSome = true then []
      else deliveredEvents lib key arrival now) ++
      applied lib key arrivals (arrive lib arrival inbox)

def Ongoing (event : ExternalEvent) : Prop :=
  mapState event.state = .open ∨ mapState event.state = .error

instance : DecidablePred Ongoing := fun event =>
  inferInstanceAs (Decidable (mapState event.state = .open ∨ mapState event.state = .error))

/-- The last event of another kind acknowledges the alert. -/
def Acknowledged (events : List ExternalEvent) : Prop :=
  (events.reverse.find? fun event => ¬ Ongoing event).any
    (fun event => mapState event.state = .acknowledged) = true

instance : DecidablePred Acknowledged := fun events =>
  inferInstanceAs (Decidable ((events.reverse.find? fun event => ¬ Ongoing event).any
    (fun event => mapState event.state = .acknowledged) = true))

/-- The state that the last event implies, unless the alert is acknowledged and goes on. -/
def impliedState (events : List ExternalEvent) : Option AlertState :=
  events.getLast?.map fun last =>
    if Ongoing last ∧ Acknowledged events then .acknowledged else mapState last.state

/-! ## One alert -/

def stateAfter (events : List ExternalEvent) (state : Option AlertState) : Option AlertState :=
  events.foldl (fun state event => some (afterEvent state event)) state

theorem stateAfter_append (events later : List ExternalEvent) (state : Option AlertState) :
    stateAfter (events ++ later) state = stateAfter later (stateAfter events state) :=
  List.foldl_append

variable {events : List ExternalEvent}

theorem acknowledged_concat {event : ExternalEvent} :
    Acknowledged (events ++ [event]) ↔
      if Ongoing event then Acknowledged events else mapState event.state = .acknowledged := by
  rw [Acknowledged, List.reverse_append, List.reverse_singleton, List.singleton_append,
    List.find?_cons]
  by_cases hongoing : Ongoing event
  · simp [hongoing, Acknowledged]
  · simp [hongoing]

theorem impliedState_concat (events : List ExternalEvent) (event : ExternalEvent) :
    impliedState (events ++ [event]) =
      some (if Ongoing event ∧ Acknowledged events then .acknowledged
        else mapState event.state) := by
  simp only [impliedState, List.getLast?_concat, Option.map_some, acknowledged_concat]
  by_cases hongoing : Ongoing event <;> simp [hongoing]

theorem impliedState_eq_acknowledged_iff :
    impliedState events = some .acknowledged ↔ Acknowledged events := by
  induction events using List.reverseRecOn with
  | nil => simp [impliedState, Acknowledged]
  | append_singleton events event _ =>
    rw [impliedState_concat, acknowledged_concat, Option.some.injEq]
    by_cases hongoing : Ongoing event
    · have hne : mapState event.state ≠ .acknowledged := by
        obtain h | h := hongoing <;> simp [h]
      simp [hongoing, hne]
    · simp [hongoing]

/-- **The last event decides.** -/
theorem stateAfter_none (events : List ExternalEvent) :
    stateAfter events none = impliedState events := by
  induction events using List.reverseRecOn with
  | nil => rfl
  | append_singleton events event ih =>
    rw [stateAfter_append, ih, impliedState_concat]
    simp only [stateAfter, List.foldl_cons, List.foldl_nil, Option.some.injEq]
    have hiff := @impliedState_eq_acknowledged_iff events
    cases hbefore : impliedState events with
    | none =>
      rw [hbefore] at hiff
      have hnot : ¬ Acknowledged events := fun h => by simpa using hiff.mpr h
      simp [afterEvent, hnot]
    | some before =>
      rw [hbefore, Option.some.injEq] at hiff
      have hongoing : (mapState event.state = .open ∨ mapState event.state = .error) ↔
          Ongoing event := Iff.rfl
      simp only [afterEvent, Option.elim_some, nextState, hiff, hongoing, and_comm]

/-! ## One delivery -/

variable {lib : Library} {conds : Conditions} {receiver : Receiver} {i : Nat} {inbox : Inbox}

/-- **The events of a delivery.**  Those of one alert move its state. -/
theorem upstreamState?_ingestEvents (key : String) (events : List ExternalEvent)
    (hunfailing : conds.Unfailing) :
    upstreamState? key (ingestEvents lib conds receiver i events inbox).1.store.alerts =
      stateAfter ((validEvents lib receiver events).filter fun event =>
        deduplicationKey receiver.id event = key) (upstreamState? key inbox.store.alerts) := by
  induction events generalizing i inbox with
  | nil => rfl
  | cons event events ih =>
    rw [validEvents, List.map_cons, List.takeWhile_cons]
    cases hvalid : validateEvent (normalizeEvent lib.unescape event)
        receiver.expectedMonitorTypes with
    | some message =>
      simp only [ingestEvents, hvalid]
      rfl
    | none =>
      have hnone : conds.failing i = none := hunfailing.failing_eq i
      have hwrites : (conds.failing i).any Statement.precedesWrite = false := by
        rw [hnone]
        rfl
      rw [ingestEvents_cons_ok hvalid (ok_of_failing_none hnone), ih,
        upstreamState?_ingestEvent key hwrites]
      simp only [decide_true, if_true, List.filter_cons]
      by_cases hkey : deduplicationKey receiver.id (normalizeEvent lib.unescape event) = key
      · rw [if_pos hkey.symm, if_pos (by simp [hkey])]
        rfl
      · rw [if_neg (fun h => hkey h.symm), if_neg (by simp [hkey])]
        rfl

theorem id_of_authorize {receiverID token : String}
    (h : authorize lib conds receiverID token inbox = some receiver) :
    receiver.id = receiverID := by
  unfold authorize at h
  split at h
  · contradiction
  · exact Table.key_of_get? (Option.filter_eq_some_iff.mp h).1

/-- **One delivery.**  A new body applies its events; a body that the receiver has had changes
nothing. -/
theorem upstreamState?_arrive (key : String) {arrival : Arrival}
    (hunfailing : arrival.conds.Unfailing) :
    upstreamState? key (arrive lib arrival inbox).store.alerts =
      stateAfter
        (if ((inbox.later arrival.wait).receipts.get?
            ⟨arrival.receiverID, lib.sha256 arrival.raw⟩).isSome = true then []
          else deliveredEvents lib key arrival (inbox.later arrival.wait))
        (upstreamState? key inbox.store.alerts) := by
  rw [arrive, show inbox.store.alerts = (inbox.later arrival.wait).store.alerts from rfl]
  generalize inbox.later arrival.wait = now
  cases hauthorized : authorize lib arrival.conds arrival.receiverID arrival.token now with
  | none =>
    simp only [ingest, deliveredEvents, hauthorized, ite_self]
    rfl
  | some receiver =>
    cases haccepted : accept lib arrival.raw with
    | error message =>
      simp only [ingest, deliveredEvents, hauthorized, haccepted, ite_self]
      rfl
    | ok accepted =>
      obtain ⟨schema, events⟩ := accepted
      have hid : receiver.id = arrival.receiverID := id_of_authorize hauthorized
      rw [ingest_accepted hauthorized haccepted, ← hid]
      simp only [deliveredEvents, hauthorized, haccepted]
      cases hreceipt : now.receipts.get? ⟨receiver.id, lib.sha256 arrival.raw⟩ with
      | some receipt =>
        rw [(deliver_duplicate hreceipt).1]
        rfl
      | none =>
        obtain ⟨-, heffects⟩ := @deliver_new lib arrival.conds receiver now
          (lib.sha256 arrival.raw) schema events hreceipt (hunfailing _)
        rw [hunfailing, if_neg Bool.false_ne_true] at heffects
        have halerts := congrArg Effects.alerts heffects
        simp only [Inbox.effects] at halerts
        rw [halerts]
        exact upstreamState?_ingestEvents key events hunfailing

/-! ## Whole sequences -/

theorem upstreamState?_ingestAll (key : String) (arrivals : List Arrival)
    (hunfailing : ∀ arrival ∈ arrivals, arrival.conds.Unfailing) :
    upstreamState? key (ingestAll lib arrivals inbox).store.alerts =
      stateAfter (applied lib key arrivals inbox) (upstreamState? key inbox.store.alerts) := by
  induction arrivals generalizing inbox with
  | nil => rfl
  | cons arrival arrivals ih =>
    have hfirst := hunfailing arrival List.mem_cons_self
    rw [ingestAll, ih fun a ha => hunfailing a (List.mem_cons_of_mem _ ha), applied,
      stateAfter_append, upstreamState?_arrive key hfirst]

/-- **The state of an alert.**  For every sequence of deliveries, of any alerts and with any
bodies, times and order: a new alert has the state that the last of its events to arrive
implies, among the bodies that were new, unless it is acknowledged and goes on. -/
theorem state_of_last_arrival (lib : Library) (key : String) (arrivals : List Arrival)
    (inbox : Inbox) (hnew : upstreamState? key inbox.store.alerts = none)
    (hunfailing : ∀ arrival ∈ arrivals, arrival.conds.Unfailing) :
    upstreamState? key (ingestAll lib arrivals inbox).store.alerts =
      impliedState (applied lib key arrivals inbox) := by
  rw [upstreamState?_ingestAll key arrivals hunfailing, hnew, stateAfter_none]

/-- An alert is over at ten seconds, and the news of five seconds arrives after that. -/
def lateArrivals : List Arrival :=
  [{ wait := 0, conds := sampleConditions none, receiverID := "r", token := "token",
      raw := .empty },
    { wait := 1, conds := sampleConditions none, receiverID := "r", token := "token",
      raw := ⟨#[0]⟩ }]

def lateLibrary : Library :=
  sampleLibrary (sampleBody "COMPLETED" (.str "2026-01-01T00:00:10Z"))
    (sampleBody "ACTIVE" (.str "2026-01-01T00:00:05Z"))

theorem state_of_late_arrival :
    upstreamState? "opensearch:r:m:t:a:"
        (ingestAll lateLibrary lateArrivals sampleInbox).store.alerts =
      impliedState (applied lateLibrary "opensearch:r:m:t:a:" lateArrivals sampleInbox) :=
  state_of_last_arrival lateLibrary "opensearch:r:m:t:a:" lateArrivals sampleInbox rfl
    (by simp [lateArrivals, Conditions.Unfailing, sampleConditions])

/-- The late event opens the alert again. -/
theorem late_event_reopens :
    ¬ ∀ (lib : Library) (key : String) (arrivals : List Arrival) (inbox : Inbox),
      upstreamState? key inbox.store.alerts = none →
      (∀ arrival ∈ arrivals, arrival.conds.Unfailing) →
      StateOfLatest (upstreamState? key (ingestAll lib arrivals inbox).store.alerts)
        (history lib key arrivals inbox) := by
  intro h
  have hlatest := h lateLibrary "opensearch:r:m:t:a:" lateArrivals sampleInbox rfl
    (by simp [lateArrivals, Conditions.Unfailing, sampleConditions])
  revert hlatest
  decide +kernel

end Rhythm.Alerts.OpenSearch
