import Rhythm.Alerts.Payload
import Rhythm.Alerts.Repair

/-!
# Rhythm.Alerts.Repeated

What a reconciliation changes when nothing has changed upstream.  `Reconcile` applies what the API
reports like the events of a webhook: every write dates its row, clears its hit count and replaces
its evidence, whatever the state that is reported.

* `fields_reconcilePage` — the fields of a row are those of its last write;
* `reconcile_unchanged_iff` — a report of the states that are stored changes nothing exactly if
  every row already has the fields of its last write, and running it twice is running it once
  exactly if both runs read the same clock.
-/

namespace Rhythm.Alerts.OpenSearch

open Notifications Text Unmarshal

/-! ## Evidence -/

/-- `evidence`, an object. -/
abbrev Evidence := List (String × Json)

/-- What the evidence of a reported alert takes from its library. -/
structure EvidenceLibrary extends ReconcileLibrary where
  /-- The length of what `json.Marshal` makes of an object. -/
  encodedLength : Evidence → Nat

/-- `item[key].(string)`, or else nothing. -/
def stringMember (fields : List (String × Json)) (key : String) : String :=
  match member fields key with
  | .str value => value
  | _ => ""

/-- `maskValue`, for an object without objects inside. -/
def maskFields (masks : List String) (evidence : Evidence) : Evidence :=
  evidence.map fun field =>
    if sensitiveKey field.1 || masks.any fun mask => equalFold mask field.1 then
      (field.1, .str "MASKED")
    else field

/-- The evidence of a reported alert: the API gives it a period and an error only. -/
def reportedEvidence (lib : EvidenceLibrary) (masks : List String) (item : ApiAlert)
    (event : ExternalEvent) : Evidence :=
  let fields := item.getD []
  let evidence := maskFields masks
    [("periodStart", .str (stringMember fields "start_time")),
      ("periodEnd", .str (stringMember fields "end_time")),
      ("findingIds", .null),
      ("documentIds", .null),
      ("samples", .arr []),
      ("resultSummary", .obj []),
      ("error", .str event.error)]
  if lib.encodedLength evidence > 256 * 1024 then
    [("captureState", .str "TRUNCATED"), ("error", .str event.error)]
  else evidence

/-! ## The loop, with the evidence -/

/-- The store, with the evidence of its alerts. -/
structure Stored where
  store : State
  evidence : AlertId → Evidence

/-- The fields of an alert that an unchanged upstream should leave alone. -/
structure AlertFields where
  state : AlertState
  lastTriggeredAt : Time
  resolvedAt : Option Time
  hitCount : Option Int
  evidence : Evidence

def Stored.fields? (s : Stored) (alertID : AlertId) : Option AlertFields :=
  (s.store.alerts.get? alertID).map fun alert =>
    { state := alert.state
      lastTriggeredAt := alert.lastTriggeredAt
      resolvedAt := alert.resolvedAt
      hitCount := alert.hitCount
      evidence := s.evidence alertID }

/-- What a reported alert is written as. -/
structure RowWrite where
  alertId : AlertId
  key : String
  state : AlertState
  time : Time
  evidence : Evidence

def RowWrite.fields (write : RowWrite) : AlertFields where
  state := write.state
  lastTriggeredAt := write.time
  resolvedAt := if write.state = .resolved then some write.time else none
  hitCount := none
  evidence := write.evidence

section Loop

variable (lib : EvidenceLibrary) (conds : ReconcileConditions) (masks : List String)
  (receiver : Receiver)

/-- The write of alert `i` of the report. -/
def writeOf (i : Nat) (item : ApiAlert) (event : ExternalEvent) (s : State) : RowWrite :=
  let target := eventTarget receiver.id event (conds.newID i s) (conds.clock i s)
  { alertId := target.alertId
    key := deduplicationKey receiver.id event
    state := target.state
    time := (conds.clock i s).now
    evidence := reportedEvidence lib masks item event }

/-- `applyEvent` for alert `i` of the report. -/
def reconcileStored (i : Nat) (item : ApiAlert) (event : ExternalEvent) (s : Stored) : Stored where
  store := (reconcileEvent conds receiver.id i event s.store).1
  evidence :=
    if (conds.failing i).any Statement.precedesWrite then s.evidence
    else
      let write := writeOf lib conds masks receiver i item event s.store
      Function.update s.evidence write.alertId write.evidence

/-- The loop of `Reconcile`, from alert `i` of the report on. -/
def reconcilePage : Nat → List ApiAlert → Stored → Stored
  | _, [], s => s
  | i, item :: items, s =>
    match acceptedEvent lib.toReconcileLibrary receiver item with
    | none => reconcilePage (i + 1) items s
    | some event =>
      reconcilePage (i + 1) items (reconcileStored lib conds masks receiver i item event s)

def writes : Nat → List ApiAlert → State → List RowWrite
  | _, [], _ => []
  | i, item :: items, s =>
    match acceptedEvent lib.toReconcileLibrary receiver item with
    | none => writes (i + 1) items s
    | some event =>
      let later := writes (i + 1) items (reconcileEvent conds receiver.id i event s).1
      if (conds.failing i).any Statement.precedesWrite then later
      else writeOf lib conds masks receiver i item event s :: later

end Loop

def lastWrite (alertID : AlertId) (writes : List RowWrite) : Option RowWrite :=
  (writes.filter fun write => write.alertId = alertID).getLast?

/-! ## The fields of a row -/

section Fields

variable {lib : EvidenceLibrary} {conds : ReconcileConditions} {masks : List String}
  {receiver : Receiver} {i : Nat} {item : ApiAlert} {event : ExternalEvent}

theorem store_reconcilePage (report : List ApiAlert) {s : Stored} :
    (reconcilePage lib conds masks receiver i report s).store =
      (reconcileAlerts lib.toReconcileLibrary conds receiver i report s.store).1 := by
  induction report generalizing i s with
  | nil => rfl
  | cons item report ih =>
    rw [reconcilePage, reconcileAlerts]
    cases acceptedEvent lib.toReconcileLibrary receiver item with
    | none | some event => exact ih

theorem acceptedEvent_columns {lib : ReconcileLibrary}
    (h : acceptedEvent lib receiver item = some event) :
    event.occurredAt = none ∧ event.hitCount = none := by
  unfold acceptedEvent at h
  split at h
  · contradiction
  · split at h
    · cases h
      exact ⟨rfl, rfl⟩
    · contradiction

theorem fields_writtenAlert {newID : AlertId} {s : State}
    (hreport : event.occurredAt = none ∧ event.hitCount = none) :
    let alert := writtenAlert receiver.id event true newID s
    let state := (eventTarget receiver.id event newID s).state
    alert.state = state ∧ alert.lastTriggeredAt = s.now ∧
      alert.resolvedAt = (if state = .resolved then some s.now else none) ∧
      alert.hitCount = none := by
  obtain ⟨htime, hhits⟩ := hreport
  cases hlatest : latestAlert? (deduplicationKey receiver.id event) s.alerts with
  | none => simp [writtenAlert, eventTarget, hlatest, htime, hhits, insertedAlert]
  | some existing => simp [writtenAlert, eventTarget, hlatest, htime, hhits, updatedAlert]

/-- **A write, row by row.** -/
theorem fields_reconcileStored {s : Stored}
    (haccepted : acceptedEvent lib.toReconcileLibrary receiver item = some event)
    (hwrites : (conds.failing i).any Statement.precedesWrite = false) (k : AlertId) :
    (reconcileStored lib conds masks receiver i item event s).fields? k =
      if k = (writeOf lib conds masks receiver i item event s.store).alertId then
        some (writeOf lib conds masks receiver i item event s.store).fields
      else s.fields? k := by
  have hwritten := @writeAlert_reconcileEvent receiver.id event s.store conds i hwrites
  have hget := get?_writeAlert hwritten k
  have hcolumns := @fields_writtenAlert receiver event (conds.newID i s.store)
    (conds.clock i s.store) (acceptedEvent_columns haccepted)
  obtain ⟨hstate, htriggered, hresolved, hhits⟩ := hcolumns
  simp only [Stored.fields?, reconcileStored, hget, hwrites, Bool.false_eq_true, if_false]
  by_cases hk : k = (writeOf lib conds masks receiver i item event s.store).alertId
  · have hid : k = (eventTarget receiver.id event (conds.newID i s.store)
      (conds.clock i s.store)).alertId := hk
    rw [if_pos hid, if_pos hk, Option.map_some, hstate, htriggered, hresolved, hhits, hk,
      Function.update_self]
    rfl
  · have hid : k ≠ (eventTarget receiver.id event (conds.newID i s.store)
      (conds.clock i s.store)).alertId := hk
    rw [if_neg hid, if_neg hk, Function.update_of_ne hk]
    rfl

theorem lastWrite_cons (k : AlertId) (write : RowWrite) (later : List RowWrite) :
    lastWrite k (write :: later) =
      if write.alertId = k then some ((lastWrite k later).getD write) else lastWrite k later := by
  unfold lastWrite
  by_cases hk : write.alertId = k
  · simp [hk, List.getLast?_cons]
  · simp [hk]

/-- **The fields of a row are those of its last write**, if it is written at all. -/
theorem fields_reconcilePage (k : AlertId) (report : List ApiAlert) {s : Stored} :
    (reconcilePage lib conds masks receiver i report s).fields? k =
      ((lastWrite k (writes lib conds masks receiver i report s.store)).map RowWrite.fields).or
        (s.fields? k) := by
  induction report generalizing i s with
  | nil => rfl
  | cons item report ih =>
    rw [reconcilePage, writes]
    cases haccepted : acceptedEvent lib.toReconcileLibrary receiver item with
    | none => exact ih
    | some event =>
      cases hwrites : (conds.failing i).any Statement.precedesWrite with
      | true =>
        have halerts := @alerts_reconcileEvent receiver.id event s.store conds i hwrites
        have hsame : (reconcileStored lib conds masks receiver i item event s).fields? k =
            s.fields? k := by
          simp [Stored.fields?, reconcileStored, hwrites, halerts]
        simp only [if_true]
        rw [ih, hsame]
        rfl
      | false =>
        simp only [Bool.false_eq_true, if_false]
        rw [ih, fields_reconcileStored haccepted hwrites, lastWrite_cons]
        have hstore : (reconcileStored lib conds masks receiver i item event s).store =
            (reconcileEvent conds receiver.id i event s.store).1 := rfl
        rw [hstore]
        by_cases hk : k = (writeOf lib conds masks receiver i item event s.store).alertId
        · rw [if_pos hk, if_pos hk.symm]
          cases lastWrite k (writes lib conds masks receiver (i + 1) report
            (reconcileEvent conds receiver.id i event s.store).1) <;> rfl
        · rw [if_neg hk, if_neg (Ne.symm hk)]

end Fields

/-! ## Reports of the stored states -/

/-- The alert of the event is stored, in a state that the event leaves. -/
def EventStored (receiver : Receiver) (event : ExternalEvent) (s : State) : Prop :=
  ∃ state, upstreamState? (deduplicationKey receiver.id event) s.alerts = some state ∧
    nextState state (mapState event.state) = state

/-- The report has for each alert on it the state that is stored. -/
def ReportsStored (lib : ReconcileLibrary) (receiver : Receiver) (report : List ApiAlert)
    (s : State) : Prop :=
  ∀ item ∈ report, ∀ event, acceptedEvent lib receiver item = some event →
    EventStored receiver event s

section Unchanged

variable {lib : EvidenceLibrary} {conds : ReconcileConditions} {masks : List String}
  {receiver : Receiver} {i : Nat} {item : ApiAlert} {event : ExternalEvent} {s : State}

theorem upstreamState?_reconcileEvent
    (hwrites : (conds.failing i).any Statement.precedesWrite = false) (key : String) :
    upstreamState? key (reconcileEvent conds receiver.id i event s).1.alerts =
      if key = deduplicationKey receiver.id event then
        some (afterEvent (upstreamState? key s.alerts) event)
      else upstreamState? key s.alerts := by
  have hwritten := @writeAlert_reconcileEvent receiver.id event s conds i hwrites
  have hread := congrArg (Option.map Prod.snd) (latestAlert?_writeAlert key hwritten)
  rw [Option.map_map] at hread
  have hstate : upstreamState? key (reconcileEvent conds receiver.id i event s).1.alerts = _ :=
    hread
  rw [hstate]
  by_cases hkey : key = deduplicationKey receiver.id event
  · rw [if_pos hkey, if_pos hkey, Option.map_some, state_eventTarget_eq, hkey]
    rfl
  · rw [if_neg hkey, if_neg hkey, Option.map_map]
    rfl

theorem afterEvent_stored (hstored : EventStored receiver event s) :
    some (afterEvent (upstreamState? (deduplicationKey receiver.id event) s.alerts) event) =
      upstreamState? (deduplicationKey receiver.id event) s.alerts := by
  obtain ⟨state, hstate, hnext⟩ := hstored
  rw [hstate, afterEvent, Option.elim_some, hnext]

theorem upstreamState?_stored (hstored : EventStored receiver event s) (key : String) :
    upstreamState? key (reconcileEvent conds receiver.id i event s).1.alerts =
      upstreamState? key s.alerts := by
  cases hwrites : (conds.failing i).any Statement.precedesWrite with
  | true => rw [alerts_reconcileEvent hwrites]
  | false =>
    rw [upstreamState?_reconcileEvent hwrites]
    split
    · next hkey => rw [hkey, afterEvent_stored hstored]
    · rfl

theorem eventTarget_stored {newID : AlertId} (hstored : EventStored receiver event s) :
    (eventTarget receiver.id event newID s).previous =
      some (eventTarget receiver.id event newID s).state := by
  rw [previous_eventTarget_eq, state_eventTarget_eq, afterEvent_stored hstored]

theorem notification_self (state : AlertState) : notification (some state) state = none := by
  simp [notification]

/-- **An event that is stored already** leaves the states of all alerts, and notifies nobody. -/
theorem reconcileEvent_stored (hstored : EventStored receiver event s) :
    (∀ k, (reconcileEvent conds receiver.id i event s).1.alertState? k = s.alertState? k) ∧
      (reconcileEvent conds receiver.id i event s).1.deliveries = s.deliveries := by
  have happlied := @applyEvent_reconcileEvent receiver.id event s conds i
  cases hwrites : (conds.failing i).any Statement.precedesWrite with
  | true =>
    rw [applyEvent, if_pos hwrites, Option.some.injEq] at happlied
    rw [← happlied]
    exact ⟨fun _ => rfl, rfl⟩
  | false =>
    have hclock : EventStored receiver event (conds.clock i s) := hstored
    have hprevious := @eventTarget_stored receiver event (conds.clock i s) (conds.newID i s) hclock
    obtain ⟨hbefore, hstates, -, hdeliveries⟩ := applyEvent_ok hwrites happlied
    constructor
    · intro k
      rw [hstates]
      split
      · next hk => rw [← hprevious, hbefore, hk]; rfl
      · rfl
    · rw [hdeliveries]
      split
      · rw [enqueueOpenSearchNotifications, hprevious, notification_self]
        rfl
      · rfl

/-- **A report of the stored states** notifies nobody, and writes the state that each row has. -/
theorem reconcilePage_stored {report : List ApiAlert} {s : Stored}
    (hstored : ReportsStored lib.toReconcileLibrary receiver report s.store) :
    (reconcilePage lib conds masks receiver i report s).store.deliveries = s.store.deliveries ∧
      ∀ write ∈ writes lib conds masks receiver i report s.store,
        s.store.alertState? write.alertId = some write.state := by
  induction report generalizing i s with
  | nil => exact ⟨rfl, fun write hwrite => absurd hwrite List.not_mem_nil⟩
  | cons item report ih =>
    have hrest := fun item hitem => hstored item (List.mem_cons_of_mem _ hitem)
    rw [reconcilePage, writes]
    cases haccepted : acceptedEvent lib.toReconcileLibrary receiver item with
    | none => exact ih hrest
    | some event =>
      have hevent := hstored item List.mem_cons_self event haccepted
      obtain ⟨hstates, hdeliveries⟩ := @reconcileEvent_stored conds receiver i event _ hevent
      have hnext : ReportsStored lib.toReconcileLibrary receiver report
          (reconcileStored lib conds masks receiver i item event s).store := by
        intro item' hitem' event' haccepted'
        obtain ⟨state, hstate, hkept⟩ := hrest item' hitem' event' haccepted'
        exact ⟨state, (upstreamState?_stored hevent _).trans hstate, hkept⟩
      obtain ⟨hlater, hwrites⟩ := @ih (i + 1) _ hnext
      refine ⟨hlater.trans hdeliveries, ?_⟩
      have hwrites' : ∀ write ∈ writes lib conds masks receiver (i + 1) report
          (reconcileEvent conds receiver.id i event s.store).1,
          s.store.alertState? write.alertId = some write.state :=
        fun write hwrite => (hstates _).symm.trans (hwrites write hwrite)
      simp only
      split
      · exact hwrites'
      · next hfailing =>
        intro write hwrite
        rcases List.mem_cons.mp hwrite with rfl | hwrite
        · have hwritten := @writeAlert_reconcileEvent receiver.id event s.store conds i
            (Bool.not_eq_true _ ▸ hfailing)
          exact (previous_eventTarget hwritten).symm.trans (eventTarget_stored hevent)
        · exact hwrites' write hwrite

end Unchanged

/-! ## The report once more -/

section Twice

variable {events : List ExternalEvent}

theorem stateAfter_again (hevents : events ≠ []) (before : AlertState) :
    ∃ after, stateAfter events (some before) = some after ∧
      stateAfter events (some after) = some after := by
  obtain ⟨last, hlast⟩ := Option.ne_none_iff_exists'.mp (List.getLast?_eq_none_iff.not.mpr hevents)
  by_cases hstays : StaysAcknowledged before events
  · have hagain : StaysAcknowledged .acknowledged events := hstays.imp id fun h => ⟨rfl, h.2⟩
    exact ⟨.acknowledged, by simp [stateAfter_some, hlast, hstays],
      by simp [stateAfter_some, hlast, hagain]⟩
  · have hne := mapState_ne_acknowledged hlast hstays
    have hagain : ¬StaysAcknowledged (mapState last.state) events :=
      fun h => h.elim (fun h => hstays (.inl h)) fun h => hne h.1
    exact ⟨mapState last.state, by simp [stateAfter_some, hlast, hstays],
      by simp [stateAfter_some, hlast, hagain]⟩

theorem stateAfter_none_eq (hevents : events ≠ []) :
    stateAfter events none = stateAfter events (some .resolved) := by
  cases events with
  | nil => contradiction
  | cons event events => simp [stateAfter, afterEvent, nextState]

/-- **The events of an alert once more** change its state no more. -/
theorem stateAfter_stateAfter (hevents : events ≠ []) (before : Option AlertState) :
    stateAfter events (stateAfter events before) = stateAfter events before := by
  cases before with
  | none =>
    rw [stateAfter_none_eq hevents]
    obtain ⟨after, hafter, hagain⟩ := stateAfter_again hevents .resolved
    rw [hafter, hagain]
  | some before =>
    obtain ⟨after, hafter, hagain⟩ := stateAfter_again hevents before
    rw [hafter, hagain]

variable {lib : EvidenceLibrary} {conds conds' : ReconcileConditions} {masks : List String}
  {receiver : Receiver} {i : Nat} {alerts : AlertTable} {key key' : String} {k : AlertId}

/-- The state under a key after a report: the events that are stored under it, one after the
other. -/
theorem upstreamState?_reconcilePage (key : String) (report : List ApiAlert) {s : Stored} :
    upstreamState? key (reconcilePage lib conds masks receiver i report s).store.alerts =
      stateAfter ((storedEvents lib.toReconcileLibrary conds receiver i report).filter fun event =>
        deduplicationKey receiver.id event = key) (upstreamState? key s.store.alerts) := by
  induction report generalizing i s with
  | nil => rfl
  | cons item report ih =>
    rw [reconcilePage, storedEvents]
    cases haccepted : acceptedEvent lib.toReconcileLibrary receiver item with
    | none => exact ih
    | some event =>
      have hstore : (reconcileStored lib conds masks receiver i item event s).store =
          (reconcileEvent conds receiver.id i event s.store).1 := rfl
      simp only [ih, hstore]
      cases hwrites : (conds.failing i).any Statement.precedesWrite with
      | true => simp [alerts_reconcileEvent hwrites]
      | false =>
        simp only [upstreamState?_reconcileEvent hwrites, Option.filter_some, Bool.not_false,
          if_true, Option.toList_some, List.singleton_append, List.filter_cons]
        by_cases hkey : deduplicationKey receiver.id event = key
        · simp [hkey, stateAfter]
        · simp [hkey, Ne.symm hkey]

theorem key_eq_of_latest (h : (latestAlert? key alerts).map Alert.id = some k)
    (h' : (latestAlert? key' alerts).map Alert.id = some k) : key = key' := by
  obtain ⟨row, hrow, hid⟩ := Option.map_eq_some_iff.mp h
  obtain ⟨row', hrow', hid'⟩ := Option.map_eq_some_iff.mp h'
  have hsame : row = row' := Option.some.inj ((get?_of_latestAlert? hrow).symm.trans
    ((hid.trans hid'.symm) ▸ get?_of_latestAlert? hrow'))
  rw [← key_of_latestAlert? hrow, hsame, key_of_latestAlert? hrow']

theorem latest_reconcilePage (report : List ApiAlert) {s : Stored}
    (h : (latestAlert? key s.store.alerts).map Alert.id = some k) :
    (latestAlert? key (reconcilePage lib conds masks receiver i report s).store.alerts).map
      Alert.id = some k := by
  obtain ⟨row, hrow, rfl⟩ := Option.map_eq_some_iff.mp h
  have hpair := congrArg (Option.map fun alert => (alert.id, alert.state)) hrow
  have hloop : (latestAlert? key (reconcileAlerts lib.toReconcileLibrary conds receiver i report
      s.store).1.alerts).map (fun alert => (alert.id, alert.state)) = _ :=
    latestAlert?_reconcileAlerts key report hpair
  rw [stateAfter_some, Option.map_some] at hloop
  obtain ⟨after, hafter, hids⟩ := Option.map_eq_some_iff.mp hloop
  rw [store_reconcilePage, hafter, Option.map_some, (Prod.mk.inj hids).1]

theorem latest_of_mem_writes (report : List ApiAlert) {s : Stored} {write : RowWrite}
    (hwrite : write ∈ writes lib conds masks receiver i report s.store) :
    (latestAlert? write.key (reconcilePage lib conds masks receiver i report
      s).store.alerts).map Alert.id = some write.alertId := by
  induction report generalizing i s with
  | nil => exact absurd hwrite List.not_mem_nil
  | cons item report ih =>
    rw [writes] at hwrite
    rw [reconcilePage]
    cases haccepted : acceptedEvent lib.toReconcileLibrary receiver item with
    | none =>
      rw [haccepted] at hwrite
      exact ih hwrite
    | some event =>
      simp only [haccepted] at hwrite
      cases hwrites : (conds.failing i).any Statement.precedesWrite with
      | true =>
        rw [hwrites, if_pos rfl] at hwrite
        exact ih hwrite
      | false =>
        rw [hwrites, if_neg Bool.false_ne_true] at hwrite
        rcases List.mem_cons.mp hwrite with rfl | hwrite
        · refine latest_reconcilePage report ?_
          have hwritten := @writeAlert_reconcileEvent receiver.id event s.store conds i hwrites
          have hread := congrArg (Option.map Prod.fst)
            (latestAlert?_writeAlert (deduplicationKey receiver.id event) hwritten)
          rw [if_pos rfl, Option.map_map] at hread
          exact hread
        · exact ih hwrite

theorem map_writes (hsame : ∀ j, (conds'.failing j).any Statement.precedesWrite =
      (conds.failing j).any Statement.precedesWrite) (report : List ApiAlert) (s s' : State) :
    (writes lib conds' masks receiver i report s').map (fun write => (write.key, write.evidence)) =
      (writes lib conds masks receiver i report s).map
        fun write => (write.key, write.evidence) := by
  induction report generalizing i s s' with
  | nil => rfl
  | cons item report ih =>
    rw [writes, writes]
    cases acceptedEvent lib.toReconcileLibrary receiver item with
    | none => exact ih s s'
    | some event =>
      simp only [hsame]
      cases (conds.failing i).any Statement.precedesWrite with
      | true => exact ih _ _
      | false => exact congrArg (_ :: ·) (ih _ _)

theorem keys_writes (report : List ApiAlert) (s : State) :
    (writes lib conds masks receiver i report s).map RowWrite.key =
      (storedEvents lib.toReconcileLibrary conds receiver i report).map
        (deduplicationKey receiver.id) := by
  induction report generalizing i s with
  | nil => rfl
  | cons item report ih =>
    rw [writes, storedEvents]
    cases acceptedEvent lib.toReconcileLibrary receiver item with
    | none => exact ih s
    | some event =>
      cases hwrites : (conds.failing i).any Statement.precedesWrite with
      | true => simp [ih]
      | false => simp [ih, Option.filter_some, writeOf]

theorem storedEvents_congr {lib : ReconcileLibrary}
    (hsame : ∀ j, (conds'.failing j).any Statement.precedesWrite =
      (conds.failing j).any Statement.precedesWrite) (report : List ApiAlert) :
    storedEvents lib conds' receiver i report = storedEvents lib conds receiver i report := by
  induction report generalizing i with
  | nil => rfl
  | cons item report ih => rw [storedEvents, storedEvents, ih, hsame]

theorem mem_of_lastWrite {written : List RowWrite} {write : RowWrite}
    (h : lastWrite k written = some write) : write ∈ written ∧ write.alertId = k := by
  simpa using List.mem_of_getLast? h

theorem lastWrite_eq_of_key {written : List RowWrite}
    (hread : ∀ write ∈ written, (latestAlert? write.key alerts).map Alert.id = some write.alertId)
    (hkey : (latestAlert? key alerts).map Alert.id = some k) :
    lastWrite k written = (written.filter fun write => write.key = key).getLast? := by
  unfold lastWrite
  congr 1
  refine List.filter_congr fun write hwrite => decide_eq_decide.mpr ⟨?_, ?_⟩
  · rintro rfl
    exact key_eq_of_latest (hread write hwrite) hkey
  · rintro rfl
    exact Option.some.inj ((hread write hwrite).symm.trans hkey)

theorem upstreamState?_lastWrite {report : List ApiAlert} {s : Stored} {write : RowWrite}
    (h : lastWrite k (writes lib conds masks receiver i report s.store) = some write) :
    upstreamState? write.key (reconcilePage lib conds masks receiver i report s).store.alerts =
      some write.state := by
  obtain ⟨hmem, rfl⟩ := mem_of_lastWrite h
  have hread := latest_of_mem_writes report hmem
  obtain ⟨row, hrow, hid⟩ := Option.map_eq_some_iff.mp hread
  have hfields := @fields_reconcilePage lib conds masks receiver i write.alertId report s
  rw [h, Stored.fields?, ← hid, get?_of_latestAlert? hrow] at hfields
  rw [upstreamState?, hrow]
  exact congrArg (Option.map AlertFields.state) hfields

theorem map_getLast?_filter {written written' : List RowWrite} (key : String)
    (hmap : written'.map (fun write => (write.key, write.evidence)) =
      written.map fun write => (write.key, write.evidence)) :
    ((written'.filter fun write => write.key = key).getLast?).map (fun write =>
        (write.key, write.evidence)) =
      ((written.filter fun write => write.key = key).getLast?).map fun write =>
        (write.key, write.evidence) := by
  have hfiltered := congrArg (List.filter fun pair => pair.1 = key) hmap
  rw [List.filter_map, List.filter_map] at hfiltered
  rw [← List.getLast?_map, ← List.getLast?_map]
  exact congrArg List.getLast? hfiltered

section Again

variable {report : List ApiAlert} {s : Stored} {write' : RowWrite}
  (hsame : ∀ j, (conds'.failing j).any Statement.precedesWrite =
    (conds.failing j).any Statement.precedesWrite)
  (hlast : lastWrite k (writes lib conds' masks receiver i report
    (reconcilePage lib conds masks receiver i report s).store) = some write')

include hsame hlast

theorem latest_twice :
    (latestAlert? write'.key (reconcilePage lib conds masks receiver i report
      s).store.alerts).map Alert.id = some k := by
  obtain ⟨hmem', hid'⟩ := mem_of_lastWrite hlast
  have hread' := latest_of_mem_writes report hmem'
  have hkeys : write'.key ∈
      (writes lib conds masks receiver i report s.store).map RowWrite.key := by
    rw [keys_writes, ← storedEvents_congr hsame, ← keys_writes]
    exact List.mem_map_of_mem hmem'
  obtain ⟨write, hmem, hkey⟩ := List.mem_map.mp hkeys
  have hread := latest_of_mem_writes report hmem
  rw [hkey] at hread
  have hafter := @latest_reconcilePage lib conds' masks receiver i _ _ report _ hread
  rw [hread', Option.some.injEq, hid'] at hafter
  rw [hread, hafter]

theorem exists_lastWrite :
    ∃ write, lastWrite k (writes lib conds masks receiver i report s.store) = some write ∧
      write.key = write'.key ∧ write.evidence = write'.evidence := by
  obtain ⟨hmem', hid'⟩ := mem_of_lastWrite hlast
  have hfirst := lastWrite_eq_of_key (fun _ => latest_of_mem_writes report)
    (latest_twice hsame hlast)
  have hsecond := lastWrite_eq_of_key (fun _ => latest_of_mem_writes report)
    (hid' ▸ latest_of_mem_writes report hmem')
  have hsameWrites := @map_writes lib conds conds' masks receiver i hsame report s.store
    (reconcilePage lib conds masks receiver i report s).store
  have hmap := map_getLast?_filter write'.key hsameWrites
  rw [← hfirst, ← hsecond, hlast, Option.map_some] at hmap
  obtain ⟨write, hwrite, hpair⟩ := Option.map_eq_some_iff.mp hmap.symm
  exact ⟨write, hwrite, (Prod.mk.inj hpair).1, (Prod.mk.inj hpair).2⟩

/-- **The last write of the second run** has the state and the evidence of that of the first. -/
theorem lastWrite_twice :
    ∃ write, lastWrite k (writes lib conds masks receiver i report s.store) = some write ∧
      write'.state = write.state ∧ write'.evidence = write.evidence := by
  obtain ⟨write, hwrite, hkey, hevidence⟩ := exists_lastWrite hsame hlast
  have hfirst := upstreamState?_lastWrite hwrite
  have hsecond := upstreamState?_lastWrite hlast
  rw [← hkey, upstreamState?_reconcilePage, storedEvents_congr hsame,
    upstreamState?_reconcilePage] at hsecond
  rw [upstreamState?_reconcilePage] at hfirst
  have hevents : (storedEvents lib.toReconcileLibrary conds receiver i report).filter (fun event =>
      deduplicationKey receiver.id event = write.key) ≠ [] := by
    have hmem : write.key ∈ (writes lib conds masks receiver i report s.store).map RowWrite.key :=
      List.mem_map_of_mem (mem_of_lastWrite hwrite).1
    rw [keys_writes] at hmem
    obtain ⟨event, hevent, heventKey⟩ := List.mem_map.mp hmem
    exact List.ne_nil_of_mem (List.mem_filter.mpr ⟨hevent, by simpa using heventKey⟩)
  rw [stateAfter_stateAfter hevents, hfirst, Option.some.injEq] at hsecond
  exact ⟨write, hwrite, hsecond.symm, hevidence.symm⟩

end Again

end Twice

def SameFields (s s' : Stored) : Prop := ∀ k, s'.fields? k = s.fields? k

/-- The row of a write has the fields that the write gives it, whatever its state. -/
def UpToDate (s : Stored) (write : RowWrite) : Prop :=
  ∀ fields, s.fields? write.alertId = some fields →
    fields.lastTriggeredAt = write.time ∧
      fields.resolvedAt = (if fields.state = .resolved then some write.time else none) ∧
      fields.hitCount = none ∧ fields.evidence = write.evidence

section Theorem

variable {lib : EvidenceLibrary} {conds conds' : ReconcileConditions} {masks : List String}
  {receiver : Receiver} {report : List ApiAlert} {s : Stored}

theorem store_reconcile {response : Option (Option ByteArray)} {receiverID : String}
    {receivers : ReceiverTable} (hfetch : fetchReport lib.toReconcileLibrary conds response
      receiverID receivers = .ok (receiver, report)) :
    (reconcile lib.toReconcileLibrary conds response receiverID receivers s.store).1 =
      (reconcilePage lib conds masks receiver 0 report s).store := by
  rw [reconcile, hfetch, store_reconcilePage]

theorem sameFields_iff :
    SameFields s (reconcilePage lib conds masks receiver 0 report s) ↔
      ∀ k write, lastWrite k (writes lib conds masks receiver 0 report s.store) = some write →
        s.fields? k = some write.fields := by
  unfold SameFields
  refine forall_congr' fun k => ?_
  rw [fields_reconcilePage]
  cases lastWrite k (writes lib conds masks receiver 0 report s.store) with
  | none => simp
  | some write => simp [eq_comm]

theorem sameFields_stored_iff
    (hstored : ReportsStored lib.toReconcileLibrary receiver report s.store) :
    SameFields s (reconcilePage lib conds masks receiver 0 report s) ↔
      ∀ k write, lastWrite k (writes lib conds masks receiver 0 report s.store) = some write →
        UpToDate s write := by
  rw [sameFields_iff]
  refine forall₂_congr fun k write => forall_congr' fun hlast => ?_
  obtain ⟨hmem, rfl⟩ := mem_of_lastWrite hlast
  have hstate := (reconcilePage_stored hstored).2 write hmem
  obtain ⟨alert, halert, hstate⟩ := Option.map_eq_some_iff.mp hstate
  simp only [UpToDate, Stored.fields?, halert, Option.map_some, Option.some.injEq, forall_eq',
    RowWrite.fields, AlertFields.mk.injEq, hstate, true_and]

/-- The second of two runs that write the same leaves all fields exactly if the last writes of each
row are dated alike. -/
theorem sameFields_twice_iff (hsame : ∀ j, (conds'.failing j).any Statement.precedesWrite =
      (conds.failing j).any Statement.precedesWrite) :
    SameFields (reconcilePage lib conds masks receiver 0 report s)
        (reconcilePage lib conds' masks receiver 0 report
          (reconcilePage lib conds masks receiver 0 report s)) ↔
      ∀ k write write',
        lastWrite k (writes lib conds masks receiver 0 report s.store) = some write →
        lastWrite k (writes lib conds' masks receiver 0 report
          (reconcilePage lib conds masks receiver 0 report s).store) = some write' →
        write'.time = write.time := by
  rw [sameFields_iff]
  constructor
  · intro h k write write' hlast hlast'
    have hfields := h k write' hlast'
    rw [fields_reconcilePage, hlast] at hfields
    exact (congrArg AlertFields.lastTriggeredAt (Option.some.inj hfields)).symm
  · intro h k write' hlast'
    obtain ⟨write, hlast, hstate, hevidence⟩ := lastWrite_twice hsame hlast'
    have htime := h k write write' hlast hlast'
    rw [fields_reconcilePage, hlast]
    simp [RowWrite.fields, hstate, hevidence, htime]

end Theorem

/-- **What an unchanged upstream changes.**  A report of the states that are stored notifies nobody,
and leaves the fields of all alerts exactly if every row that it writes is dated by its last write,
has no hit count and has its evidence.  And running any report twice is running it once exactly if
every row that the second run writes is up to date; if both runs write the same, exactly if their
last writes of each row are dated alike. -/
theorem reconcile_unchanged_iff (lib : EvidenceLibrary) (conds conds' : ReconcileConditions)
    (masks : List String) (receiver : Receiver) (report : List ApiAlert) (s : Stored) :
    (ReportsStored lib.toReconcileLibrary receiver report s.store →
        (reconcilePage lib conds masks receiver 0 report s).store.deliveries =
            s.store.deliveries ∧
          (SameFields s (reconcilePage lib conds masks receiver 0 report s) ↔
            ∀ k write,
              lastWrite k (writes lib conds masks receiver 0 report s.store) = some write →
              UpToDate s write)) ∧
      (SameFields (reconcilePage lib conds masks receiver 0 report s)
          (reconcilePage lib conds' masks receiver 0 report
            (reconcilePage lib conds masks receiver 0 report s)) ↔
        ∀ k write',
          lastWrite k (writes lib conds' masks receiver 0 report
            (reconcilePage lib conds masks receiver 0 report s).store) = some write' →
          (reconcilePage lib conds masks receiver 0 report s).fields? k = some write'.fields) ∧
      ((∀ j, (conds'.failing j).any Statement.precedesWrite =
          (conds.failing j).any Statement.precedesWrite) →
        (SameFields (reconcilePage lib conds masks receiver 0 report s)
            (reconcilePage lib conds' masks receiver 0 report
              (reconcilePage lib conds masks receiver 0 report s)) ↔
          ∀ k write write',
            lastWrite k (writes lib conds masks receiver 0 report s.store) = some write →
            lastWrite k (writes lib conds' masks receiver 0 report
              (reconcilePage lib conds masks receiver 0 report s).store) = some write' →
            write'.time = write.time)) := by
  refine ⟨fun hstored => ?_, sameFields_iff, sameFields_twice_iff⟩
  exact ⟨(reconcilePage_stored hstored).1, sameFields_stored_iff hstored⟩

/-! ## An alert that goes on -/

def activeReport : List ApiAlert :=
  [some
    [("id", .str "a"), ("monitor_id", .str "m"), ("monitor_type", .str "query_level_monitor"),
      ("trigger_id", .str "t"), ("state", .str "ACTIVE")]]

def activeStored : Stored where
  store := { initial 0 with alerts := ⟨[{ storedAlert with hitCount := some 12 }], by decide⟩ }
  evidence _ := [("samples", .arr [.obj [("status", .num 500)]])]

def sampleEvidenceLibrary : EvidenceLibrary where
  toReconcileLibrary := reportLibrary []
  encodedLength _ := 100

def minuteConditions : ReconcileConditions :=
  { sampleReconcileConditions with elapsed := fun _ => 60 }

theorem acceptedEvent_active : ∀ item ∈ activeReport,
    acceptedEvent sampleEvidenceLibrary.toReconcileLibrary sampleReceiver item =
      some { sampleEvent "ACTIVE" with monitorName := "", severity := "" } := by
  decide +kernel

theorem reportsStored_active :
    ReportsStored sampleEvidenceLibrary.toReconcileLibrary sampleReceiver activeReport
      activeStored.store := by
  intro item hitem event haccepted
  rw [acceptedEvent_active item hitem, Option.some.injEq] at haccepted
  subst haccepted
  exact ⟨.open, by decide +kernel, by decide⟩

/-- Nobody is notified of it. -/
theorem reconcile_unchanged_iff_active :
    (reconcilePage sampleEvidenceLibrary minuteConditions [] sampleReceiver 0 activeReport
        activeStored).store.deliveries = .empty ∧
      (SameFields activeStored (reconcilePage sampleEvidenceLibrary minuteConditions []
          sampleReceiver 0 activeReport activeStored) ↔
        ∀ k write,
          lastWrite k (writes sampleEvidenceLibrary minuteConditions [] sampleReceiver 0
            activeReport activeStored.store) = some write →
          UpToDate activeStored write) :=
  (reconcile_unchanged_iff sampleEvidenceLibrary minuteConditions minuteConditions [] sampleReceiver
    activeReport activeStored).1 reportsStored_active

/-- The report dates the alert anew and drops its hit count; once more, it dates it once more. -/
theorem active_alert_redated :
    (¬∀ (lib : EvidenceLibrary) (conds : ReconcileConditions) (masks : List String)
        (receiver : Receiver) (report : List ApiAlert) (s : Stored),
        ReportsStored lib.toReconcileLibrary receiver report s.store →
        SameFields s (reconcilePage lib conds masks receiver 0 report s)) ∧
      ¬∀ (lib : EvidenceLibrary) (conds : ReconcileConditions) (masks : List String)
        (receiver : Receiver) (report : List ApiAlert) (s : Stored),
        SameFields (reconcilePage lib conds masks receiver 0 report s)
          (reconcilePage lib conds masks receiver 0 report
            (reconcilePage lib conds masks receiver 0 report s)) := by
  constructor
  · intro hclaim
    have hfields := hclaim sampleEvidenceLibrary minuteConditions [] sampleReceiver activeReport
      activeStored reportsStored_active 1
    have hhits := congrArg (Option.map AlertFields.hitCount) hfields
    revert hhits
    decide +kernel
  · intro hclaim
    have hfields := hclaim sampleEvidenceLibrary minuteConditions [] sampleReceiver activeReport
      activeStored 1
    have htimes := congrArg (Option.map AlertFields.lastTriggeredAt) hfields
    revert htimes
    decide +kernel

end Rhythm.Alerts.OpenSearch
