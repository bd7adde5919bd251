import Rhythm.Alerts.Reconcile
import Rhythm.Alerts.Reopened

/-!
# Rhythm.Alerts.Repair

What a reconciliation repairs.  After it every unresolved alert of the receiver
should have its reported state, and be resolved when it is not reported any
more.  `Reconcile` looks at what the API reports and at nothing else, and finds
a stored alert by its deduplication key, which for a bucket alert has a part
that the API does not give.

`repaired_iff` says for which alerts the report decides the state that they are
left with.
-/

namespace Rhythm.Alerts.OpenSearch

def Alert.OfReceiver (alert : Alert) (receiverID : String) : Prop :=
  ∃ x ∈ alert.external, x.receiverId = receiverID

def Reports (lib : ReconcileLibrary) (alert : Alert) (item : ApiAlert) : Prop :=
  ∃ x ∈ alert.external,
    x.monitorId = (reportedEvent lib item).monitorId ∧
      x.triggerId = (reportedEvent lib item).triggerId ∧
      x.alertId = (reportedEvent lib item).alertId

def reportedState (lib : ReconcileLibrary) (item : ApiAlert) : AlertState :=
  mapState (reportedEvent lib item).state

/-- A stored alert, before and after a report of its state: an acknowledged one may stay
acknowledged while the upstream alert goes on. -/
def Follows (before reported after : AlertState) : Prop :=
  after = reported ∨
    before = .acknowledged ∧ after = .acknowledged ∧ (reported = .open ∨ reported = .error)

/-- The unresolved alerts of the receiver have their reported state, and those that are not
reported are resolved. -/
def Repaired (lib : ReconcileLibrary) (receiver : Receiver) (report : List ApiAlert)
    (s s' : State) : Prop :=
  ∀ alert ∈ s.alerts, Alert.OfReceiver alert receiver.id → alert.state ≠ .resolved →
    ∃ after, s'.alertState? alert.id = some after ∧
      (∀ item ∈ report, Reports lib alert item →
        Follows alert.state (reportedState lib item) after) ∧
      ((∀ item ∈ report, ¬ Reports lib alert item) → after = .resolved)

/-! ## What a report says under a key -/

/-- The events of the report that reach the table, from alert `i` on. -/
def storedEvents (lib : ReconcileLibrary) (conds : ReconcileConditions) (receiver : Receiver) :
    Nat → List ApiAlert → List ExternalEvent
  | _, [] => []
  | i, item :: items =>
    ((acceptedEvent lib receiver item).filter fun _ =>
        !(conds.failing i).any Statement.precedesWrite).toList ++
      storedEvents lib conds receiver (i + 1) items

/-- The events of the report that are stored in the row of the alert: those under its key, when
the alert is the newest there. -/
def eventsOf (lib : ReconcileLibrary) (conds : ReconcileConditions) (receiver : Receiver)
    (report : List ApiAlert) (s : State) (alert : Alert) : List ExternalEvent :=
  if latestAlert? alert.deduplicationKey s.alerts = some alert then
    (storedEvents lib conds receiver 0 report).filter fun event =>
      deduplicationKey receiver.id event = alert.deduplicationKey
  else []

/-- The last event that does not go on acknowledges the alert, or it is acknowledged and all of
them go on. -/
def StaysAcknowledged (before : AlertState) (events : List ExternalEvent) : Prop :=
  Acknowledged events ∨ before = .acknowledged ∧ ∀ event ∈ events, Ongoing event

instance (before : AlertState) (events : List ExternalEvent) :
    Decidable (StaysAcknowledged before events) :=
  inferInstanceAs (Decidable (_ ∨ _))

/-- What the report stores in the alert's row is what it reports of the alert.
* Nothing is stored there: it reports the alert in the state that it has.
* The row is left acknowledged: it reports the alert acknowledged, or the alert was and goes on.
* Else the last event that is stored there has the reported state, and it ends the alert when
  the alert is not reported. -/
def Heard (lib : ReconcileLibrary) (conds : ReconcileConditions) (receiver : Receiver)
    (report : List ApiAlert) (s : State) (alert : Alert) : Prop :=
  let events := eventsOf lib conds receiver report s alert
  match events.getLast? with
  | none =>
    (∃ item ∈ report, Reports lib alert item) ∧
      ∀ item ∈ report, Reports lib alert item →
        Follows alert.state (reportedState lib item) alert.state
  | some last =>
    if StaysAcknowledged alert.state events then
      (∃ item ∈ report, Reports lib alert item) ∧
        ∀ item ∈ report, Reports lib alert item → reportedState lib item = .acknowledged ∨
          alert.state = .acknowledged ∧ Ongoing (reportedEvent lib item)
    else
      (∀ item ∈ report, Reports lib alert item → reportedState lib item = mapState last.state) ∧
        ((∀ item ∈ report, ¬ Reports lib alert item) → mapState last.state = .resolved)

/-! ## The states under a key -/

variable {before : AlertState} {events : List ExternalEvent}

theorem staysAcknowledged_concat {event : ExternalEvent} :
    StaysAcknowledged before (events ++ [event]) ↔
      if Ongoing event then StaysAcknowledged before events
      else mapState event.state = .acknowledged := by
  grind [StaysAcknowledged, acknowledged_concat, Ongoing, List.mem_singleton]

theorem stateAfter_some (before : AlertState) (events : List ExternalEvent) :
    stateAfter events (some before) =
      some (match events.getLast? with
        | none => before
        | some last =>
          if StaysAcknowledged before events then .acknowledged else mapState last.state) := by
  suffices h : ∃ after, stateAfter events (some before) = some after ∧
      (after = .acknowledged ↔ StaysAcknowledged before events) ∧
      after = match events.getLast? with
        | none => before
        | some last =>
          if StaysAcknowledged before events then .acknowledged else mapState last.state by
    obtain ⟨after, hafter, -, hstate⟩ := h
    rw [hafter, ← hstate]
  induction events using List.reverseRecOn with
  | nil => exact ⟨before, rfl, by simp [StaysAcknowledged, Acknowledged], rfl⟩
  | append_singleton events event ih =>
    obtain ⟨after, hafter, hiff, -⟩ := ih
    have hongoing : (mapState event.state = .open ∨ mapState event.state = .error) ↔
        Ongoing event := Iff.rfl
    have hnext : nextState after (mapState event.state) =
        if StaysAcknowledged before events ∧ Ongoing event then .acknowledged
        else mapState event.state := by
      simp only [nextState, hiff, hongoing]
    refine ⟨nextState after (mapState event.state), ?_, ?_, ?_⟩
    · rw [stateAfter_append, hafter]
      rfl
    · rw [hnext, staysAcknowledged_concat]
      by_cases hon : Ongoing event
      · grind
      · simp [hon]
    · rw [hnext, List.getLast?_concat]
      simp only [staysAcknowledged_concat]
      by_cases hon : Ongoing event
      · simp [hon]
      · by_cases hacknowledged : mapState event.state = .acknowledged <;>
          simp [hon, hacknowledged]

/-! ## The loop -/

section Loop

variable {lib : ReconcileLibrary} {conds : ReconcileConditions} {receiver : Receiver}

variable {s : State} {k : AlertId} {i : Nat}

/-- **An event of the report, under a key.** -/
theorem latestAlert?_reconcileEvent {event : ExternalEvent} (key : String) {before : AlertState}
    (hwrites : (conds.failing i).any Statement.precedesWrite = false)
    (h : (latestAlert? key s.alerts).map (fun alert => (alert.id, alert.state)) =
      some (k, before)) :
    (latestAlert? key (reconcileEvent conds receiver.id i event s).1.alerts).map
        (fun alert => (alert.id, alert.state)) =
      some (k, if deduplicationKey receiver.id event = key then afterEvent (some before) event
        else before) := by
  rw [latestAlert?_writeAlert key (writeAlert_reconcileEvent hwrites)]
  by_cases hkey : deduplicationKey receiver.id event = key
  · subst hkey
    obtain ⟨existing, hlatest, hpair⟩ := Option.map_eq_some_iff.mp h
    rw [Prod.mk.injEq] at hpair
    obtain ⟨rfl, rfl⟩ := hpair
    have hclock : latestAlert? (deduplicationKey receiver.id event) (conds.clock i s).alerts =
        some existing := hlatest
    simp only [if_true, eventTarget, hclock]
    rfl
  · have hne : key ≠ deduplicationKey receiver.id event := fun h => hkey h.symm
    simp only [if_neg hkey, if_neg hne]
    exact h

/-- **The loop, under a key.**  The row that the key reads moves by the events that are stored
under it. -/
theorem latestAlert?_reconcileAlerts (key : String) (report : List ApiAlert) {before : AlertState}
    (h : (latestAlert? key s.alerts).map (fun alert => (alert.id, alert.state)) =
      some (k, before)) :
    (latestAlert? key (reconcileAlerts lib conds receiver i report s).1.alerts).map
        (fun alert => (alert.id, alert.state)) =
      (stateAfter ((storedEvents lib conds receiver i report).filter fun event =>
        deduplicationKey receiver.id event = key) (some before)).map fun after => (k, after) := by
  induction report generalizing i s before with
  | nil => exact h
  | cons item report ih =>
    rw [reconcileAlerts, storedEvents]
    cases haccepted : acceptedEvent lib receiver item with
    | none => exact ih h
    | some event =>
      cases hwrites : (conds.failing i).any Statement.precedesWrite with
      | true =>
        simp only [Option.filter_some, Bool.not_true, Bool.false_eq_true, if_false,
          Option.toList_none, List.nil_append]
        refine ih ?_
        rw [alerts_reconcileEvent hwrites]
        exact h
      | false =>
        simp only [Option.filter_some, Bool.not_false, if_true, Option.toList_some,
          List.singleton_append, List.filter_cons]
        rw [ih (latestAlert?_reconcileEvent key hwrites h)]
        by_cases hkey : deduplicationKey receiver.id event = key
        · simp only [hkey, if_true, decide_true]
          rfl
        · simp only [hkey, if_false, decide_false, Bool.false_eq_true]

def Shadowed (alerts : AlertTable) (k : AlertId) (key : String) (state : AlertState) : Prop :=
  ∃ row, alerts.get? k = some row ∧ row.deduplicationKey = key ∧ row.state = state ∧
    (latestAlert? key alerts).map Alert.id ≠ some k

theorem shadowed_reconcileEvent {event : ExternalEvent} {key : String} {state : AlertState}
    (hwrites : (conds.failing i).any Statement.precedesWrite = false)
    (h : Shadowed s.alerts k key state) :
    Shadowed (reconcileEvent conds receiver.id i event s).1.alerts k key state := by
  obtain ⟨row, hget, hkey, hstate, hlatest⟩ := h
  have hwritten : writeAlert receiver.id event true (conds.newID i s) (conds.clock i s) =
      some (reconcileEvent conds receiver.id i event s).1.alerts :=
    writeAlert_reconcileEvent hwrites
  have hne : k ≠ (eventTarget receiver.id event (conds.newID i s) (conds.clock i s)).alertId := by
    rw [alertId_eventTarget]
    cases hread : latestAlert? (deduplicationKey receiver.id event) (conds.clock i s).alerts with
    | none =>
      have hfresh : s.alerts.get? (conds.newID i s) = none := (conds.newID i s).2
      intro hk
      rw [Option.map_none, Option.getD_none] at hk
      rw [← hk, hget] at hfresh
      exact absurd hfresh (Option.some_ne_none _)
    | some existing =>
      intro hk
      rw [Option.map_some, Option.getD_some] at hk
      have hsame : row = existing := Option.some.inj
        (hget.symm.trans (hk ▸ get?_of_latestAlert? hread))
      subst hsame
      have hreadKey := key_of_latestAlert? hread
      refine hlatest ?_
      rw [← hkey, hreadKey]
      exact (congrArg (Option.map Alert.id) hread).trans (congrArg some hk.symm)
  refine ⟨row, ?_, hkey, hstate, ?_⟩
  · rw [get?_writeAlert hwritten, if_neg hne]
    exact hget
  · have hread := congrArg (Option.map Prod.fst) (latestAlert?_writeAlert key hwritten)
    rw [Option.map_map] at hread
    have hids : (latestAlert? key (reconcileEvent conds receiver.id i event s).1.alerts).map
        Alert.id = _ := hread
    rw [hids]
    split
    · rw [Option.map_some]
      exact fun hk => hne (Option.some.inj hk).symm
    · rw [Option.map_map]
      exact hlatest

theorem shadowed_reconcileAlerts {key : String} {state : AlertState}
    (report : List ApiAlert) (h : Shadowed s.alerts k key state) :
    Shadowed (reconcileAlerts lib conds receiver i report s).1.alerts k key state := by
  induction report generalizing i s with
  | nil => exact h
  | cons item report ih =>
    rw [reconcileAlerts]
    cases acceptedEvent lib receiver item with
    | none => exact ih h
    | some event =>
      cases hwrites : (conds.failing i).any Statement.precedesWrite with
      | true =>
        refine ih ?_
        rw [alerts_reconcileEvent hwrites]
        exact h
      | false => exact ih (shadowed_reconcileEvent hwrites h)

/-- **A stored alert after the loop**: the events that are stored in its row, one after the
other. -/
theorem alertState?_reconcileAlerts {report : List ApiAlert} {alert : Alert}
    (hmem : alert ∈ s.alerts) :
    (reconcileAlerts lib conds receiver 0 report s).1.alertState? alert.id =
      stateAfter (eventsOf lib conds receiver report s alert) (some alert.state) := by
  unfold eventsOf
  split
  · next hlatest =>
    have hread := congrArg (Option.map fun alert => (alert.id, alert.state)) hlatest
    have hloop : (latestAlert? alert.deduplicationKey
        (reconcileAlerts lib conds receiver 0 report s).1.alerts).map
          (fun alert => (alert.id, alert.state)) = _ :=
      latestAlert?_reconcileAlerts alert.deduplicationKey report hread
    rw [stateAfter_some, Option.map_some] at hloop
    obtain ⟨row, hrow, hpair⟩ := Option.map_eq_some_iff.mp hloop
    rw [Prod.mk.injEq] at hpair
    rw [stateAfter_some, State.alertState?, ← hpair.1, get?_of_latestAlert? hrow, Option.map_some,
      hpair.2]
  · next hlatest =>
    have hget : s.alerts.get? alert.id = some alert := Table.get?_of_mem hmem
    have hshadowed : Shadowed s.alerts alert.id alert.deduplicationKey alert.state := by
      refine ⟨alert, hget, rfl, rfl, fun hid => ?_⟩
      obtain ⟨row, hrow, hid⟩ := Option.map_eq_some_iff.mp hid
      have hsame : row = alert := Option.some.inj
        ((get?_of_latestAlert? hrow).symm.trans (hid ▸ hget))
      exact hlatest (hsame ▸ hrow)
    obtain ⟨row, hrow, -, hstate, -⟩ : Shadowed
        (reconcileAlerts lib conds receiver 0 report s).1.alerts alert.id alert.deduplicationKey
        alert.state :=
      shadowed_reconcileAlerts report hshadowed
    rw [State.alertState?, hrow, Option.map_some, hstate]
    rfl

end Loop

theorem follows_self_iff {before reported after : AlertState} (h : after ≠ .acknowledged) :
    Follows before reported after ↔ after = reported := by
  simp [Follows, h]

theorem follows_acknowledged_iff {lib : ReconcileLibrary} {item : ApiAlert} :
    Follows before (reportedState lib item) .acknowledged ↔
      reportedState lib item = .acknowledged ∨
        before = .acknowledged ∧ Ongoing (reportedEvent lib item) := by
  grind [Ongoing, reportedEvent, reportedState, Follows]

theorem mapState_ne_acknowledged {last : ExternalEvent} (hlast : events.getLast? = some last)
    (hnot : ¬ StaysAcknowledged before events) : mapState last.state ≠ .acknowledged := by
  obtain ⟨init, rfl⟩ := List.getLast?_eq_some_iff.mp hlast
  intro hacknowledged
  have hongoing : ¬ Ongoing last := by simp [Ongoing, hacknowledged]
  rw [staysAcknowledged_concat, if_neg hongoing] at hnot
  exact hnot hacknowledged

theorem heard_iff {lib : ReconcileLibrary} {conds : ReconcileConditions} {receiver : Receiver}
    {report : List ApiAlert} {s : State} {alert : Alert} (hmem : alert ∈ s.alerts)
    (hunresolved : alert.state ≠ .resolved) :
    (∃ after, (reconcileAlerts lib conds receiver 0 report s).1.alertState? alert.id = some after ∧
      (∀ item ∈ report, Reports lib alert item →
        Follows alert.state (reportedState lib item) after) ∧
      ((∀ item ∈ report, ¬ Reports lib alert item) → after = .resolved)) ↔
      Heard lib conds receiver report s alert := by
  simp only [alertState?_reconcileAlerts hmem, stateAfter_some, Option.some.injEq, exists_eq_left',
    Heard]
  have hreported : (∃ item ∈ report, Reports lib alert item) ↔
      ¬ ∀ item ∈ report, ¬ Reports lib alert item := by simp
  cases hlast : (eventsOf lib conds receiver report s alert).getLast? with
  | none =>
    simp only [hreported]
    constructor
    · rintro ⟨hfollows, hover⟩
      exact ⟨fun hnone => hunresolved (hover hnone), hfollows⟩
    · rintro ⟨hsome, hfollows⟩
      exact ⟨hfollows, fun hnone => absurd hnone hsome⟩
  | some last =>
    by_cases hstays :
        StaysAcknowledged alert.state (eventsOf lib conds receiver report s alert)
    · simp only [hstays, if_true, hreported, follows_acknowledged_iff]
      constructor
      · rintro ⟨hfollows, hover⟩
        exact ⟨fun hnone => absurd (hover hnone) (by simp), hfollows⟩
      · rintro ⟨hsome, hfollows⟩
        exact ⟨hfollows, fun hnone => absurd hnone hsome⟩
    · have hne := mapState_ne_acknowledged hlast hstays
      simp only [hstays, if_false, follows_self_iff hne, eq_comm (a := mapState last.state)]

/-- **What a reconciliation repairs.**  For every table, receiver and report: after a
reconciliation that succeeds, the unresolved alerts of the receiver have the states that the
report gives them, and are resolved when it does not, exactly when what the report stores in
each one's row is what it reports of the alert. -/
theorem repaired_iff {lib : ReconcileLibrary} {conds : ReconcileConditions}
    {response : Option (Option ByteArray)} {receiverID : String} {receivers : ReceiverTable}
    {receiver : Receiver} {report : List ApiAlert} (s : State)
    (hfetch : fetchReport lib conds response receiverID receivers = .ok (receiver, report)) :
    Repaired lib receiver report s (reconcile lib conds response receiverID receivers s).1 ↔
      ∀ alert ∈ s.alerts, Alert.OfReceiver alert receiver.id → alert.state ≠ .resolved →
        Heard lib conds receiver report s alert := by
  have hloop : (reconcile lib conds response receiverID receivers s).1 =
      (reconcileAlerts lib conds receiver 0 report s).1 := by
    rw [reconcile, hfetch]
  rw [hloop, Repaired]
  refine forall_congr' fun alert => forall_congr' fun hmem => forall_congr' fun _ =>
    forall_congr' fun hunresolved => ?_
  exact heard_iff hmem hunresolved

/-! ## An alert that completes -/

def storedAlert : Alert :=
  insertedAlert 1 "r" (sampleEvent "ACTIVE") false 0

def storedState : State := { initial 0 with alerts := ⟨[storedAlert], by decide⟩ }

def reportLibrary (alerts : List JsonText) : ReconcileLibrary where
  toLibrary := sampleLibrary (.obj [("alerts", .arr alerts)]) (.obj [("alerts", .arr alerts)])
  formatFloat _ := ""

def completedAlert : JsonText :=
  .obj
    [("id", .str "a"), ("monitor_id", .str "m"), ("monitor_type", .str "query_level_monitor"),
      ("trigger_id", .str "t"), ("state", .str "COMPLETED")]

def sampleReconcileConditions : ReconcileConditions where
  newAlertId := (sampleConditions none).newAlertId
  elapsed _ := 0
  failing _ := none
  failsReceiver := false

def completedReport : List ApiAlert :=
  [some
    [("id", .str "a"), ("monitor_id", .str "m"), ("monitor_type", .str "query_level_monitor"),
      ("trigger_id", .str "t"), ("state", .str "COMPLETED")]]

theorem repaired_completed :
    Repaired (reportLibrary [completedAlert]) sampleReceiver completedReport storedState
        (reconcile (reportLibrary [completedAlert]) sampleReconcileConditions (some (some .empty))
          "r" sampleInbox.receivers storedState).1 ↔
      ∀ alert ∈ storedState.alerts, Alert.OfReceiver alert "r" → alert.state ≠ .resolved →
        Heard (reportLibrary [completedAlert]) sampleReconcileConditions sampleReceiver
          completedReport storedState alert :=
  repaired_iff storedState (by rfl)

/-- An alert that the API no longer reports stays open. -/
theorem completed_alert_stays_open :
    ¬ ∀ (lib : ReconcileLibrary) (conds : ReconcileConditions)
        (response : Option (Option ByteArray)) (receiverID : String) (receivers : ReceiverTable)
        (receiver : Receiver) (report : List ApiAlert) (s : State),
      fetchReport lib conds response receiverID receivers = .ok (receiver, report) →
        Repaired lib receiver report s (reconcile lib conds response receiverID receivers s).1 := by
  intro h
  have hrepaired := h (reportLibrary []) sampleReconcileConditions (some (some .empty)) "r"
    sampleInbox.receivers sampleReceiver [] storedState rfl
  obtain ⟨after, hafter, -, hresolved⟩ := hrepaired storedAlert List.mem_cons_self
    ⟨_, rfl, rfl⟩ (by decide)
  rw [hresolved fun item hitem => absurd hitem List.not_mem_nil] at hafter
  revert hafter
  decide +kernel

end Rhythm.Alerts.OpenSearch
