import Rhythm.Alerts.Reconcile

/-!
# Rhythm.Alerts.OneRow

The row of an upstream alert.  Webhooks of an alert go to one receiver, and
`Reconcile` reports it to whichever receiver asks; both should end in one row,
that of the receiver.  The key of the row is made of the receiver and of fields
that the two sources do not both fill: the API gives no bucket key, and a
webhook without an alert identifier gets one that the API does not know.

The system is event by event: a delivery and a reconciliation are runs of
theirs (`runs_ingestEvents`, `runs_reconcileAlerts`), and so is any interleaving
of deliveries and reconciliations.
-/

namespace Rhythm.Alerts.OpenSearch

open Notifications Text Unmarshal

/-! ## Upstream alerts -/

/-- An alert of OpenSearch; `""` is no bucket. -/
structure UpstreamAlert where
  monitorId : String
  triggerId : String
  alertId : String
  bucketKey : String
  deriving DecidableEq

def alertOf (event : ExternalEvent) : UpstreamAlert :=
  ⟨event.monitorId, event.triggerId, event.alertId, event.bucketKey⟩

def UpstreamAlert.key (alert : UpstreamAlert) (receiverID : String) : String :=
  "opensearch:" ++ receiverID ++ ":" ++ alert.monitorId ++ ":" ++ alert.triggerId ++ ":" ++
    alert.alertId ++ ":" ++ alert.bucketKey

theorem key_alertOf (event : ExternalEvent) (receiverID : String) :
    (alertOf event).key receiverID = deduplicationKey receiverID event := rfl

/-! ## The system -/

/-- An event of an upstream alert was written in the row. -/
structure Write where
  alert : UpstreamAlert
  row : AlertId
  deriving DecidableEq

/-- The tables, and what was written so far. -/
structure Traffic where
  store : State
  writes : List Write

/-- An event of a webhook delivery that the receiver accepts. -/
def webhookEvent (lib : Library) (receiver : Receiver) (event : ExternalEvent) :
    Option ExternalEvent :=
  let event := normalizeEvent lib.unescape event
  if validateEvent event receiver.expectedMonitorTypes = none then some event else none

/-- An event of a delivery, one of a reconciliation, or another action of the store.  An event
comes with the upstream alert that it is about. -/
inductive Exchange where
  | webhook (about : UpstreamAlert) (receiver : Receiver) (event : ExternalEvent)
      (newID : AlertId) (failing : Option Statement)
  | reconcile (about : UpstreamAlert) (receiver : Receiver) (item : ApiAlert)
      (newID : AlertId) (failing : Option Statement)
  | store (action : Action)

def Action.isEvent : Action → Bool
  | .applyEvent _ _ _ _ _ => true
  | _ => false

/-- `applyEvent` for an event, and the row that it writes. -/
def receive (about : UpstreamAlert) (receiverID : String) (event : ExternalEvent)
    (reconciled : Bool) (newID : AlertId) (failing : Option Statement) (t : Traffic) :
    Option Traffic :=
  (applyEvent receiverID event reconciled newID failing t.store).map fun store =>
    { store := store
      writes :=
        if failing.any Statement.precedesWrite then t.writes
        else ⟨about, (eventTarget receiverID event newID t.store).alertId⟩ :: t.writes }

/-- **One step of the exchange with OpenSearch.** -/
def exchange (lib : ReconcileLibrary) (t : Traffic) : Exchange → Option Traffic
  | .webhook about receiver event newID failing =>
    match webhookEvent lib.toLibrary receiver event with
    | none => some t
    | some event => receive about receiver.id event false newID failing t
  | .reconcile about receiver item newID failing =>
    match acceptedEvent lib receiver item with
    | none => some t
    | some event => receive about receiver.id event true newID failing t
  | .store action =>
    if action.isEvent then none
    else (step t.store action).map fun store => { t with store := store }

def noTraffic (now : Time) : Traffic where
  store := initial now
  writes := []

/-- All the events of an upstream alert are written in one row, and it is a row of the receiver
that the alert's webhooks are sent to. -/
def OneRow (route : UpstreamAlert → String) (t : Traffic) : Prop :=
  (∀ w ∈ t.writes, ∀ w' ∈ t.writes, w.alert = w'.alert → w.row = w'.row) ∧
    ∀ w ∈ t.writes, ∀ row ∈ t.store.alerts, row.id = w.row →
      row.external.map ExternalIdentity.receiverId = some (route w.alert)

def sentAlertId (lib : Library) (event : ExternalEvent) : String :=
  lib.unescape (trimSpace event.alertId)

/-- The events are about the alerts that they come with.  A webhook is sent to the receiver of
its alert and gives the monitor, the trigger and the bucket, and the alert's identifier if it
gives one; the API gives the monitor, the trigger and the identifier.  The identifiers of
receivers are UUIDs, without a colon. -/
def Genuine (lib : ReconcileLibrary) (route : UpstreamAlert → String) : Exchange → Prop
  | .webhook about receiver event _ _ =>
    ':' ∉ receiver.id.toList ∧ receiver.id = route about ∧
      ∀ accepted ∈ webhookEvent lib.toLibrary receiver event,
        accepted.monitorId = about.monitorId ∧ accepted.triggerId = about.triggerId ∧
          accepted.bucketKey = about.bucketKey ∧
          (sentAlertId lib.toLibrary event = about.alertId ∨
            sentAlertId lib.toLibrary event = "")
  | .reconcile about receiver item _ _ =>
    ':' ∉ receiver.id.toList ∧
      ∀ accepted ∈ acceptedEvent lib receiver item,
        accepted.monitorId = about.monitorId ∧ accepted.triggerId = about.triggerId ∧
          accepted.alertId = about.alertId
  | .store _ => True

/-- Both sources make the same key:
* a webhook gives the identifier of its alert;
* an alert that a reconciliation accepts has the bucket of its event, which is none, and its
  webhooks are sent to the receiver that reconciles. -/
def SameKey (lib : ReconcileLibrary) (route : UpstreamAlert → String) : Exchange → Prop
  | .webhook _ receiver event _ _ =>
    ∀ _accepted ∈ webhookEvent lib.toLibrary receiver event, sentAlertId lib.toLibrary event ≠ ""
  | .reconcile about receiver item _ _ =>
    ∀ accepted ∈ acceptedEvent lib receiver item,
      accepted.bucketKey = about.bucketKey ∧ receiver.id = route about
  | .store _ => True

section Decidable

variable {lib : ReconcileLibrary} {route : UpstreamAlert → String}

instance (t : Traffic) : Decidable (OneRow route t) :=
  inferInstanceAs (Decidable (_ ∧ _))

instance : DecidablePred (Genuine lib route)
  | .webhook _ _ _ _ _ => inferInstanceAs (Decidable (_ ∧ _))
  | .reconcile _ _ _ _ _ => inferInstanceAs (Decidable (_ ∧ _))
  | .store _ => isTrue trivial

instance : DecidablePred (SameKey lib route)
  | .webhook _ receiver event _ _ =>
    inferInstanceAs (Decidable (∀ _accepted ∈ webhookEvent lib.toLibrary receiver event, _))
  | .reconcile _ receiver item _ _ =>
    inferInstanceAs (Decidable (∀ _accepted ∈ acceptedEvent lib receiver item, _))
  | .store _ => isTrue trivial

end Decidable

/-! ## The key -/

variable {receiver : Receiver} {event accepted : ExternalEvent}

theorem sentAlertId_of_ne {lib : Library}
    (h : webhookEvent lib receiver event = some accepted) (hsent : sentAlertId lib event ≠ "") :
    accepted.alertId = sentAlertId lib event := by
  simp only [webhookEvent, guarded_eq_some_iff] at h
  obtain ⟨-, rfl⟩ := h
  exact if_neg hsent

/-- An event with its alert's key goes to the receiver of its alert under that key. -/
structure Filed (route : UpstreamAlert → String) (about : UpstreamAlert) (receiverID : String)
    (event : ExternalEvent) : Prop where
  plain : ':' ∉ receiverID.toList
  receiver : receiverID = route about
  alert : alertOf event = about

variable {route : UpstreamAlert → String} {failing : Option Statement} {lib : ReconcileLibrary}
  {about : UpstreamAlert} {newID : AlertId}

theorem filed_webhook (haccepted : webhookEvent lib.toLibrary receiver event = some accepted)
    (hgenuine : Genuine lib route (.webhook about receiver event newID failing))
    (hsame : SameKey lib route (.webhook about receiver event newID failing)) :
    Filed route about receiver.id accepted := by
  obtain ⟨hplain, hroute, hnames⟩ := hgenuine
  obtain ⟨hmonitor, htrigger, hbucket, hid⟩ := hnames accepted haccepted
  have hsent : sentAlertId lib.toLibrary event ≠ "" := hsame accepted haccepted
  have halert : accepted.alertId = about.alertId :=
    (sentAlertId_of_ne haccepted hsent).trans (hid.resolve_right hsent)
  refine ⟨hplain, hroute, ?_⟩
  rw [alertOf, hmonitor, htrigger, hbucket, halert]

theorem filed_reconcile {item : ApiAlert} {accepted : ExternalEvent}
    (haccepted : acceptedEvent lib receiver item = some accepted)
    (hgenuine : Genuine lib route (.reconcile about receiver item newID failing))
    (hsame : SameKey lib route (.reconcile about receiver item newID failing)) :
    Filed route about receiver.id accepted := by
  obtain ⟨hplain, hnames⟩ := hgenuine
  obtain ⟨hmonitor, htrigger, halert⟩ := hnames accepted haccepted
  obtain ⟨hbucket, hroute⟩ := hsame accepted haccepted
  refine ⟨hplain, hroute, ?_⟩
  rw [alertOf, hmonitor, htrigger, hbucket, halert]

theorem key_eq (alert : UpstreamAlert) (receiverID : String) :
    alert.key receiverID = "opensearch:" ++ receiverID ++ ":" ++
      (alert.monitorId ++ ":" ++ alert.triggerId ++ ":" ++ alert.alertId ++ ":" ++
        alert.bucketKey) := by
  have hcut : ∀ first colon a b c d e : String,
      first ++ a ++ colon ++ b ++ colon ++ c ++ colon ++ d ++ colon ++ e =
        first ++ a ++ colon ++ (b ++ colon ++ c ++ colon ++ d ++ colon ++ e) := by
    intro first colon a b c d e
    simp only [String.append_assoc]
  exact hcut _ _ _ _ _ _ _

theorem receiver_of_key {receiver receiver' : String} {rest rest' : String}
    (hplain : ':' ∉ receiver.toList) (hplain' : ':' ∉ receiver'.toList)
    (h : "opensearch:" ++ receiver ++ ":" ++ rest = "opensearch:" ++ receiver' ++ ":" ++ rest') :
    receiver = receiver' := by
  have htext := congrArg String.toList h
  simp only [String.toList_append, List.append_assoc, List.append_cancel_left_eq] at htext
  have hcut := congrArg (List.takeWhile (· ≠ ':')) htext
  have hpart : ∀ (name text : String), ':' ∉ name.toList →
      (name.toList ++ (":".toList ++ text.toList)).takeWhile (· ≠ ':') = name.toList := by
    intro name text hname
    have hcolon : ":".toList ++ text.toList = ':' :: text.toList := rfl
    have hnone : ∀ c ∈ name.toList, decide (c ≠ ':') = true := by
      intro c hc
      have hne : c ≠ ':' := fun heq => hname (heq ▸ hc)
      simp [hne]
    rw [hcolon, List.takeWhile_append_of_pos hnone]
    simp
  rw [hpart receiver rest hplain, hpart receiver' rest' hplain'] at hcut
  exact String.toList_inj.mp hcut

/-- What holds of the rows: each has the key of its receiver, and the events of an upstream
alert were written in the row that the alert's key reads. -/
structure Shelved (route : UpstreamAlert → String) (t : Traffic) : Prop where
  keyed : ∀ k row, t.store.alerts.get? k = some row → ∃ x rest,
    row.external = some x ∧ ':' ∉ x.receiverId.toList ∧
      row.deduplicationKey = "opensearch:" ++ x.receiverId ++ ":" ++ rest
  plain : ∀ w ∈ t.writes, ':' ∉ (route w.alert).toList
  filed : ∀ w ∈ t.writes,
    (latestAlert? (w.alert.key (route w.alert)) t.store.alerts).map Alert.id = some w.row

theorem shelved_noTraffic (route : UpstreamAlert → String) (now : Time) :
    Shelved route (noTraffic now) where
  keyed k _ h := absurd ((Table.get?_empty k).symm.trans h).symm (Option.some_ne_none _)
  plain _ hw := absurd hw List.not_mem_nil
  filed _ hw := absurd hw List.not_mem_nil

theorem Shelved.oneRow {t : Traffic} (h : Shelved route t) :
    OneRow route t := by
  constructor
  · intro w hw w' hw' halert
    have hfiled := h.filed w hw
    rw [halert, h.filed w' hw', Option.some.injEq] at hfiled
    exact hfiled.symm
  · intro w hw row hrow hid
    obtain ⟨latest, hlatest, hlatestId⟩ := Option.map_eq_some_iff.mp (h.filed w hw)
    have hget := Table.get?_of_mem hrow
    have hsame : latest = row := by
      have hread := get?_of_latestAlert? hlatest
      rw [hlatestId, ← hid, hget, Option.some.injEq] at hread
      exact hread.symm
    subst hsame
    obtain ⟨x, rest, hexternal, hplain, hkey⟩ := h.keyed latest.id latest hget
    rw [key_of_latestAlert? hlatest] at hkey
    rw [key_eq] at hkey
    have hroute : route w.alert = x.receiverId := receiver_of_key (h.plain w hw) hplain hkey
    rw [hexternal, Option.map_some, hroute]

theorem shelved_updateAlerts {t : Traffic} {store : State}
    {p : Alert → Prop} [DecidablePred p] {f : Alert → Alert} (hf : Table.KeepsKey Alert.id f)
    (h : Shelved route t) (hstore : store.alerts = t.store.alerts.update p f hf)
    (hkey : ∀ alert, (f alert).deduplicationKey = alert.deduplicationKey)
    (hcreated : ∀ alert, (f alert).createdAt = alert.createdAt)
    (hexternal : ∀ alert, (f alert).external = alert.external) :
    Shelved route { t with store := store } where
  keyed k row hrow := by
    rw [hstore, Table.get?_update] at hrow
    obtain ⟨before, hbefore, rfl⟩ := Option.map_eq_some_iff.mp hrow
    obtain ⟨x, rest, hx, hplain, hrest⟩ := h.keyed k before hbefore
    refine ⟨x, rest, ?_, hplain, ?_⟩
    · split
      · rw [hexternal, hx]
      · exact hx
    · split
      · rw [hkey, hrest]
      · exact hrest
  plain := h.plain
  filed w hw := by
    rw [hstore, latestAlert?_update _ hkey hcreated, Option.map_map]
    have hid : (Alert.id ∘ fun alert => if p alert then f alert else alert) = Alert.id := by
      funext alert
      simp only [Function.comp]
      split
      · exact hf.key_eq alert
      · rfl
    rw [hid]
    exact h.filed w hw

/-- **An event of an upstream alert.** -/
theorem shelved_receive {receiverID : String} {event : ExternalEvent} {reconciled : Bool}
    {t t' : Traffic} (h : Shelved route t) (hfiled : Filed route about receiverID event)
    (hreceive : receive about receiverID event reconciled newID failing t = some t') :
    Shelved route t' := by
  simp only [receive, Option.map_eq_some_iff] at hreceive
  obtain ⟨store, hstore, rfl⟩ := hreceive
  cases hwrites : failing.any Statement.precedesWrite with
  | true =>
    rw [applyEvent, if_pos hwrites, Option.some.injEq] at hstore
    subst hstore
    exact h
  | false =>
    simp only [applyEvent, hwrites, Bool.false_eq_true, if_false, Option.map_eq_some_iff] at hstore
    obtain ⟨alerts, halerts, rfl⟩ := hstore
    have hids : ∀ key, (latestAlert? key alerts).map Alert.id =
        if key = deduplicationKey receiverID event then
          some (eventTarget receiverID event newID t.store).alertId
        else (latestAlert? key t.store.alerts).map Alert.id := by
      intro key
      have hread := congrArg (Option.map Prod.fst) (latestAlert?_writeAlert key halerts)
      rw [Option.map_map] at hread
      refine hread.trans ?_
      split
      · rfl
      · rw [Option.map_map]
        rfl
    refine ⟨fun k row hrow => ?_, fun w hw => ?_, fun w hw => ?_⟩
    · rw [get?_writeAlert halerts] at hrow
      split at hrow
      · rw [Option.some.injEq] at hrow
        subst hrow
        cases hlatest : latestAlert? (deduplicationKey receiverID event) t.store.alerts with
        | none =>
          simp only [writtenAlert, hlatest]
          exact ⟨_, _, rfl, hfiled.plain, key_eq (alertOf event) receiverID⟩
        | some existing =>
          simp only [writtenAlert, hlatest]
          exact h.keyed existing.id existing (get?_of_latestAlert? hlatest)
      · exact h.keyed k row hrow
    · simp only [Bool.false_eq_true, if_false, List.mem_cons] at hw
      obtain rfl | hw := hw
      · exact hfiled.receiver ▸ hfiled.plain
      · exact h.plain w hw
    · simp only [Bool.false_eq_true, if_false, List.mem_cons] at hw
      rw [hids]
      obtain rfl | hw := hw
      · have hkey : about.key (route about) = deduplicationKey receiverID event := by
          rw [← hfiled.alert, key_alertOf, hfiled.alert, ← hfiled.receiver]
        rw [if_pos hkey]
      · split
        · next hkey =>
          rw [alertId_eventTarget, ← hkey, h.filed w hw]
          rfl
        · exact h.filed w hw

theorem shelved_exchange
    {t t' : Traffic} {e : Exchange} (h : Shelved route t) (hstep : exchange lib t e = some t')
    (hgenuine : Genuine lib route e) (hsame : SameKey lib route e) : Shelved route t' := by
  cases e with
  | webhook about receiver event newID failing =>
    cases haccepted : webhookEvent lib.toLibrary receiver event with
    | none =>
      simp only [exchange, haccepted, Option.some.injEq] at hstep
      exact hstep ▸ h
    | some accepted =>
      simp only [exchange, haccepted] at hstep
      exact shelved_receive h (filed_webhook haccepted hgenuine hsame) hstep
  | reconcile about receiver item newID failing =>
    cases haccepted : acceptedEvent lib receiver item with
    | none =>
      simp only [exchange, haccepted, Option.some.injEq] at hstep
      exact hstep ▸ h
    | some accepted =>
      simp only [exchange, haccepted] at hstep
      exact shelved_receive h (filed_reconcile haccepted hgenuine hsame) hstep
  | store action =>
    simp only [exchange, Option.ite_none_left_eq_some, Option.map_eq_some_iff] at hstep
    obtain ⟨hevent, store, hstore, rfl⟩ := hstep
    cases action with
    | applyEvent receiverID event reconciled newID failing => exact absurd rfl hevent
    | acknowledge alertID | resolve alertID =>
      simp only [step, Option.some.injEq] at hstore
      subst hstore
      refine shelved_updateAlerts ?_ h rfl (fun _ => rfl) (fun _ => rfl) fun _ => rfl
      exact ⟨fun _ => rfl⟩
    | _ =>
      have halerts : store.alerts = t.store.alerts := by
        simp only [step, Option.map_eq_some_iff, Option.some.injEq,
          Option.ite_none_right_eq_some] at hstore
        grind
      exact ⟨halerts ▸ h.keyed, h.plain, halerts ▸ h.filed⟩

/-- **One row for each upstream alert.**  Along every run of deliveries, reconciliations and
requests, for any receivers and any interleaving, in which both sources make the same key, the
events of each upstream alert are written in one row, that of its receiver. -/
theorem oneRow_along (lib : ReconcileLibrary) (route : UpstreamAlert → String) (now : Time)
    (es : List Exchange)
    (h : Along (exchange lib) (fun _ e _ => Genuine lib route e ∧ SameKey lib route e)
      (noTraffic now) es) :
    Along (exchange lib) (fun _ _ t' => OneRow route t') (noTraffic now) es := by
  refine Along.of_guard (I := Shelved route) (fun t e t' hI hstep hG => ?_)
    (shelved_noTraffic route now) h
  have hI' := shelved_exchange hI hstep hG.1 hG.2
  exact ⟨hI', hI'.oneRow⟩

/-! ## Deliveries and reconciliations are runs -/

section Runs

variable {lib : ReconcileLibrary} {receiver : Receiver}

def Exchange.OfDelivery (about : Nat → UpstreamAlert) (receiver : Receiver)
    (events : List ExternalEvent) (e : Exchange) : Prop :=
  (∃ elapsed, e = .store (.tick elapsed)) ∨
    ∃ i, ∃ event ∈ events, ∃ newID failing, e = .webhook (about i) receiver event newID failing

def Exchange.OfReport (about : Nat → UpstreamAlert) (receiver : Receiver)
    (report : List ApiAlert) (e : Exchange) : Prop :=
  (∃ elapsed, e = .store (.tick elapsed)) ∨
    ∃ i, ∃ item ∈ report, ∃ newID failing, e = .reconcile (about i) receiver item newID failing

def Runs (lib : ReconcileLibrary) (P : Exchange → Prop) (t : Traffic) (store : State) : Prop :=
  ∃ es writes, (∀ e ∈ es, P e) ∧ runActions (exchange lib) t es = some ⟨store, writes⟩

theorem runs_refl (P : Exchange → Prop) (t : Traffic) : Runs lib P t t.store :=
  ⟨[], t.writes, fun _ he => absurd he List.not_mem_nil, rfl⟩

theorem runs_cons {P : Exchange → Prop} {e : Exchange} {t t' : Traffic} {store : State}
    (hstep : exchange lib t e = some t') (he : P e) (hrest : Runs lib P t' store) :
    Runs lib P t store := by
  obtain ⟨es, writes, hes, hrun⟩ := hrest
  refine ⟨e :: es, writes, fun e' he' => ?_, ?_⟩
  · obtain rfl | he' := List.mem_cons.mp he'
    · exact he
    · exact hes e' he'
  · rw [runActions_cons, hstep, Option.bind_some, hrun]

theorem Runs.mono {P Q : Exchange → Prop} {t : Traffic} {store : State}
    (h : Runs lib P t store) (hPQ : ∀ e, P e → Q e) : Runs lib Q t store := by
  obtain ⟨es, writes, hes, hrun⟩ := h
  exact ⟨es, writes, fun e he => hPQ e (hes e he), hrun⟩

end Runs

/-! ## Two receivers -/

def otherReceiver : Receiver := { sampleReceiver with id := "q" }

def queryAlert : UpstreamAlert := ⟨"m", "t", "a", ""⟩

def queryEvent : ExternalEvent :=
  { ExternalEvent.zero with
    monitorId := "m", monitorType := "QUERY_LEVEL", triggerId := "t", alertId := "a" }

def queryItem : ApiAlert :=
  some
    [("id", .str "a"), ("monitor_id", .str "m"), ("monitor_type", .str "query_level_monitor"),
      ("trigger_id", .str "t"), ("state", .str "ACTIVE")]

def queryLibrary : ReconcileLibrary where
  toLibrary := sampleLibrary .null .null
  formatFloat _ := ""

/-- A webhook, and a reconciliation of its receiver. -/
theorem oneRow_along_query :
    Along (exchange queryLibrary) (fun _ _ t' => OneRow (fun _ => "r") t') (noTraffic 0)
      [.webhook queryAlert sampleReceiver queryEvent 1 none,
        .reconcile queryAlert sampleReceiver queryItem 2 none] :=
  oneRow_along queryLibrary (fun _ => "r") 0 _ (by decide +kernel)

/-- A reconciliation of another receiver makes a second row. -/
theorem reconciled_alert_doubled :
    ¬ ∀ (lib : ReconcileLibrary) (route : UpstreamAlert → String) (now : Time)
        (es : List Exchange),
      Along (exchange lib) (fun _ e _ => Genuine lib route e) (noTraffic now) es →
        Along (exchange lib) (fun _ _ t' => OneRow route t') (noTraffic now) es := by
  intro h
  have hrow := h queryLibrary (fun _ => "r") 0
    [.webhook queryAlert sampleReceiver queryEvent 1 none,
      .reconcile queryAlert otherReceiver queryItem 2 none] (by decide +kernel)
  revert hrow
  decide +kernel

end Rhythm.Alerts.OpenSearch
