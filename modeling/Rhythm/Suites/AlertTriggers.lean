import Rhythm.Alerts.Reconcile
import Rhythm.Suites.AlertGate

/-!
# Rhythm.Suites.AlertTriggers

Is an alert that the deployment check reports as triggered after the deployment
one that fired after it?  The check reads `last_triggered_at`, and `applyEvent`
writes that column for every event of the alert — for the one that completes
it too.

The events of a run are recorded beside the alert store, by the key that the
events of one upstream alert share.  `triggered_iff_completions_follow`: the
column means what the check takes it for exactly when no event completes an
alert, at or after the deployment start, that did not fire since then.
-/

namespace Rhythm.Suites

open Alerts Alerts.OpenSearch

/-! ## Recorded events -/

/-- An event of an upstream alert, as it arrived. -/
structure Occurrence where
  key : String
  occurredAt : Time
  firing : Bool
  deriving DecidableEq

def isFiringEvent (event : ExternalEvent) : Bool := mapState event.state ≠ .resolved

/-- The event as it arrives in `s`; one without an occurrence time occurs on arrival. -/
def occurrenceOf (receiverID : String) (event : ExternalEvent) (s : OpenSearch.State) :
    Occurrence where
  key := deduplicationKey receiverID event
  occurredAt := event.occurredAt.getD s.now
  firing := isFiringEvent event

/-- The record of a step: webhook events and reconciled ones, also when a statement fails. -/
def recordOccurrence (s : OpenSearch.State) (a : OpenSearch.Action) (_ : OpenSearch.State)
    (history : List Occurrence) : List Occurrence :=
  match a with
  | .applyEvent receiverID event _ _ _ => occurrenceOf receiverID event s :: history
  | _ => history

/-- The alert store with the events that arrived so far. -/
abbrev RecordedStore := OpenSearch.State × List Occurrence

/-- An event of the alert under this key fired at or after `start`. -/
def FiredSince (start : Time) (key : String) (history : List Occurrence) : Prop :=
  ∃ occurrence ∈ history,
    occurrence.key = key ∧ occurrence.firing = true ∧ start ≤ occurrence.occurredAt

instance (start : Time) (key : String) (history : List Occurrence) :
    Decidable (FiredSince start key history) :=
  inferInstanceAs (Decidable (∃ occurrence ∈ history, _))

/-- Every alert that was triggered since `start`, by its row, fired since then. -/
def TriggersFired (start : Time) (x : RecordedStore) : Prop :=
  ∀ alert ∈ x.1.alerts, start ≤ alert.lastTriggeredAt →
    FiredSince start alert.deduplicationKey x.2

/-- An event that is written and completes its alert at or after `start` completes one that fired
since then. -/
def CompletionsFollow (start : Time) (x : RecordedStore) : OpenSearch.Action → Prop
  | .applyEvent receiverID event _ _ failing =>
    failing.any Statement.precedesWrite = false → isFiringEvent event = false →
      start ≤ event.occurredAt.getD x.1.now →
        FiredSince start (deduplicationKey receiverID event) x.2
  | _ => True

instance (start : Time) (x : RecordedStore) (a : OpenSearch.Action) :
    Decidable (CompletionsFollow start x a) :=
  match a with
  | .applyEvent .. => inferInstanceAs (Decidable (_ → _ → _ → _))
  | .tick _ | .createChannel _ | .setChannelActive .. | .acknowledge _ | .resolve _ | .claim _
  | .finish .. => instDecidableTrue

variable {start : Time} {x x' : RecordedStore} {a : OpenSearch.Action}

theorem FiredSince.cons {key : String} {history : List Occurrence}
    (h : FiredSince start key history) (occurrence : Occurrence) :
    FiredSince start key (occurrence :: history) := by
  obtain ⟨old, hold, hfired⟩ := h
  exact ⟨old, List.mem_cons_of_mem _ hold, hfired⟩

theorem lastTriggeredAt_writtenAlert (receiverID : String) (event : ExternalEvent)
    (reconciled : Bool) (newID : AlertId) (s : OpenSearch.State) :
    (writtenAlert receiverID event reconciled newID s).lastTriggeredAt =
      event.occurredAt.getD s.now := by
  unfold writtenAlert
  cases latestAlert? (deduplicationKey receiverID event) s.alerts <;> rfl

theorem exists_of_mem_update {alerts : AlertTable} {p : Alert → Prop} [DecidablePred p]
    {f : Alert → Alert} {hf : Table.KeepsKey Alert.id f} {alert : Alert}
    (h : alert ∈ alerts.update p f hf)
    (hkeep : ∀ alert, (f alert).lastTriggeredAt = alert.lastTriggeredAt ∧
      (f alert).deduplicationKey = alert.deduplicationKey) :
    ∃ old ∈ alerts, old.lastTriggeredAt = alert.lastTriggeredAt ∧
      old.deduplicationKey = alert.deduplicationKey := by
  obtain ⟨old, hold, rfl⟩ := Table.mem_update.mp h
  refine ⟨old, hold, ?_⟩
  split
  · exact ⟨(hkeep old).1.symm, (hkeep old).2.symm⟩
  · exact ⟨rfl, rfl⟩

theorem triggersFired_of_exists {s' : OpenSearch.State} (h : TriggersFired start x)
    (hrows : ∀ alert ∈ s'.alerts, ∃ old ∈ x.1.alerts, old.lastTriggeredAt = alert.lastTriggeredAt ∧
      old.deduplicationKey = alert.deduplicationKey) :
    TriggersFired start (s', x.2) := by
  intro alert hmem hstart
  obtain ⟨old, hold, htime, hkey⟩ := hrows alert hmem
  rw [← htime] at hstart
  rw [← hkey]
  exact h old hold hstart

/-- **An event** keeps the triggers meaningful exactly when a completion follows a firing. -/
theorem triggersFired_applyEvent_iff {receiverID : String} {event : ExternalEvent}
    {reconciled : Bool} {newID : AlertId} {failing : Option Statement} {s s' : OpenSearch.State}
    {history : List Occurrence} (h : TriggersFired start (s, history))
    (hstep : applyEvent receiverID event reconciled newID failing s = some s') :
    TriggersFired start (s', occurrenceOf receiverID event s :: history) ↔
      CompletionsFollow start (s, history)
        (.applyEvent receiverID event reconciled newID failing) := by
  cases hwrites : failing.any Statement.precedesWrite with
  | true =>
    rw [applyEvent, if_pos hwrites, Option.some.injEq] at hstep
    subst hstep
    refine iff_of_true (fun alert hmem hstart => (h alert hmem hstart).cons _) fun hwritten => ?_
    rw [hwrites] at hwritten
    contradiction
  | false =>
    simp only [applyEvent, hwrites, Bool.false_eq_true, if_false, Option.map_eq_some_iff] at hstep
    obtain ⟨alerts, halerts, rfl⟩ := hstep
    have hrows := get?_writeAlert halerts
    have hkey : (writtenAlert receiverID event reconciled newID s).deduplicationKey =
        deduplicationKey receiverID event := deduplicationKey_writtenAlert
    have htime := lastTriggeredAt_writtenAlert receiverID event reconciled newID s
    have htarget : writtenAlert receiverID event reconciled newID s ∈ alerts := by
      have hget := hrows (eventTarget receiverID event newID s).alertId
      rw [if_pos rfl] at hget
      exact Table.mem_of_get? hget
    constructor
    · intro hfired _ hcompletes hstart
      obtain ⟨occurrence, hmem, hof, hfiring, hsince⟩ := hfired _ htarget (htime ▸ hstart)
      rcases List.mem_cons.mp hmem with rfl | hold
      · exact absurd hfiring (by simp [occurrenceOf, hcompletes])
      · exact ⟨occurrence, hold, hof.trans hkey, hfiring, hsince⟩
    · intro hfollows alert hmem hstart
      have hget := hrows alert.id
      rw [Table.get?_of_mem hmem] at hget
      by_cases hid : alert.id = (eventTarget receiverID event newID s).alertId
      · rw [if_pos hid, Option.some.injEq] at hget
        rw [hget, htime] at hstart
        rw [hget, hkey]
        cases hfiring : isFiringEvent event with
        | true => exact ⟨_, List.mem_cons_self, rfl, hfiring, hstart⟩
        | false => exact (hfollows hwrites hfiring hstart).cons _
      · rw [if_neg hid] at hget
        exact (h alert (Table.mem_of_get? hget.symm) hstart).cons _

/-- **One step** keeps the triggers meaningful exactly when a completion follows a firing. -/
theorem triggersFired_step_iff (h : TriggersFired start x)
    (hstep : recording OpenSearch.step recordOccurrence x a = some x') :
    TriggersFired start x' ↔ CompletionsFollow start x a := by
  obtain ⟨hmove, hrecord⟩ := recording_eq_some_iff.mp hstep
  obtain ⟨s, history⟩ := x
  obtain ⟨s', history'⟩ := x'
  simp only at hmove hrecord
  subst hrecord
  clear hstep
  cases a with
  | applyEvent receiverID event reconciled newID failing =>
    exact triggersFired_applyEvent_iff h hmove
  | acknowledge alertID =>
    cases hmove
    refine iff_of_true (triggersFired_of_exists h fun alert hmem => ?_) trivial
    simp only [OpenSearch.acknowledge] at hmem
    exact exists_of_mem_update hmem fun _ => ⟨rfl, rfl⟩
  | resolve alertID =>
    cases hmove
    refine iff_of_true (triggersFired_of_exists h fun alert hmem => ?_) trivial
    simp only [OpenSearch.resolve] at hmem
    exact exists_of_mem_update hmem fun _ => ⟨rfl, rfl⟩
  | tick elapsed | setChannelActive channelID active =>
    cases hmove
    exact iff_of_true h trivial
  | createChannel channel =>
    obtain ⟨channels, -, rfl⟩ := Option.map_eq_some_iff.mp hmove
    exact iff_of_true h trivial
  | claim key | finish key delivered =>
    simp only [OpenSearch.step, Option.ite_none_right_eq_some] at hmove
    obtain ⟨-, hmove⟩ := hmove
    cases hmove
    exact iff_of_true h trivial

/-! ## What the check reports -/

section Reported

variable {quote lower : String → String} {position : AlertId ↪ Nat} {services : AlertServices}
  {check : AlertCheck} {result : AlertCheckResult} {matched : List Alert} {alertID : AlertId}

theorem failureCategory_gateFiring (h : result.failureCategory ≠ "ALERT_TRIGGERED_POST_DEPLOY") :
    (gateFiring quote result matched).1.failureCategory ≠ "ALERT_TRIGGERED_POST_DEPLOY" := by
  induction matched generalizing result with
  | nil => exact h
  | cons alert rest ih =>
    have hfill : (fillFromMatch alert result).failureCategory = result.failureCategory := by
      unfold fillFromMatch
      split <;> rfl
    by_cases hfiring : isOpenSearchAlertFiring alert = true
    · simp [gateFiring, hfiring, failByAlert]
    · simp only [gateFiring, hfiring]
      exact ih (by rw [hfill]; exact h)

theorem triggered_of_gate (h : result.failureCategory ≠ "ALERT_TRIGGERED_POST_DEPLOY")
    (hreport : (applyOpenSearchAlertGate quote result matched (some start)).failureCategory =
      "ALERT_TRIGGERED_POST_DEPLOY")
    (halert : (applyOpenSearchAlertGate quote result matched (some start)).alertId =
      some alertID) :
    ∃ alert ∈ matched, alert.id = alertID ∧ start ≤ alert.lastTriggeredAt := by
  have hquiet : (gateFiring quote result matched).1.failureCategory ≠
      "ALERT_TRIGGERED_POST_DEPLOY" := failureCategory_gateFiring h
  unfold applyOpenSearchAlertGate at hreport halert
  cases hloop : gateFiring quote result matched with
  | mk result' final =>
    rw [hloop] at hreport halert hquiet
    cases final with
    | true => exact absurd hreport hquiet
    | false =>
      simp only [Option.bind_some, gateTriggered] at hreport halert
      cases hfind : matched.find? fun alert => start ≤ alert.lastTriggeredAt with
      | none =>
        rw [hfind] at hreport
        exact absurd hreport hquiet
      | some alert =>
        rw [hfind] at halert
        have hstart : start ≤ alert.lastTriggeredAt := by simpa using List.find?_some hfind
        exact ⟨alert, List.mem_of_find?_eq_some hfind, Option.some.inj halert, hstart⟩

/-- **The check** reports a trigger of a stored alert that was triggered since the start. -/
theorem triggered_of_check
    (hreport : (evaluateOpenSearchAlertCheck quote lower position services check
      (some start)).failureCategory = "ALERT_TRIGGERED_POST_DEPLOY")
    (halert : (evaluateOpenSearchAlertCheck quote lower position services check
      (some start)).alertId = some alertID) :
    ∃ alert ∈ services.alerts, alert.id = alertID ∧ start ≤ alert.lastTriggeredAt := by
  by_cases hlookup : services.CanLookUp check
  · rw [evaluate_of_canLookUp quote lower position services check start hlookup] at hreport halert
    obtain ⟨alert, hmem, hid, hstart⟩ :=
      triggered_of_gate (by simp [AlertCheck.failed]) hreport halert
    exact ⟨alert, List.mem_of_mem_filter (mem_of_mem_page hmem), hid, hstart⟩
  · obtain ⟨category, reason, hfailed⟩ :=
      evaluate_of_not_canLookUp quote lower position services check start hlookup
    rw [hfailed] at halert
    simp [AlertCheck.failed] at halert

end Reported

/-! ## Runs -/

/-- Every alert that a deployment check reports as triggered after the deployment start fired at or
after it. -/
def ReportsFired (start : Time) (x : RecordedStore) : Prop :=
  ∀ (quote lower : String → String) (position : AlertId ↪ Nat) (services : AlertServices)
    (check : AlertCheck) (alertID : AlertId), services.alerts = x.1.alerts →
    let result := evaluateOpenSearchAlertCheck quote lower position services check (some start)
    result.failureCategory = "ALERT_TRIGGERED_POST_DEPLOY" → result.alertId = some alertID →
      ∃ alert ∈ x.1.alerts, alert.id = alertID ∧ FiredSince start alert.deduplicationKey x.2

theorem reportsFired_of_triggersFired (h : TriggersFired start x) : ReportsFired start x := by
  intro quote lower position services check alertID halerts result hreport halert
  obtain ⟨alert, hmem, hid, hstart⟩ := triggered_of_check hreport halert
  rw [halerts] at hmem
  exact ⟨alert, hmem, hid, h alert hmem hstart⟩

variable (start : Time) (now : Time) (actions : List OpenSearch.Action)

/-- **What `last_triggered_at` means.**  For every history of events and requests: the alerts whose
row says that they were triggered since `start` fired since then, in every state, exactly when no
event completes an alert since `start` that did not fire since then. -/
theorem triggered_iff_completions_follow :
    Along (recording OpenSearch.step recordOccurrence) (fun _ _ x' => TriggersFired start x')
        (OpenSearch.initial now, []) actions ↔
      Along (recording OpenSearch.step recordOccurrence) (fun x a _ => CompletionsFollow start x a)
        (OpenSearch.initial now, []) actions :=
  along_state_iff_along (I := fun _ => True) (fun _ _ _ _ _ => trivial)
    (fun _ _ _ _ h hstep => triggersFired_step_iff h hstep) trivial
    fun alert hmem => absurd hmem (Table.not_mem_empty alert)

def triggerEvent (state : String) (occurredAt : Time) : ExternalEvent where
  monitorId := "monitor"
  monitorName := ""
  monitorType := "QUERY_LEVEL"
  triggerId := "trigger"
  triggerName := ""
  severity := "1"
  alertId := "alert"
  bucketKey := ""
  state := state
  hitCount := none
  error := ""
  occurredAt := some occurredAt

end Rhythm.Suites
