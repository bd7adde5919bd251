import Mathlib.Data.List.Sort
import Rhythm.Alerts.Domain
import Rhythm.Storage.RunRepository
import Rhythm.Streak

/-!
# Rhythm.Storage.AlertState

`evaluateAlertState`: what a finished run does to the alert of its monitor.
The function reads the newest rows of the monitor, whatever their status, and
counts the leading rows that are not `SUCCESS` as consecutive failures, so
executions that are still queued or running, and those that were cancelled or
skipped, stand in for failed ones.

The investigation and dispatch rows queued with a new alert are left out: no
function here reads them.
-/

namespace Rhythm.Alerts

open Runs Notifications

/-! ## Policies and histories -/

/-- A row of `monitor_alert_policies`; the cooldown is not read. -/
structure AlertPolicy where
  failureThreshold : Nat
  recoveryThreshold : Nat
  severity : Severity
  deriving DecidableEq

def defaultPolicy : AlertPolicy := ⟨3, 2, .critical⟩

/-- An answer to `SELECT status FROM monitor_runs WHERE monitor_id=$1 AND
trigger_type <> 'MANUAL_DRAFT' ORDER BY created_at DESC`, before its `LIMIT`.
Rows of one creation time may come in any order. -/
structure RunHistory (runs : RunTable) (monitorID : MonitorId) where
  rows : List MonitorRun
  perm : rows.Perm
    (runs.rows.filter fun row => row.monitorId = monitorID ∧ row.triggerType ≠ .manualDraft)
  sorted : rows.Pairwise fun newer older => older.createdAt ≤ newer.createdAt

/-- The answer that keeps rows of one creation time in table order. -/
def RunHistory.ofTable (runs : RunTable) (monitorID : MonitorId) : RunHistory runs monitorID :=
  let newerFirst := fun newer older : MonitorRun => older.createdAt ≤ newer.createdAt
  have : Std.Total newerFirst := ⟨fun a b => Nat.le_total b.createdAt a.createdAt⟩
  have : IsTrans MonitorRun newerFirst := ⟨fun _ _ _ hab hbc => Nat.le_trans hbc hab⟩
  { rows := (runs.rows.filter fun row =>
      row.monitorId = monitorID ∧ row.triggerType ≠ .manualDraft).insertionSort newerFirst
    perm := List.perm_insertionSort _ _
    sorted := List.pairwise_insertionSort _ _ }

/-! ## The alert of a monitor -/

/-- What `evaluateAlertState` did. -/
inductive AlertChange where
  | none
  | opened (alertID : AlertId)
  | refreshed (alertID : AlertId)
  | resolved (alertIDs : List AlertId)
  deriving DecidableEq

def AlertChange.raises : AlertChange → Bool
  | .opened _ | .refreshed _ => true
  | _ => false

def AlertChange.resolves : AlertChange → Bool
  | .resolved _ => true
  | _ => false

/-- The two tables it writes. -/
structure AlertStore where
  alerts : AlertTable
  deliveries : DeliveryTable

def monitorKey (monitorID : MonitorId) : String := "monitor:" ++ toString monitorID

/-- The row of `INSERT INTO alerts`. -/
def openedAlert (newID : AlertId) (policy : AlertPolicy) (monitorName : String)
    (run : MonitorRun) (consecutiveFailures : Nat) : Alert where
  id := newID
  monitorId := some run.monitorId
  deduplicationKey := monitorKey run.monitorId
  state := .open
  severity := policy.severity
  title := monitorName ++ " is failing"
  description := run.failureReason
  failureCategory := run.failureCategory
  failedStepId := run.failedStepId
  consecutiveFailures := consecutiveFailures
  firstTriggeredAt := run.createdAt
  lastTriggeredAt := run.createdAt
  resolvedAt := none
  createdAt := run.createdAt
  updatedAt := run.createdAt
  source := .rhythmMonitor
  external := none
  upstreamState := ""
  hitCount := none
  lastReceivedAt := none
  lastReconciledAt := none

/-- The columns of its `ON CONFLICT (deduplication_key) … DO UPDATE SET`. -/
def refreshedAlert (run : MonitorRun) (consecutiveFailures : Nat) (alert : Alert) : Alert :=
  { alert with
    description := run.failureReason
    failureCategory := run.failureCategory
    failedStepId := run.failedStepId
    consecutiveFailures := consecutiveFailures
    lastTriggeredAt := run.createdAt
    updatedAt := run.createdAt }

def resolvedAlert (now : Time) (alert : Alert) : Alert :=
  { alert with state := .resolved, resolvedAt := some now, updatedAt := now }

/-- The active alert of a deduplication key, which the unique index makes the only
one. -/
def activeAlert? (key : String) (alerts : AlertTable) : Option Alert :=
  alerts.rows.find? fun alert => alert.deduplicationKey = key ∧ alert.IsActive

/-- The unique index `alerts_active_dedup_idx`. -/
def OneActive (alerts : AlertTable) : Prop :=
  ∀ a ∈ alerts, ∀ b ∈ alerts, a.IsActive → b.IsActive →
    a.deduplicationKey = b.deduplicationKey → a.id = b.id

/-- Open the alert of a failing run's monitor, or refresh the active one. -/
def raiseAlert (policy : AlertPolicy) (monitorName : String) (channels : ChannelTable)
    (run : MonitorRun) (consecutiveFailures : Nat) (store : AlertStore)
    (newID : FreshAlertId store.alerts) : AlertChange × AlertStore :=
  match activeAlert? (monitorKey run.monitorId) store.alerts with
  | some active =>
    (.refreshed active.id,
      { alerts := store.alerts.update (fun alert => alert.id = active.id)
          (refreshedAlert run consecutiveFailures)
        deliveries := enqueue active.id .alertOpened run.createdAt channels store.deliveries })
  | none =>
    (.opened newID,
      { alerts := store.alerts.insertIgnore
          (openedAlert newID policy monitorName run consecutiveFailures)
        deliveries := enqueue newID .alertOpened run.createdAt channels store.deliveries })

/-- Resolve the active alerts of a recovered run's monitor. -/
def resolveAlerts (channels : ChannelTable) (run : MonitorRun) (store : AlertStore) :
    AlertChange × AlertStore :=
  let key := monitorKey run.monitorId
  let alertIDs := (store.alerts.rows.filter fun alert =>
    alert.deduplicationKey = key ∧ alert.IsActive).map Alert.id
  (.resolved alertIDs,
    { alerts := store.alerts.update
        (fun alert => alert.deduplicationKey = key ∧ alert.IsActive) (resolvedAlert run.createdAt)
      deliveries := alertIDs.foldl
        (fun deliveries alertID =>
          enqueue alertID .alertRecovered run.createdAt channels deliveries)
        store.deliveries })

/-- **`evaluateAlertState`** for the finished run `run`. -/
def evaluateAlertState (policy? : Option AlertPolicy) (monitorName : String)
    (channels : ChannelTable) {runs : RunTable} (run : MonitorRun)
    (history : RunHistory runs run.monitorId) (store : AlertStore)
    (newID : FreshAlertId store.alerts) : AlertChange × AlertStore :=
  let policy := policy?.getD defaultPolicy
  let limit := max policy.failureThreshold policy.recoveryThreshold
  let statuses := (history.rows.take limit).map MonitorRun.status
  let consecutiveFailures := streak (fun status => status ≠ .success) statuses
  let consecutiveSuccesses := streak (fun status => status = .success) statuses
  if run.status ≠ .success ∧ policy.failureThreshold ≤ consecutiveFailures then
    raiseAlert policy monitorName channels run consecutiveFailures store newID
  else if run.status = .success ∧ policy.recoveryThreshold ≤ consecutiveSuccesses then
    resolveAlerts channels run store
  else (.none, store)

/-! ## When it raises and when it resolves -/

variable {policy? : Option AlertPolicy} {monitorName : String} {channels : ChannelTable}
  {runs : RunTable} {run : MonitorRun} {history : RunHistory runs run.monitorId}
  {store : AlertStore} {newID : FreshAlertId store.alerts}

@[simp] theorem raises_raiseAlert {policy : AlertPolicy} {consecutiveFailures : Nat} :
    (raiseAlert policy monitorName channels run consecutiveFailures store newID).1.raises = true ∧
      (raiseAlert policy monitorName channels run consecutiveFailures store newID).1.resolves =
        false := by
  unfold raiseAlert
  cases activeAlert? (monitorKey run.monitorId) store.alerts with
  | some active | none => exact ⟨rfl, rfl⟩

/-- The alert is raised when the newest rows, as many as the failure threshold, exist
and none of them is `SUCCESS`. -/
theorem raises_evaluateAlertState_iff :
    (evaluateAlertState policy? monitorName channels run history store newID).1.raises = true ↔
      run.status ≠ .success ∧
        (policy?.getD defaultPolicy).failureThreshold ≤
          streak (fun row : MonitorRun => row.status ≠ .success) history.rows := by
  simp only [evaluateAlertState, streak_map, le_streak_take_iff (Nat.le_max_left _ _)]
  split
  · next hraise => simp [hraise]
  · next hquiet =>
    split
    · simp [resolveAlerts, AlertChange.raises, hquiet]
    · simp [AlertChange.raises, hquiet]

/-- The alert is resolved when the newest rows, as many as the recovery threshold, exist
and all of them are `SUCCESS`. -/
theorem resolves_evaluateAlertState_iff :
    (evaluateAlertState policy? monitorName channels run history store newID).1.resolves = true ↔
      run.status = .success ∧
        (policy?.getD defaultPolicy).recoveryThreshold ≤
          streak (fun row : MonitorRun => row.status = .success) history.rows := by
  simp only [evaluateAlertState, streak_map, le_streak_take_iff (Nat.le_max_right _ _)]
  split
  · next hraise => simp [hraise.1]
  · split
    · next hresolve => simp [resolveAlerts, AlertChange.resolves, hresolve]
    · next hquiet => simp [AlertChange.resolves, hquiet]

/-! ## The threshold law -/

/-- The execution has finished and was neither cancelled nor skipped. -/
def CountsForAlert (row : MonitorRun) : Prop :=
  row.status.isTerminal = true ∧ row.status ≠ .cancelled

def Failed (row : MonitorRun) : Prop :=
  row.status = .failed ∨ row.status = .timedOut ∨ row.status = .aborted

instance : DecidablePred CountsForAlert := fun _ => inferInstanceAs (Decidable (_ ∧ _))

instance : DecidablePred Failed := fun _ => inferInstanceAs (Decidable (_ ∨ _ ∨ _))

/-- **The threshold law.**  The alert is raised only after `failureThreshold` failed
executions in a row, and resolved only after `recoveryThreshold` successful
ones, among those that count. -/
structure ThresholdLaw (policy : AlertPolicy) (rows : List MonitorRun) (change : AlertChange) :
    Prop where
  raised : change.raises = true → FirstAll CountsForAlert Failed policy.failureThreshold rows
  resolved : change.resolves = true →
    FirstAll CountsForAlert (fun row => row.status = .success) policy.recoveryThreshold rows

instance (policy : AlertPolicy) (rows : List MonitorRun) (change : AlertChange) :
    Decidable (ThresholdLaw policy rows change) :=
  decidable_of_iff (_ ∧ _) ⟨fun ⟨hraised, hresolved⟩ => ⟨hraised, hresolved⟩,
    fun h => ⟨h.raised, h.resolved⟩⟩

/-- When the window of newest rows speaks for the finished executions: it is too short to
raise the alert, holds a `SUCCESS`, or holds no warning and the finished
executions right below it, one for each of its rows that does not count, all
failed. -/
def WindowSpeaks (failureThreshold : Nat) (rows : List MonitorRun) : Prop :=
  let window := rows.take failureThreshold
  rows.length < failureThreshold ∨ (∃ row ∈ window, row.status = .success) ∨
    (∀ row ∈ window, row.status ≠ .successWithWarnings) ∧
      FirstAll CountsForAlert Failed (window.countP fun row => ¬ CountsForAlert row)
        (rows.drop failureThreshold)

theorem failed_iff_of_counts {row : MonitorRun} (hcounts : CountsForAlert row)
    (hsuccess : row.status ≠ .success) : Failed row ↔ row.status ≠ .successWithWarnings := by
  obtain ⟨hterminal, hcancelled⟩ := hcounts
  cases h : row.status <;> simp_all [Failed, Status.isTerminal]

/-- A run that is not `SUCCESS` leaves the law intact when the window speaks for the
finished executions. -/
theorem raised_iff {n : Nat} {rows : List MonitorRun} :
    (n ≤ streak (fun row : MonitorRun => row.status ≠ .success) rows →
        FirstAll CountsForAlert Failed n rows) ↔ WindowSpeaks n rows := by
  unfold WindowSpeaks
  by_cases hfull : n ≤ streak (fun row : MonitorRun => row.status ≠ .success) rows
  · obtain ⟨hlen, hall⟩ := le_streak_iff.mp hfull
    have hshort : ¬ rows.length < n := Nat.not_lt.mpr hlen
    have hnoSuccess : ¬ ∃ row ∈ rows.take n, row.status = .success :=
      fun ⟨row, hrow, hs⟩ => hall row hrow hs
    have hwindow : (∀ row ∈ rows.take n, CountsForAlert row → Failed row) ↔
        ∀ row ∈ rows.take n, row.status ≠ .successWithWarnings := by
      refine forall₂_congr fun row hrow => ?_
      by_cases hcounts : CountsForAlert row
      · simp [hcounts, failed_iff_of_counts hcounts (hall row hrow)]
      · grind [CountsForAlert, Status.isTerminal]
    have hsplit : FirstAll CountsForAlert Failed n (rows.take n ++ rows.drop n) ↔ _ :=
      firstAll_append (List.length_take_of_le hlen)
    rw [List.take_append_drop, hwindow] at hsplit
    simp only [hfull, hshort, hnoSuccess, true_implies, false_or]
    exact hsplit
  · have hquiet : rows.length < n ∨ ∃ row ∈ rows.take n, row.status = .success := by
      by_contra hnone
      obtain ⟨hlen, hno⟩ := not_or.mp hnone
      exact hfull (le_streak_iff.mpr ⟨Nat.not_lt.mp hlen, fun row hrow hs => hno ⟨row, hrow, hs⟩⟩)
    simp only [hfull, false_implies, true_iff]
    exact hquiet.elim .inl fun h => .inr (.inl h)

/-- **Alert thresholds.**  For every policy, history and finished run, the threshold law
holds of what `evaluateAlertState` does exactly when the run is `SUCCESS` or the
window of newest rows speaks for the finished executions. -/
theorem thresholdLaw_iff (policy? : Option AlertPolicy) (monitorName : String)
    (channels : ChannelTable) {runs : RunTable} (run : MonitorRun)
    (history : RunHistory runs run.monitorId) (store : AlertStore)
    (newID : FreshAlertId store.alerts) :
    ThresholdLaw (policy?.getD defaultPolicy) history.rows
        (evaluateAlertState policy? monitorName channels run history store newID).1 ↔
      run.status = .success ∨
        WindowSpeaks (policy?.getD defaultPolicy).failureThreshold history.rows := by
  have hresolved : ∀ row : MonitorRun, row.status = .success → CountsForAlert row := by
    intro row hs
    simp [CountsForAlert, hs, Status.isTerminal]
  rw [← raised_iff]
  constructor
  · intro hlaw
    by_cases hs : run.status = .success
    · exact .inl hs
    · exact .inr fun hstreak =>
        hlaw.raised (raises_evaluateAlertState_iff.mpr ⟨hs, hstreak⟩)
  · intro hcond
    constructor
    · intro hraises
      obtain ⟨hs, hstreak⟩ := raises_evaluateAlertState_iff.mp hraises
      exact hcond.resolve_left hs hstreak
    · intro hresolves
      exact firstAll_of_le_streak hresolved (resolves_evaluateAlertState_iff.mp hresolves).2

def sampleRun (runID : RunId) (status : Status) (createdAt : Time) : MonitorRun where
  id := runID
  monitorId := 1
  revisionId := 1
  status := status
  triggerType := .scheduled
  failureCategory := ""
  failureReason := ""
  failedStepId := ""
  durationMs := 0
  startedAt := none
  endedAt := none
  createdAt := createdAt
  cancelRequestedAt := none
  terminalProcessedAt := none

/-- One failed execution and two that are still queued open the alert of a monitor whose
policy asks for three failures. -/
theorem queued_runs_open_alert :
    ¬ ∀ (policy? : Option AlertPolicy) (monitorName : String) (channels : ChannelTable)
      (runs : RunTable) (run : MonitorRun) (history : RunHistory runs run.monitorId)
      (store : AlertStore) (newID : FreshAlertId store.alerts),
      ThresholdLaw (policy?.getD defaultPolicy) history.rows
        (evaluateAlertState policy? monitorName channels run history store newID).1 := by
  intro h
  have hlaw := h none "checkout" .empty
    ⟨[sampleRun 1 .queued 10, sampleRun 2 .queued 20, sampleRun 3 .failed 30], by decide⟩
    (sampleRun 3 .failed 30) (.ofTable _ _) ⟨.empty, .empty⟩ ⟨1, rfl⟩
  revert hlaw
  decide

end Rhythm.Alerts
