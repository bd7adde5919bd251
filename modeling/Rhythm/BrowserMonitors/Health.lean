import Rhythm.BrowserMonitors.Effects
import Rhythm.Streak

/-!
# Rhythm.BrowserMonitors.Health

The failure counter of a browser monitor should be the streak of its latest
runs that failed, cancelled runs aside, and the journey alert should follow it.
The counter is written by `persistResult` alone, as one more than the monitor
had when the run started, so it misses the runs that `finishFailure` or the
reaper ended and those that ended since (`consecutiveFailures_along`).

The runs of the queue are recorded here together with the list of the runs that
have ended, the last first.
-/

namespace Rhythm.BrowserMonitors

/-! ## The history of finished runs -/

/-- The runs that a step ended: they are over, and were not so before. -/
def endedRuns (s s' : State) : List BrowserRun :=
  s'.runs.rows.filter fun row => terminal row.status = true ∧ row ∉ s.runs.rows

/-- The finished runs, the last first.  A run that ends again stands where it ended last. -/
def finish (s : State) (_ : Action) (s' : State) (finished : List BrowserRun) : List BrowserRun :=
  endedRuns s s' ++ finished.filter fun old => (endedRuns s s').all fun row => row.id ≠ old.id

/-- The runs of the monitor that count: those that were not cancelled. -/
def Counted (monitorID : MonitorId) (row : BrowserRun) : Prop :=
  row.monitorId = monitorID ∧ row.status ≠ .cancelled

instance (monitorID : MonitorId) : DecidablePred (Counted monitorID) :=
  fun _ => inferInstanceAs (Decidable (_ ∧ _))

/-- How many of the monitor's latest finished runs, cancelled ones aside, have all failed. -/
def failingRuns (monitorID : MonitorId) (finished : List BrowserRun) : Nat :=
  streak (fun row => row.status.failing = true) (finished.filter fun row => Counted monitorID row)

def State.StoresStreak (s : State) (monitorID : MonitorId) (finished : List BrowserRun) : Prop :=
  ∃ monitor ∈ s.monitors, monitor.id = monitorID ∧
    monitor.consecutiveFailures = failingRuns monitorID finished

instance (s : State) (monitorID : MonitorId) (finished : List BrowserRun) :
    Decidable (s.StoresStreak monitorID finished) :=
  inferInstanceAs (Decidable (∃ monitor ∈ s.monitors, _))

/-- After a run that was not cancelled: the monitor stores the streak, its journey alert is active
from two failures on, and none is after a success. -/
def FollowsRun (s : State) (finished : List BrowserRun) (run : BrowserRun) : Prop :=
  s.StoresStreak run.monitorId finished ∧
    (2 ≤ failingRuns run.monitorId finished →
      s.alerts.any (JourneyAlert.ActiveOf run.monitorId) = true) ∧
    (run.status = .success ∨ run.status = .successWithWarnings →
      s.alerts.any (JourneyAlert.ActiveOf run.monitorId) = false)

instance (s : State) (finished : List BrowserRun) : DecidablePred (FollowsRun s finished) :=
  fun _ => inferInstanceAs (Decidable (_ ∧ _ ∧ _))

/-- Every step that ends runs leaves the health of their monitors right. -/
def FollowsRuns (x x' : State × List BrowserRun) : Prop :=
  ∀ run ∈ endedRuns x.1 x'.1, run.status ≠ .cancelled → FollowsRun x'.1 x'.2 run

instance (x x' : State × List BrowserRun) : Decidable (FollowsRuns x x') :=
  inferInstanceAs (Decidable (∀ run ∈ endedRuns x.1 x'.1, _))

/-- What `persistResult` stores of the failures is right: a failure is counted from what the
monitor still stores, and a status that is no success resets no failures. -/
def State.CountsResult (s : State) (monitor : Monitor) (result : RunnerResult) : Prop :=
  ∀ stored ∈ s.monitors, stored.id = monitor.id →
    (result.endStatus.failing = true ∧
        monitor.consecutiveFailures = stored.consecutiveFailures) ∨
      result.endStatus = .success ∨ result.endStatus = .successWithWarnings ∨
      (result.endStatus.failing = false ∧ stored.consecutiveFailures = 0)

instance (s : State) (monitor : Monitor) (result : RunnerResult) :
    Decidable (s.CountsResult monitor result) :=
  inferInstanceAs (Decidable (∀ stored ∈ s.monitors, _))

/-- What a write of `execute` does not break. -/
def State.CountsWrite (s : State) (w : Worker) : RunWrite → Prop
  | .state _ => True
  | .failed failure => failure.status = .cancelled
  | .ended result => ∀ monitor ∈ w.monitor, s.CountsResult monitor result

instance (s : State) (w : Worker) : DecidablePred (s.CountsWrite w)
  | .state _ => isTrue trivial
  | .failed failure => inferInstanceAs (Decidable (failure.status = .cancelled))
  | .ended result =>
    inferInstanceAs (Decidable (∀ monitor ∈ w.monitor, s.CountsResult monitor result))

def State.RunUncounted (s : State) (w : Worker) : Prop :=
  ∀ row ∈ s.runs, row.id = w.runId → terminal row.status = true → row.status = .cancelled

instance (s : State) (w : Worker) : Decidable (s.RunUncounted w) :=
  inferInstanceAs (Decidable (∀ row ∈ s.runs, _))

/-- * A write of `execute` finds its run not over, or cancelled.
* `finishFailure` ends cancelled runs only.
* The result of a run is counted right.
* The reaper finds the runs of the lost jobs over. -/
def KeepsStreak (s : State) (a : Action) : Prop :=
  match a with
  | .execute executionID move => ∀ w ∈ s.workers, w.id = executionID → ∀ write ∈ w.write? move,
      s.RunUncounted w ∧ s.CountsWrite w write
  | .reapExpiredBrowserJobs locked => ∀ item ∈ expiredBrowserJobs s.now locked s.jobs,
      ∀ row ∈ s.runs, row.id = item.runId → terminal row.status = true
  | _ => True

instance (s : State) : DecidablePred (KeepsStreak s)
  | .execute _ _ => inferInstanceAs (Decidable (∀ w ∈ s.workers, _))
  | .reapExpiredBrowserJobs locked =>
    inferInstanceAs (Decidable (∀ item ∈ expiredBrowserJobs s.now locked s.jobs, _))
  | .tick _ | .createMonitor _ | .startRun _ _ _ | .getMonitor _ _ _ _ | .insertRun _
  | .claimBrowserJob _ _ _ | .load _ _ | .watchBrowserJob _ | .cancelContext _ | .crash _
  | .completeBrowserJob _ | .cancelRun _ | .acknowledge _ | .resolve _ => isTrue trivial

/-- What holds along a run. -/
structure HealthInvariant (s : State) (finished : List BrowserRun) : Prop where
  /-- The stored counters are the streaks. -/
  counter : ∀ m ∈ s.monitors, m.consecutiveFailures = failingRuns m.id finished
  isOver : ∀ run ∈ finished, terminal run.status = true
  /-- A run that counts is still stored as it ended. -/
  stored : ∀ run ∈ finished, run.status ≠ .cancelled → run ∈ s.runs
  monitorOfRun : ∀ row ∈ s.runs, ∃ m ∈ s.monitors, m.id = row.monitorId
  monitorOfWorker : ∀ w ∈ s.workers, ∀ monitor ∈ w.monitor, ∃ m ∈ s.monitors, m.id = monitor.id
  runOfWorker : ∀ w ∈ s.workers, w.stage ≠ .inserting → ∀ monitor ∈ w.monitor,
    ∃ row ∈ s.runs, row.id = w.runId ∧ row.monitorId = monitor.id

theorem healthInvariant_initial (now : Time) : HealthInvariant (initial now) [] where
  counter := fun m hm => absurd hm (Table.not_mem_empty m)
  isOver := fun _ hrun => absurd hrun List.not_mem_nil
  stored := fun _ hrun => absurd hrun List.not_mem_nil
  monitorOfRun := fun row hrow => absurd hrow (Table.not_mem_empty row)
  monitorOfWorker := fun w hw => absurd hw (Table.not_mem_empty w)
  runOfWorker := fun w hw => absurd hw (Table.not_mem_empty w)

section Step

variable {s s' : State} {a : Action} {finished : List BrowserRun}

theorem counts_of_failing {status : RunStatus} (h : status.failing = true) :
    terminal status = true ∧ status ≠ .cancelled := by
  cases status <;> simp_all [RunStatus.failing, terminal]

/-! ## The monitors in a step -/

variable {result : RunnerResult}

theorem move_of_ended {w : Worker} {move : Move} (h : w.write? move = some (.ended result)) :
    ∃ newAlertID, move = .persistResult newAlertID true := by
  cases move with
  | persistResult newAlertID committed =>
    cases committed with
    | true => exact ⟨newAlertID, rfl⟩
    | false => simp [Worker.write?] at h
  | updateRunState saved | finishFailure saved =>
    cases saved <;> cases hstage : w.stage <;> simp [Worker.write?, hstage] at h
  | _ => simp [Worker.write?] at h

variable {alerts alerts' : JourneyAlertTable}

theorem bookkeeping_cases {w : Worker} {now : Time} {move : Move}
    {monitors monitors' : MonitorTable}
    (h : w.bookkeeping now move monitors alerts = some (monitors', alerts')) :
    (∃ result monitor newAlertID, w.write? move = some (.ended result) ∧ w.monitor = some monitor ∧
      monitors' = updateHealth now monitor result.endStatus monitors ∧
      updateBrowserAlert now newAlertID monitor.id result (result.endStatus.failuresAfter monitor)
        alerts = some alerts') ∨
    ((∀ result, w.write? move ≠ some (.ended result)) ∧ monitors' = monitors) := by
  by_cases hended : ∃ result, w.write? move = some (.ended result)
  · obtain ⟨result, hwrite⟩ := hended
    obtain ⟨newAlertID, rfl⟩ := move_of_ended hwrite
    cases hmonitor : w.monitor with
    | none => simp [Worker.bookkeeping, hwrite, hmonitor] at h
    | some monitor =>
      simp only [Worker.bookkeeping, hwrite, hmonitor] at h
      obtain ⟨alerts'', halerts, heq⟩ := Option.map_eq_some_iff.mp h
      cases heq
      exact .inl ⟨result, monitor, newAlertID, hwrite, rfl, rfl, halerts⟩
  · have hnone : ∀ result, w.write? move ≠ some (.ended result) := fun result hwrite =>
      hended ⟨result, hwrite⟩
    have hkept : w.bookkeeping now move monitors alerts = some (monitors, alerts) := by
      unfold Worker.bookkeeping
      split
      · exact absurd ‹_› (hnone _)
      · rename_i hwrite
        exact absurd hwrite (hnone _)
      · rfl
    rw [hkept] at h
    cases h
    exact .inr ⟨hnone, rfl⟩

/-- **The monitors of the next state.**  `persistResult` writes the counter of one; a new monitor
has none. -/
theorem monitors_step (h : step s a = some s') :
    (∃ w move result monitor newAlertID, a = .execute w.id move ∧ w ∈ s.workers ∧
      w.write? move = some (.ended result) ∧ w.monitor = some monitor ∧
      s'.monitors = updateHealth s.now monitor result.endStatus s.monitors ∧
      updateBrowserAlert s.now newAlertID monitor.id result
        (result.endStatus.failuresAfter monitor) s.alerts = some s'.alerts) ∨
    ((∀ w ∈ s.workers, ∀ move result, a = .execute w.id move →
        w.write? move ≠ some (.ended result)) ∧
      (s'.monitors = s.monitors ∨
        ∃ monitorID, s.monitors.insert (newMonitor monitorID) = some s'.monitors)) := by
  cases a with
  | execute executionID move =>
    obtain ⟨w, stage, hw, hnext, hbooks, -⟩ := step_execute h
    obtain ⟨hmem, rfl⟩ := Table.get?_eq_some_iff.mp hw
    rcases bookkeeping_cases hbooks with
      ⟨result, monitor, newAlertID, hwrite, hmonitor, hmonitors, halerts⟩ | ⟨hnone, hmonitors⟩
    · exact .inl ⟨w, move, result, monitor, newAlertID, rfl, hmem, hwrite, hmonitor, hmonitors,
        halerts⟩
    · grind [Action.execute.injEq, Table.eq_of_key_eq]
  | createMonitor monitorID =>
    obtain ⟨monitors, hinsert, rfl⟩ := Option.map_eq_some_iff.mp h
    exact .inr ⟨fun _ _ _ _ ha => (by cases ha), .inr ⟨monitorID, hinsert⟩⟩
  | getMonitor executionID workerID monitorID runID =>
    refine .inr ⟨fun _ _ _ _ ha => (by cases ha), .inl ?_⟩
    simp only [step] at h
    split at h
    · contradiction
    · obtain ⟨workers, -, rfl⟩ := Option.map_eq_some_iff.mp h
      rfl
  | insertRun executionID =>
    refine .inr ⟨fun _ _ _ _ ha => (by cases ha), .inl ?_⟩
    simp only [step] at h
    split at h
    · contradiction
    · split at h
      · obtain ⟨runs, -, rfl⟩ := Option.map_eq_some_iff.mp h
        rfl
      · contradiction
  | claimBrowserJob workerID jobID executionID =>
    refine .inr ⟨fun _ _ _ _ ha => (by cases ha), .inl ?_⟩
    simp only [step] at h
    split at h
    · contradiction
    · split at h
      · obtain ⟨workers, -, rfl⟩ := Option.map_eq_some_iff.mp h
        rfl
      · contradiction
  | _ =>
    refine .inr ⟨fun _ _ _ _ ha => (by cases ha), .inl ?_⟩
    simp only [step] at h
    grind [State.setWorker]

/-! ## The runs that a step ends -/

theorem terminal_of_state {w : Worker} {move : Move} {status : RunStatus}
    (h : w.write? move = some (.state status)) : terminal status = false := by
  cases move with
  | updateRunState saved =>
    cases saved <;> cases hstage : w.stage <;> simp [Worker.write?, hstage] at h <;>
      (rw [← h]; rfl)
  | finishFailure saved =>
    cases saved <;> cases hstage : w.stage <;> simp [Worker.write?, hstage] at h
  | persistResult newAlertID committed =>
    cases committed <;> cases hstage : w.stage <;> simp [Worker.write?, hstage] at h
  | _ => simp [Worker.write?] at h

variable {run : BrowserRun}

theorem mem_endedRuns (h : step s a = some s') (hrun : run ∈ endedRuns s s') :
    ∃ row ∈ s.runs, run = runEffect s a row ∧ run ≠ row ∧ terminal run.status = true := by
  obtain ⟨hmem, hended⟩ := List.mem_filter.mp hrun
  obtain ⟨hterminal, hnew⟩ := of_decide_eq_true hended
  rcases (runs_step h).cases hmem with ⟨row, hrow, heffect⟩ | hadded
  · obtain rfl := Option.some.inj heffect
    refine ⟨row, hrow, rfl, fun heq => hnew ?_, hterminal⟩
    rw [heq]
    exact hrow
  · cases a with
    | startRun monitorID runID jobID =>
      obtain rfl := Option.some.inj hadded
      contradiction
    | insertRun executionID =>
      obtain ⟨w, -, hw⟩ := Option.bind_eq_some_iff.mp hadded
      obtain ⟨monitor, -, rfl⟩ := Option.map_eq_some_iff.mp hw
      contradiction
    | _ => simp [addedRun] at hadded

theorem runEffect_of_counted (hG : KeepsStreak s a) {row : BrowserRun} (hrow : row ∈ s.runs)
    (hover : terminal row.status = true) (hcounts : row.status ≠ .cancelled) :
    runEffect s a row = row := by
  cases a with
  | execute executionID move =>
    simp only [runEffect, State.write?]
    cases hw : s.workers.get? executionID with
    | none => rfl
    | some w =>
      cases hwrite : w.write? move with
      | none => simp [hwrite]
      | some write =>
        simp only [Option.bind_some, hwrite, Option.map_some]
        split
        · rename_i hid
          obtain ⟨huncounted, -⟩ := hG w (Table.mem_of_get? hw) (Table.key_of_get? hw) write hwrite
          exact absurd (huncounted row hrow hid hover) hcounts
        · rfl
  | cancelRun runID | reapExpiredBrowserJobs locked => simp [runEffect, hover]
  | _ => rfl

/-- **A run that a step ends, and that counts, has its result stored.** -/
theorem result_of_endedRuns (h : step s a = some s') (hG : KeepsStreak s a)
    (hrun : run ∈ endedRuns s s') (hcounts : run.status ≠ .cancelled) :
    ∃ w ∈ s.workers, ∃ move result, a = .execute w.id move ∧
      w.write? move = some (.ended result) ∧ ∃ row ∈ s.runs, row.id = w.runId ∧
        run = (RunWrite.ended result).apply s.now row := by
  obtain ⟨row, hrow, rfl, hchanged, hterminal⟩ := mem_endedRuns h hrun
  cases a with
  | execute executionID move =>
    simp only [runEffect, State.write?] at hchanged hterminal hcounts ⊢
    cases hw : s.workers.get? executionID with
    | none =>
      rw [hw] at hchanged
      exact absurd rfl hchanged
    | some w =>
      obtain ⟨hmem, rfl⟩ := Table.get?_eq_some_iff.mp hw
      rw [hw] at hchanged hterminal hcounts
      cases hwrite : w.write? move with
      | none => simp [hwrite] at hchanged
      | some write =>
        simp only [Option.bind_some, hwrite, Option.map_some] at hchanged hterminal hcounts ⊢
        split at hchanged
        · rename_i hid
          rw [if_pos hid] at hterminal hcounts
          rw [RunWrite.status_apply] at hterminal hcounts
          obtain ⟨-, hwrites⟩ := hG w hmem rfl write hwrite
          cases write with
          | state status =>
            rw [RunWrite.status, terminal_of_state hwrite] at hterminal
            contradiction
          | failed failure => exact absurd hwrites hcounts
          | ended result =>
            exact ⟨w, hmem, move, result, rfl, hwrite, row, hrow, hid, by rw [if_pos hid]⟩
        · exact absurd rfl hchanged
  | cancelRun runID =>
    simp only [runEffect, cancelRow] at hterminal hcounts hchanged
    grind
  | reapExpiredBrowserJobs locked =>
    simp only [runEffect] at hchanged
    split at hchanged
    · rename_i hreaped
      obtain ⟨item, hitem, hid, hopen⟩ := hreaped
      have hover := hG item hitem row hrow hid
      rw [hopen] at hover
      contradiction
    · exact absurd rfl hchanged
  | _ => exact absurd rfl hchanged

/-! ## The streaks in a step -/

theorem filter_finish (hI : HealthInvariant s finished) (h : step s a = some s')
    (hG : KeepsStreak s a) (monitorID : MonitorId) :
    ((finish s a s' finished).filter fun row => Counted monitorID row) =
      ((endedRuns s s').filter fun row => Counted monitorID row) ++
        finished.filter fun row => Counted monitorID row := by
  rw [finish, List.filter_append, List.filter_filter]
  congr 1
  refine List.filter_congr fun old hold => ?_
  by_cases hcounted : Counted monitorID old
  · have hlast : ∀ run ∈ endedRuns s s', run.id ≠ old.id := by
      intro run hrun hid
      obtain ⟨row, hrow, rfl, hchanged, -⟩ := mem_endedRuns h hrun
      rw [(runEffect_ids row).1] at hid
      obtain rfl := Table.eq_of_key_eq hrow (hI.stored old hold hcounted.2) hid
      exact hchanged (runEffect_of_counted hG hrow (hI.isOver row hold) hcounted.2)
    simpa [hcounted] using hlast
  · simp [hcounted]

variable {monitorID : MonitorId}

theorem failingRuns_of_uncounted (hI : HealthInvariant s finished) (h : step s a = some s')
    (hG : KeepsStreak s a) (hnone : ∀ run ∈ endedRuns s s', ¬ Counted monitorID run) :
    failingRuns monitorID (finish s a s' finished) = failingRuns monitorID finished := by
  have hempty : ((endedRuns s s').filter fun row => Counted monitorID row) = [] := by
    rw [List.filter_eq_nil_iff]
    intro run hrun
    simpa using hnone run hrun
  rw [failingRuns, filter_finish hI h hG, hempty, List.nil_append, failingRuns]

section Result

variable {w : Worker} {move : Move} {result : RunnerResult} {monitor : Monitor}

theorem endedRuns_result (hI : HealthInvariant s finished) (hG : KeepsStreak s (.execute w.id move))
    (h : step s (.execute w.id move) = some s') (hw : w ∈ s.workers)
    (hwrite : w.write? move = some (.ended result)) (hmonitor : w.monitor = some monitor) :
    ∃ row ∈ s.runs, row.id = w.runId ∧ row.monitorId = monitor.id ∧
      (RunWrite.ended result).apply s.now row ∈ s'.runs ∧
      ∀ run ∈ endedRuns s s', run.status ≠ .cancelled →
        run = (RunWrite.ended result).apply s.now row := by
  obtain ⟨row, hrow, hid, howner⟩ := hI.runOfWorker w hw (stage_of_write hwrite) monitor hmonitor
  have hread : s.write? w.id move = some (w.runId, .ended result) := by
    simp [State.write?, Table.get?_of_mem hw, hwrite]
  have heffect :
      runEffect s (.execute w.id move) row = (RunWrite.ended result).apply s.now row := by
    simp [runEffect, hread, hid]
  refine ⟨row, hrow, hid, howner, heffect ▸ mem_runEffect h hrow, fun run hrun hcounts => ?_⟩
  obtain ⟨w', hw', move', result', ha, hwrite', row', hrow', hid', rfl⟩ :=
    result_of_endedRuns h hG hrun hcounts
  rw [Action.execute.injEq] at ha
  obtain rfl : w = w' := Table.eq_of_key_eq hw hw' ha.1
  rw [← ha.2, hwrite, Option.some.injEq] at hwrite'
  obtain rfl : row = row' := Table.eq_of_key_eq hrow hrow' (hid.trans hid'.symm)
  rw [hwrite']

/-- **A stored result moves the streak of its monitor.** -/
theorem failingRuns_result (hI : HealthInvariant s finished)
    (hG : KeepsStreak s (.execute w.id move)) (h : step s (.execute w.id move) = some s')
    (hw : w ∈ s.workers) (hwrite : w.write? move = some (.ended result))
    (hmonitor : w.monitor = some monitor) (hterminal : terminal result.endStatus = true)
    (hcounts : result.endStatus ≠ .cancelled) (monitorID : MonitorId) :
    failingRuns monitorID (finish s (.execute w.id move) s' finished) =
      if monitorID = monitor.id then
        if result.endStatus.failing then failingRuns monitorID finished + 1 else 0
      else failingRuns monitorID finished := by
  obtain ⟨row, hrow, hid, howner, hmem, hall⟩ := endedRuns_result hI hG h hw hwrite hmonitor
  by_cases hown : monitorID = monitor.id
  · subst hown
    have hnew : (RunWrite.ended result).apply s.now row ∉ s.runs.rows := by
      intro hold
      have hsame := Table.eq_of_key_eq hold hrow (RunWrite.id_apply ..)
      obtain ⟨huncounted, -⟩ := hG w hw rfl _ hwrite
      have hstatus : row.status = result.endStatus := by
        rw [← hsame, RunWrite.status_apply, RunWrite.status]
      exact hcounts (hstatus ▸ huncounted row hrow hid (hstatus ▸ hterminal))
    have hended : ((endedRuns s s').filter fun row => Counted monitor.id row) =
        [(RunWrite.ended result).apply s.now row] := by
      have hkey : ((endedRuns s s').filter fun row => Counted monitor.id row) =
          s'.runs.rows.filter fun row => row.id = w.runId := by
        rw [endedRuns, List.filter_filter]
        refine List.filter_congr fun run hrun => ?_
        rw [← Bool.decide_and, decide_eq_decide]
        constructor
        · rintro ⟨hcounted, hover⟩
          have hmem : run ∈ endedRuns s s' := List.mem_filter.mpr ⟨hrun, decide_eq_true hover⟩
          rw [hall run hmem hcounted.2, RunWrite.id_apply, hid]
        · intro hrunID
          obtain rfl := Table.eq_of_key_eq hrun hmem
            (hrunID.trans (hid.symm.trans (RunWrite.id_apply ..).symm))
          refine ⟨⟨(RunWrite.monitorId_apply ..).trans howner, ?_⟩, ?_, hnew⟩
          · rwa [RunWrite.status_apply]
          · rwa [RunWrite.status_apply]
      have hget := Table.get?_of_mem hmem
      rw [RunWrite.id_apply, hid] at hget
      rw [hkey, Table.filter_key, hget]
      rfl
    rw [if_pos rfl, failingRuns, filter_finish hI h hG, hended, List.singleton_append, streak,
      RunWrite.status_apply]
    rfl
  · rw [if_neg hown]
    refine failingRuns_of_uncounted hI h hG fun run hrun hcounted => hown ?_
    rw [← hcounted.1, hall run hrun hcounted.2, RunWrite.monitorId_apply, howner]

theorem failingRuns_result_uncounted (hI : HealthInvariant s finished)
    (hG : KeepsStreak s (.execute w.id move)) (h : step s (.execute w.id move) = some s')
    (hw : w ∈ s.workers) (hwrite : w.write? move = some (.ended result))
    (hmonitor : w.monitor = some monitor)
    (huncounted : ¬ (terminal result.endStatus = true ∧ result.endStatus ≠ .cancelled))
    (monitorID : MonitorId) :
    failingRuns monitorID (finish s (.execute w.id move) s' finished) =
      failingRuns monitorID finished := by
  obtain ⟨row, -, -, -, -, hall⟩ := endedRuns_result hI hG h hw hwrite hmonitor
  refine failingRuns_of_uncounted hI h hG fun run hrun hcounted => huncounted ?_
  obtain ⟨-, -, -, -, hterminal⟩ := mem_endedRuns h hrun
  have hcounts := hcounted.2
  rw [hall run hrun hcounts, RunWrite.status_apply, RunWrite.status] at hterminal hcounts
  exact ⟨hterminal, hcounts⟩

end Result

/-! ## Every step keeps the invariant -/

theorem monitorId_step (h : step s a = some s')
    (hm : ∃ m ∈ s.monitors, m.id = monitorID) : ∃ m ∈ s'.monitors, m.id = monitorID := by
  obtain ⟨m, hm, hid⟩ := hm
  rcases monitors_step h with ⟨w, move, result, monitor, newAlertID, -, -, -, -, hmonitors, -⟩ |
    ⟨-, hkept | ⟨newID, hinsert⟩⟩
  · rw [hmonitors]
    refine ⟨_, Table.mem_update.mpr ⟨m, hm, rfl⟩, ?_⟩
    split <;> exact hid
  · exact ⟨m, hkept ▸ hm, hid⟩
  · exact ⟨m, (Table.becomes_insert hinsert).mem hm rfl, hid⟩

/-- **The counter stays the streak.** -/
theorem counter_step (hI : HealthInvariant s finished) (h : step s a = some s')
    (hG : KeepsStreak s a) {m' : Monitor} (hm' : m' ∈ s'.monitors) :
    m'.consecutiveFailures = failingRuns m'.id (finish s a s' finished) := by
  rcases monitors_step h with
    ⟨w, move, result, monitor, newAlertID, rfl, hw, hwrite, hmonitor, hmonitors, -⟩ |
    ⟨hnone, hmonitors⟩
  · obtain ⟨-, hcount⟩ := hG w hw rfl _ hwrite
    rw [hmonitors, updateHealth, Table.mem_update] at hm'
    obtain ⟨m, hm, rfl⟩ := hm'
    have hstored := hI.counter m hm
    by_cases hcounts : terminal result.endStatus = true ∧ result.endStatus ≠ .cancelled
    · have hresult := failingRuns_result hI hG h hw hwrite hmonitor hcounts.1 hcounts.2
      by_cases hown : m.id = monitor.id
      · rw [if_pos hown]
        show result.endStatus.failuresAfter monitor = failingRuns m.id (finish s _ s' finished)
        rw [hresult, if_pos hown, RunStatus.failuresAfter]
        split
        · rename_i hfailing
          rcases hcount monitor hmonitor m hm hown with hsame | hsuccess | hwarnings | ⟨hnot, -⟩
          · rw [hsame.2, hstored]
          · simp [hsuccess, RunStatus.failing] at hfailing
          · simp [hwarnings, RunStatus.failing] at hfailing
          · rw [hnot] at hfailing
            contradiction
        · rfl
      · rw [if_neg hown, hstored, hresult, if_neg hown]
    · have hkept := failingRuns_result_uncounted hI hG h hw hwrite hmonitor hcounts
      by_cases hown : m.id = monitor.id
      · rw [if_pos hown]
        show result.endStatus.failuresAfter monitor = failingRuns m.id (finish s _ s' finished)
        rw [hkept, ← hstored, RunStatus.failuresAfter]
        rcases hcount monitor hmonitor m hm hown with ⟨hfailing, -⟩ | hsuccess | hwarnings |
          ⟨hnot, hzero⟩
        · exact absurd (counts_of_failing hfailing) hcounts
        · simp [hsuccess, terminal] at hcounts
        · simp [hwarnings, terminal] at hcounts
        · rw [hnot, hzero]
          rfl
      · rw [if_neg hown, hstored, hkept]
  · -- no result is stored, so no run that counts ends
    have hended : ∀ monitorID, failingRuns monitorID (finish s a s' finished) =
        failingRuns monitorID finished := by
      intro monitorID
      refine failingRuns_of_uncounted hI h hG fun run hrun hcounted => ?_
      obtain ⟨w, hw, move, result, ha, hwrite, -⟩ := result_of_endedRuns h hG hrun hcounted.2
      exact hnone w hw move result ha hwrite
    rw [hended]
    rcases hmonitors with hkept | ⟨newID, hinsert⟩
    · exact hI.counter m' (hkept ▸ hm')
    · rcases (Table.becomes_insert hinsert).cases hm' with ⟨m, hm, hsame⟩ | hadded
      · obtain rfl := Option.some.inj hsame
        exact hI.counter m hm
      · -- the new monitor has no runs
        obtain rfl := Option.some.inj hadded
        have hempty : (finished.filter fun row => Counted newID row) = [] := by
          rw [List.filter_eq_nil_iff]
          intro run hrun hcounted
          obtain ⟨hown, hcounts⟩ := of_decide_eq_true hcounted
          obtain ⟨m, hm, hid⟩ := hI.monitorOfRun run (hI.stored run hrun hcounts)
          exact Table.get?_eq_none_iff.mp (Table.get?_of_insert_eq_none hinsert) m hm
            (hid.trans hown)
        show 0 = failingRuns newID finished
        rw [failingRuns, hempty]
        rfl

theorem over_step (hI : HealthInvariant s finished) (h : step s a = some s')
    (hrun : run ∈ finish s a s' finished) : terminal run.status = true := by
  rcases List.mem_append.mp hrun with hended | hold
  · obtain ⟨-, -, -, -, hterminal⟩ := mem_endedRuns h hended
    exact hterminal
  · exact hI.isOver run (List.mem_of_mem_filter hold)

theorem stored_step (hI : HealthInvariant s finished) (h : step s a = some s')
    (hG : KeepsStreak s a) (hrun : run ∈ finish s a s' finished)
    (hcounts : run.status ≠ .cancelled) : run ∈ s'.runs := by
  rcases List.mem_append.mp hrun with hended | hold
  · exact List.mem_of_mem_filter hended
  · have hmem := List.mem_of_mem_filter hold
    have hstored := hI.stored run hmem hcounts
    exact runEffect_of_counted hG hstored (hI.isOver run hmem) hcounts ▸ mem_runEffect h hstored

theorem monitorOfRun_step (hI : HealthInvariant s finished) (h : step s a = some s')
    {row' : BrowserRun} (hrow' : row' ∈ s'.runs) : ∃ m ∈ s'.monitors, m.id = row'.monitorId := by
  refine monitorId_step h ?_
  rcases (runs_step h).cases hrow' with ⟨row, hrow, heffect⟩ | hadded
  · obtain rfl := Option.some.inj heffect
    rw [(runEffect_ids row).2]
    exact hI.monitorOfRun row hrow
  · cases a with
    | startRun monitorID runID jobID =>
      obtain rfl := Option.some.inj hadded
      simp only [step] at h
      split at h
      · rename_i monitor _ _ hmonitor _ _
        exact ⟨monitor, Table.get?_eq_some_iff.mp hmonitor⟩
      · contradiction
    | insertRun executionID =>
      obtain ⟨w, hw, hadded⟩ := Option.bind_eq_some_iff.mp hadded
      obtain ⟨monitor, hmonitor, rfl⟩ := Option.map_eq_some_iff.mp hadded
      exact hI.monitorOfWorker w (Table.mem_of_get? hw) monitor hmonitor
    | _ => simp [addedRun] at hadded

variable {monitor : Monitor}

theorem monitor_of_workerEffect {w w' : Worker} (heffect : workerEffect s a w = some w')
    (hmonitor : w'.monitor = some monitor) :
    w.monitor = some monitor ∨ ∃ row ∈ s.runs, row.id = w.runId ∧
      monitor ∈ s.monitors ∧ monitor.id = row.monitorId := by
  cases a with
  | load executionID succeeds =>
    simp only [workerEffect] at heffect
    split at heffect
    · split at heffect
      · rename_i read hread
        obtain ⟨row, hrow, hread⟩ := Option.bind_eq_some_iff.mp hread
        obtain ⟨hmem, hid⟩ := Table.get?_eq_some_iff.mp hrow
        split at heffect
        · cases heffect
          obtain rfl := Option.some.inj hmonitor
          exact .inr ⟨row, hmem, hid, Table.get?_eq_some_iff.mp hread⟩
        · cases heffect
          exact .inl hmonitor
      · cases heffect
        exact .inl hmonitor
    · cases heffect
      exact .inl hmonitor
  | execute executionID move =>
    simp only [workerEffect] at heffect
    split at heffect
    · obtain ⟨stage, -, rfl⟩ := Option.map_eq_some_iff.mp heffect
      exact .inl hmonitor
    · cases heffect
      exact .inl hmonitor
  | watchBrowserJob executionID =>
    simp only [workerEffect] at heffect
    split at heffect
    · obtain ⟨jobID, -, rfl⟩ := Option.map_eq_some_iff.mp heffect
      exact .inl hmonitor
    · cases heffect
      exact .inl hmonitor
  | _ =>
    simp only [workerEffect] at heffect
    refine .inl ?_
    grind

theorem monitorOfWorker_step (hI : HealthInvariant s finished) (h : step s a = some s')
    {w' : Worker} (hw' : w' ∈ s'.workers)
    (hmonitor : w'.monitor = some monitor) : ∃ m ∈ s'.monitors, m.id = monitor.id := by
  refine monitorId_step h ?_
  rcases (workers_step h).cases hw' with ⟨w, hw, heffect⟩ | hadded
  · rcases monitor_of_workerEffect heffect hmonitor with hbefore | ⟨row, hrow, -, hmem, hid⟩
    · exact hI.monitorOfWorker w hw monitor hbefore
    · exact ⟨monitor, hmem, rfl⟩
  · cases a with
    | getMonitor executionID workerID monitorID runID =>
      obtain ⟨read, hread, rfl⟩ := Option.map_eq_some_iff.mp hadded
      obtain rfl := Option.some.inj hmonitor
      exact ⟨read, Table.mem_of_get? hread, rfl⟩
    | claimBrowserJob workerID jobID executionID =>
      obtain ⟨job, -, rfl⟩ := Option.map_eq_some_iff.mp hadded
      contradiction
    | _ => simp [startedWorker] at hadded

theorem runOfWorker_health_step (hI : HealthInvariant s finished) (h : step s a = some s')
    {w' : Worker} (hw' : w' ∈ s'.workers) (hstarted : w'.stage ≠ .inserting)
    (hmonitor : w'.monitor = some monitor) :
    ∃ row ∈ s'.runs, row.id = w'.runId ∧ row.monitorId = monitor.id := by
  have hkept : ∀ row ∈ s.runs, row.id = w'.runId ∧ row.monitorId = monitor.id →
      ∃ row ∈ s'.runs, row.id = w'.runId ∧ row.monitorId = monitor.id := by
    rintro row hrow ⟨hid, hown⟩
    exact ⟨runEffect s a row, mem_runEffect h hrow, (runEffect_ids row).1.trans hid,
      (runEffect_ids row).2.trans hown⟩
  rcases worker_cases h hw' with ⟨w, hw, heffect⟩ | ⟨hinserting, -⟩ |
    ⟨workerID, executionID, job, hjob, rfl, rfl⟩
  · have hrunId := (workerEffect_ids heffect).2.2
    rcases monitor_of_workerEffect heffect hmonitor with hbefore | ⟨row, hrow, hid, -, hown⟩
    · rcases inserting_of_workerEffect h hw heffect hstarted with hstage | rfl
      · obtain ⟨row, hrow, hid, hown⟩ := hI.runOfWorker w hw hstage monitor hbefore
        exact hkept row hrow ⟨hid.trans hrunId.symm, hown⟩
      · obtain ⟨owner, read, howner, -, hread, hruns, -⟩ := step_insertRun h
        obtain rfl : owner = w := Option.some.inj (howner.symm.trans (Table.get?_of_mem hw))
        obtain rfl : read = monitor := Option.some.inj (hread.symm.trans hbefore)
        exact ⟨_, Table.mem_of_insert hruns, hrunId.symm, rfl⟩
    · exact hkept row hrow ⟨hid.trans hrunId.symm, hown.symm⟩
  · exact absurd hinserting hstarted
  · contradiction

/-- **One step keeps the invariant.** -/
theorem healthInvariant_step (hI : HealthInvariant s finished) (h : step s a = some s')
    (hG : KeepsStreak s a) : HealthInvariant s' (finish s a s' finished) where
  counter := fun _ hm => counter_step hI h hG hm
  isOver := fun _ hrun => over_step hI h hrun
  stored := fun _ hrun hcounts => stored_step hI h hG hrun hcounts
  monitorOfRun := fun _ hrow => monitorOfRun_step hI h hrow
  monitorOfWorker := fun _ hw _ hmonitor => monitorOfWorker_step hI h hw hmonitor
  runOfWorker := fun _ hw hstarted _ hmonitor => runOfWorker_health_step hI h hw hstarted hmonitor

/-! ## The journey alert -/

theorem any_active_of_failing {now : Time} {newID : AlertId} {failures : Nat}
    (h : updateBrowserAlert now newID monitorID result failures alerts = some alerts')
    (hfailing : result.endStatus.failing = true) (hfailures : 2 ≤ failures) :
    alerts'.any (JourneyAlert.ActiveOf monitorID) = true := by
  have hnot : ¬ (result.endStatus = .success ∨ result.endStatus = .successWithWarnings) := by
    rintro (hstatus | hstatus) <;> simp [hstatus, RunStatus.failing] at hfailing
  have hmany : ¬ failures < 2 := by omega
  rw [updateBrowserAlert, if_neg hnot, if_neg (by simp [hfailing]), if_neg hmany,
    observeFailure] at h
  rw [Table.any_eq_true]
  split at h
  · rename_i hactive
    obtain ⟨alert, hmem, hof⟩ := Table.any_eq_true.mp hactive
    obtain rfl := Option.some.inj h
    refine ⟨_, Table.mem_update.mpr ⟨alert, hmem, rfl⟩, ?_⟩
    rw [if_pos hof]
    exact hof
  · exact ⟨_, Table.mem_of_insert h, rfl, .inl rfl⟩

theorem any_active_of_success {now : Time} {newID : AlertId} {failures : Nat}
    (h : updateBrowserAlert now newID monitorID result failures alerts = some alerts')
    (hsuccess : result.endStatus = .success ∨ result.endStatus = .successWithWarnings) :
    alerts'.any (JourneyAlert.ActiveOf monitorID) = false := by
  rw [updateBrowserAlert, if_pos hsuccess] at h
  obtain rfl := Option.some.inj h
  rw [Bool.eq_false_iff]
  intro hany
  obtain ⟨alert', hmem', hof⟩ := Table.any_eq_true.mp hany
  obtain ⟨alert, -, rfl⟩ := Table.mem_update.mp hmem'
  split at hof
  · rcases hof.2 with hstate | hstate <;> cases hstate
  · contradiction

/-- **A step that ends a run leaves the health of its monitor right.** -/
theorem followsRun_step (hI : HealthInvariant s finished) (h : step s a = some s')
    (hG : KeepsStreak s a) (hrun : run ∈ endedRuns s s')
    (hcounts : run.status ≠ .cancelled) : FollowsRun s' (finish s a s' finished) run := by
  obtain ⟨m, hm, hid⟩ := monitorOfRun_step hI h (List.mem_of_mem_filter hrun)
  have hcounter := counter_step hI h hG hm
  rw [hid] at hcounter
  refine ⟨⟨m, hm, hid, hcounter⟩, ?_⟩
  obtain ⟨w, hw, move, result, ha, hwrite, row, hrow, hrowId, rfl⟩ :=
    result_of_endedRuns h hG hrun hcounts
  rcases monitors_step h with
    ⟨w', move', result', monitor, newAlertID, ha', hw', hwrite', hmonitor, hmonitors, halerts⟩ |
    ⟨hnone, -⟩
  · rw [ha, Action.execute.injEq] at ha'
    obtain rfl : w = w' := Table.eq_of_key_eq hw hw' ha'.1
    rw [← ha'.2, hwrite, Option.some.injEq, RunWrite.ended.injEq] at hwrite'
    subst hwrite'
    obtain ⟨row', hrow', hid', hown, -⟩ :=
      endedRuns_result hI (ha ▸ hG) (ha ▸ h) hw hwrite hmonitor
    obtain rfl : row = row' := Table.eq_of_key_eq hrow hrow' (hrowId.trans hid'.symm)
    rw [RunWrite.monitorId_apply, hown] at hid hcounter ⊢
    rw [RunWrite.status_apply, RunWrite.status]
    -- the counter that the alert goes by is the stored one
    have hstored : m.consecutiveFailures = result.endStatus.failuresAfter monitor := by
      grind [updateHealth, Table.mem_update]
    refine ⟨fun hmany => ?_, any_active_of_success halerts⟩
    rw [← hcounter, hstored] at hmany
    refine any_active_of_failing halerts ?_ hmany
    by_contra hfailing
    rw [RunStatus.failuresAfter, if_neg hfailing] at hmany
    omega
  · exact absurd hwrite (hnone w hw move result ha)

end Step

/-! ## Runs -/

/-- **The streak.**  Along every run of the queue whose steps keep the streak, for any
interleaving, losses of workers and failures: after each finished run that was not cancelled, its
monitor stores how many of its latest runs have failed, and its journey alert follows. -/
theorem consecutiveFailures_along (now : Time) (as : List Action)
    (h : Along (recording step finish) (fun x a _ => KeepsStreak x.1 a) (initial now, []) as) :
    Along (recording step finish) (fun x _ x' => FollowsRuns x x') (initial now, []) as := by
  refine Along.of_guard (I := fun x => HealthInvariant x.1 x.2) (fun x a x' hI hstep hG => ?_)
    (healthInvariant_initial now) h
  obtain ⟨hstep, hfinish⟩ := recording_eq_some_iff.mp hstep
  rw [FollowsRuns, hfinish]
  exact ⟨healthInvariant_step hI hstep hG, fun run hrun hcounts =>
    followsRun_step hI hstep hG hrun hcounts⟩

def failedResult : RunnerResult where
  status := some .failed
  warningCount := 0
  artifactUploadFailures := 0
  failureCategory := "ASSERTION_FAILED"
  failureReason := "Checkout did not complete."
  failedStepId := "step-1"

/-- The steps of a run from its start to the agent's report. -/
def reportedRun (runID jobID executionID : Nat) (result : Option RunnerResult) : List Action :=
  [.startRun 1 runID jobID, .claimBrowserJob 7 jobID executionID, .load executionID true,
    .execute executionID (.updateRunState true), .execute executionID (.prepare .ready),
    .execute executionID (.updateRunState true), .execute executionID (.runnerExecute result)]

def storedRun (executionID newAlertID : Nat) : List Action :=
  [.execute executionID (.updateRunState true), .execute executionID (.persistArtifacts false),
    .execute executionID (.persistResult newAlertID true), .completeBrowserJob executionID]

/-- Two failed runs and a successful one. -/
theorem consecutiveFailures_along_recovery :
    Along (recording step finish) (fun x _ x' => FollowsRuns x x') (initial 0, [])
      ([.createMonitor 1] ++ reportedRun 1 1 1 (some failedResult) ++ storedRun 1 1 ++
        reportedRun 2 2 2 (some failedResult) ++ storedRun 2 2 ++
        reportedRun 3 3 3 (some { failedResult with status := some .success }) ++ storedRun 3 3) :=
  consecutiveFailures_along 0 _ (by decide +kernel)

/-- A run that the agent could not execute fails, and is not counted. -/
theorem agent_lost_not_counted :
    ¬ ∀ now as,
      Along (recording step finish) (fun x _ x' => FollowsRuns x x') (initial now, []) as := by
  intro h
  have hrun := h 0 ([.createMonitor 1] ++ reportedRun 1 1 1 none ++
    [.execute 1 (.finishFailure true)])
  revert hrun
  decide +kernel

end Rhythm.BrowserMonitors
