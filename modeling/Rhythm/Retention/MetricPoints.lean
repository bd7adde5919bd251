import Rhythm.Grouping
import Rhythm.Retention.Archive
import Rhythm.Suites.Distribution

/-!
# Rhythm.Retention.MetricPoints

`MetricPointsBetween`, the executions that a deployment is compared with, and
what it returns after some of the runs were archived.  The query joins the runs
with the step rows that are left and reads the oldest rows first, a hundred for
each point that is asked for.
-/

namespace Rhythm.Retention

open Runs Suites

/-! ## The query -/

/-- The runs of a monitor revision that were created in a window of time. -/
structure Window where
  monitorID : MonitorId
  revisionID : RevisionId
  start : Time
  stop : Time
  deriving DecidableEq

def Window.Contains (window : Window) (row : RunRow) : Prop :=
  row.monitorId = window.monitorID ∧ row.revisionId = window.revisionID ∧
    window.start ≤ row.createdAt ∧ row.createdAt < window.stop

instance (window : Window) (row : RunRow) : Decidable (window.Contains row) :=
  inferInstanceAs (Decidable (_ ∧ _ ∧ _ ∧ _))

def windowRuns (db : Database) (window : Window) : List RunRow :=
  db.runs.rows.filter fun row => window.Contains row

/-- A row of the join: a run with one of its steps, or with none. -/
structure MetricRow where
  run : RunRow
  step : Option StepRow

/-- `LEFT JOIN monitor_step_runs`. -/
def joinedRows (db : Database) (run : RunRow) : List MetricRow :=
  match db.steps.rows.filter fun step => step.monitorRunId = run.id with
  | [] => [⟨run, none⟩]
  | steps => steps.map fun step => ⟨run, some step⟩

/-- The order of `step_order ASC`, where a missing step comes last. -/
def nullsLast : Option StepRow → Option StepRow → Prop
  | some a, some b => a.stepOrder ≤ b.stepOrder
  | none, some _ => False
  | _, none => True

instance : DecidableRel nullsLast
  | some a, some b => inferInstanceAs (Decidable (a.stepOrder ≤ b.stepOrder))
  | none, some _ => .isFalse id
  | some _, none => .isTrue trivial
  | none, none => .isTrue trivial

/-- `ORDER BY mr.created_at ASC, sr.step_order ASC`. -/
def MetricRow.before (a b : MetricRow) : Prop :=
  a.run.createdAt < b.run.createdAt ∨
    a.run.createdAt = b.run.createdAt ∧ nullsLast a.step b.step

instance : DecidableRel MetricRow.before := fun _ _ => inferInstanceAs (Decidable (_ ∨ _ ∧ _))

/-- The rows of the query, before `LIMIT`. -/
def metricRows (db : Database) (window : Window) : List MetricRow :=
  ((windowRuns db window).flatMap (joinedRows db)).insertionSort MetricRow.before

/-! ## The points -/

/-- `HistoryMetricPoint`, as the query fills it. -/
structure DeploymentMetricPoint extends HistoryMetricPoint where
  queueDelayMs : Int
  warningCount : Int
  deriving DecidableEq

def DeploymentMetricPoint.start (run : RunRow) : DeploymentMetricPoint where
  runId := run.id
  revisionId := run.revisionId
  status := run.status
  failureCategory := run.failureCategory
  createdAt := run.createdAt
  apiResponseTimeMs := none
  executionDurationMs := run.durationMs
  steps := []
  queueDelayMs := run.queueDelayMs
  warningCount := run.warningCount

/-- The step of a row and its response time, if the row names a step and the time was recorded. -/
def MetricRow.recorded? (row : MetricRow) : Option (StepRow × Int) :=
  row.step.bind fun step =>
    if step.stepDefinitionId = "" then none
    else (recordedAPIResponseMS step.timing).map fun value => (step, value)

def MetricRow.Recorded (row : MetricRow) : Prop := row.recorded?.isSome = true

instance (row : MetricRow) : Decidable row.Recorded :=
  inferInstanceAs (Decidable (row.recorded?.isSome = true))

def DeploymentMetricPoint.addRow (point : DeploymentMetricPoint) (row : MetricRow) :
    DeploymentMetricPoint :=
  match row.recorded? with
  | none => point
  | some (step, value) =>
    { point with
      steps := point.steps ++
        [{ stepDefinitionId := step.stepDefinitionId
           stepName := step.stepName
           stepType := step.stepType
           status := step.status
           apiResponseTimeMs := some value }]
      apiResponseTimeMs := some (point.apiResponseTimeMs.getD 0 + value) }

/-- The loop over the rows: a point for each run, in the order in which the runs appear. -/
def metricPoints (rows : List MetricRow) : List DeploymentMetricPoint :=
  rows.foldl
    (collectRow (fun row => row.run.id) (fun point => point.runId)
      (fun row => DeploymentMetricPoint.start row.run) DeploymentMetricPoint.addRow)
    []

/-- `MetricPointsBetween`. -/
def metricPointsBetween (db : Database) (window : Window) (limit : Nat) :
    List DeploymentMetricPoint :=
  let points := metricPoints ((metricRows db window).take (limit * 100))
  if points.length > limit then points.drop (points.length - limit) else points

/-! ## Archived runs -/

def archiveRuns (encoding : Encoding) :
    Database × ObjectStore → List (Time × RunId) → Except ReadError (Database × ObjectStore)
  | state, [] => .ok state
  | state, (now, runID) :: rest =>
    match archiveRun encoding state.1 state.2 now runID with
    | .error error => .error error
    | .ok next => archiveRuns encoding next rest

/-- The point of a run with all the steps that a database has of it. -/
def pointOf (db : Database) (run : RunRow) : DeploymentMetricPoint :=
  ((joinedRows db run).insertionSort MetricRow.before).foldl DeploymentMetricPoint.addRow
    (DeploymentMetricPoint.start run)

/-- The points are those of the newest `limit` runs of the window, or of all its runs if there are
no more, each as `db` has it. -/
structure NewestPoints (db : Database) (window : Window) (limit : Nat)
    (points : List DeploymentMetricPoint) : Prop where
  length_eq : points.length = min limit (windowRuns db window).length
  nodup : (points.map fun point => point.runId).Nodup
  whole : ∀ point ∈ points, ∃ run ∈ windowRuns db window, point = pointOf db run
  newest : ∀ run ∈ windowRuns db window, run.id ∉ points.map (fun point => point.runId) →
    ∀ point ∈ points, run.createdAt ≤ point.createdAt

/-- The runs that have a row among the first ones, in the order in which they appear. -/
def keptRuns (db : Database) (window : Window) (limit : Nat) : List RunRow :=
  (firsts (fun row => row.run.id) ((metricRows db window).take (limit * 100))).map MetricRow.run

/-- The last `limit` of them. -/
def lastRuns (db : Database) (window : Window) (limit : Nat) : List RunRow :=
  (keptRuns db window limit).drop ((keptRuns db window limit).length - limit)

/-- A run that is as new as every run of the window that keeps no row. -/
def AsNewAsCut (db : Database) (window : Window) (limit : Nat) (run : RunRow) : Prop :=
  ∀ other ∈ windowRuns db window, other ∉ keptRuns db window limit →
    other.createdAt ≤ run.createdAt

instance (db : Database) (window : Window) (limit : Nat) :
    DecidablePred (AsNewAsCut db window limit) := fun run =>
  inferInstanceAs (Decidable (∀ other ∈ windowRuns db window,
    other ∉ keptRuns db window limit → other.createdAt ≤ run.createdAt))

/-- The rows that `LIMIT` cuts off. -/
def cutRows (db : Database) (window : Window) (limit : Nat) : List MetricRow :=
  (metricRows db window).drop (limit * 100)

/-- When the query on the archived tables loses nothing that it had on `db`. -/
structure Undisturbed (db archived : Database) (archivedIDs : List RunId) (window : Window)
    (limit : Nat) : Prop where
  /-- Enough runs keep a row and are as new as those that keep none. -/
  newest : min limit (windowRuns archived window).length ≤
    (keptRuns archived window limit).countP fun run => AsNewAsCut archived window limit run
  /-- None of the last runs lost a recorded step to the archive. -/
  unarchived : ∀ run ∈ lastRuns archived window limit, run.id ∈ archivedIDs →
    ∀ row ∈ joinedRows db run, ¬ row.Recorded
  /-- None of the last runs lost one to `LIMIT`. -/
  uncut : ∀ run ∈ lastRuns archived window limit, ∀ row ∈ cutRows archived window limit,
    row.run = run → ¬ row.Recorded

/-! ## What archiving leaves of the rows -/

variable {store uploaded : ObjectStore}

theorem archiveRun_tables {encoding : Encoding} {db archived : Database}
    {now : Time} {runID : RunId}
    (harchive : archiveRun encoding db store now runID = .ok (archived, uploaded)) :
    archived.runs = db.runs ∧
      archived.steps = db.steps.deleteWhere fun row => row.monitorRunId = runID := by
  unfold archiveRun at harchive
  cases hget : get encoding (some store) db now runID with
  | error error => simp [hget] at harchive
  | ok run =>
    by_cases hrow : db.runs.get? runID = none
    · simp [hget, Database.commitArchive, hrow] at harchive
    · simp only [hget, Database.commitArchive, hrow, ↓reduceIte, Except.ok.injEq,
        Prod.mk.injEq] at harchive
      rw [← harchive.1]
      exact ⟨rfl, rfl⟩

/-- **Archived runs.**  The runs stay, and the steps of the archived ones are gone. -/
theorem archiveRuns_tables {encoding : Encoding} {archivals : List (Time × RunId)}
    {db archived : Database}
    (harchive : archiveRuns encoding (db, store) archivals = .ok (archived, uploaded)) :
    archived.runs = db.runs ∧
      archived.steps.rows =
        db.steps.rows.filter fun row => row.monitorRunId ∉ archivals.map Prod.snd := by
  induction archivals generalizing db store with
  | nil =>
    rw [archiveRuns, Except.ok.injEq, Prod.mk.injEq] at harchive
    rw [← harchive.1]
    simp
  | cons archival archivals ih =>
    obtain ⟨now, runID⟩ := archival
    rw [archiveRuns] at harchive
    cases hone : archiveRun encoding db store now runID with
    | error error => simp [hone] at harchive
    | ok next =>
      obtain ⟨first, stored⟩ := next
      obtain ⟨hruns, hsteps⟩ := archiveRun_tables hone
      simp only [hone] at harchive
      obtain ⟨hruns', hsteps'⟩ := ih harchive
      refine ⟨hruns'.trans hruns, ?_⟩
      rw [hsteps', hsteps, Table.deleteWhere, List.filter_filter]
      apply List.filter_congr
      intro row _
      rw [List.map_cons]
      by_cases hrun : row.monitorRunId = runID <;> simp [hrun]

/-- The database after some of the runs were archived. -/
structure ArchivedFrom (db archived : Database) (archivedIDs : List RunId) : Prop where
  runs_eq : archived.runs = db.runs
  steps_eq : archived.steps.rows = db.steps.rows.filter fun row => row.monitorRunId ∉ archivedIDs

section ArchivedFrom

variable {db archived : Database} {archivedIDs : List RunId} {window : Window} {limit : Nat}
  {run : RunRow}

theorem windowRuns_archived (h : ArchivedFrom db archived archivedIDs) :
    windowRuns archived window = windowRuns db window := by
  rw [windowRuns, windowRuns, h.runs_eq]

theorem joinedRows_archived (h : ArchivedFrom db archived archivedIDs) :
    joinedRows archived run =
      if run.id ∈ archivedIDs then [⟨run, none⟩] else joinedRows db run := by
  have hrows : (archived.steps.rows.filter fun step => step.monitorRunId = run.id) =
      if run.id ∈ archivedIDs then []
      else db.steps.rows.filter fun step => step.monitorRunId = run.id := by
    rw [h.steps_eq, List.filter_filter]
    by_cases hmem : run.id ∈ archivedIDs
    · grind [List.filter_eq_nil_iff]
    · grind
  unfold joinedRows
  rw [hrows]
  by_cases hmem : run.id ∈ archivedIDs
  · rw [if_pos hmem, if_pos hmem]
  · rw [if_neg hmem, if_neg hmem]

end ArchivedFrom

/-! ## The rows of one run -/

instance : Std.Total MetricRow.before where
  total a b := by
    have htotal : nullsLast a.step b.step ∨ nullsLast b.step a.step := by
      cases a.step with
      | none =>
        cases b.step with
        | none => exact Or.inl trivial
        | some _ => exact Or.inr trivial
      | some s =>
        cases b.step with
        | none => exact Or.inl trivial
        | some t => exact le_total s.stepOrder t.stepOrder
    rcases lt_trichotomy a.run.createdAt b.run.createdAt with h | h | h
    · exact Or.inl (Or.inl h)
    · exact htotal.imp (fun hstep => Or.inr ⟨h, hstep⟩) fun hstep => Or.inr ⟨h.symm, hstep⟩
    · exact Or.inr (Or.inl h)

theorem nullsLast_trans {a b c : Option StepRow} (hab : nullsLast a b) (hbc : nullsLast b c) :
    nullsLast a c := by
  cases c with
  | none => cases a <;> exact trivial
  | some r =>
    cases b with
    | none => exact hbc.elim
    | some s =>
      cases a with
      | none => exact hab.elim
      | some t => exact le_trans (a := t.stepOrder) hab hbc

instance : IsTrans MetricRow MetricRow.before where
  trans a b c hab hbc := by
    rcases hab with hab | ⟨hab, hsteps⟩
    · rcases hbc with hbc | ⟨hbc, -⟩
      · exact Or.inl (hab.trans hbc)
      · exact Or.inl (hbc ▸ hab)
    · rcases hbc with hbc | ⟨hbc, hsteps'⟩
      · exact Or.inl (hab ▸ hbc)
      · exact Or.inr ⟨hab.trans hbc, nullsLast_trans hsteps hsteps'⟩

section Rows

variable {db : Database} {window : Window} {limit : Nat} {run : RunRow} {row : MetricRow}

theorem run_of_mem_joinedRows (hrow : row ∈ joinedRows db run) : row.run = run := by
  unfold joinedRows at hrow
  split at hrow
  · rw [List.mem_singleton.mp hrow]
  · obtain ⟨step, -, rfl⟩ := List.mem_map.mp hrow
    rfl

theorem mem_windowRuns : run ∈ windowRuns db window ↔ run ∈ db.runs ∧ window.Contains run := by
  simp [windowRuns, Table.mem_def]

theorem nodup_windowRuns (db : Database) (window : Window) :
    ((windowRuns db window).map fun run => run.id).Nodup :=
  db.runs.nodup.sublist (List.filter_sublist.map _)

theorem eq_of_id_eq {other : RunRow} (hrun : run ∈ windowRuns db window)
    (hother : other ∈ windowRuns db window) (hid : run.id = other.id) : run = other :=
  Table.eq_of_key_eq (mem_windowRuns.mp hrun).1 (mem_windowRuns.mp hother).1 hid

theorem mem_metricRows :
    row ∈ metricRows db window ↔ ∃ run ∈ windowRuns db window, row ∈ joinedRows db run := by
  rw [metricRows, List.mem_insertionSort, List.mem_flatMap]

theorem run_mem_of_mem_metricRows (hrow : row ∈ metricRows db window) :
    row.run ∈ windowRuns db window := by
  obtain ⟨run, hrun, hjoined⟩ := mem_metricRows.mp hrow
  rw [run_of_mem_joinedRows hjoined]
  exact hrun

theorem filter_metricRows (hrun : run ∈ windowRuns db window) :
    ((metricRows db window).filter fun row => row.run.id = run.id) =
      (joinedRows db run).insertionSort MetricRow.before := by
  have hjoin : ∀ runs : List RunRow, (runs.map fun run => run.id).Nodup → run ∈ runs →
      ((runs.flatMap (joinedRows db)).filter fun row => row.run.id = run.id) =
        joinedRows db run := by
    intro runs hnodup hmem
    have hsame : ((joinedRows db run).filter fun row => row.run.id = run.id) =
        joinedRows db run := by
      rw [List.filter_eq_self]
      intro row hrow
      simp [run_of_mem_joinedRows hrow]
    have hother : ∀ others : List RunRow, run.id ∉ others.map (fun run => run.id) →
        ((others.flatMap (joinedRows db)).filter fun row => row.run.id = run.id) = [] := by
      intro others hfresh
      rw [List.filter_eq_nil_iff]
      intro row hrow
      obtain ⟨other, hotherMem, hjoined⟩ := List.mem_flatMap.mp hrow
      have hne : other.id ≠ run.id := fun h =>
        hfresh (h ▸ List.mem_map_of_mem (f := fun run => run.id) hotherMem)
      simpa [run_of_mem_joinedRows hjoined] using hne
    induction runs with
    | nil => cases hmem
    | cons first runs ih =>
      rw [List.map_cons, List.nodup_cons] at hnodup
      rw [List.flatMap_cons, List.filter_append]
      rcases List.mem_cons.mp hmem with rfl | hmem
      · rw [hsame, hother runs hnodup.1, List.append_nil]
      · have hfirst := hother [first] (by
          have hne : run.id ≠ first.id := fun h =>
            hnodup.1 (h ▸ List.mem_map_of_mem (f := fun run => run.id) hmem)
          simpa using hne)
        rw [List.flatMap_singleton] at hfirst
        rw [hfirst, List.nil_append, ih hnodup.2 hmem]
  rw [metricRows, filter_insertionSort, hjoin _ (nodup_windowRuns db window) hrun]

end Rows

/-! ## The points of the rows -/

section Points

variable {db : Database} {window : Window} {limit : Nat} {run : RunRow}

@[simp] theorem start_runId (run : RunRow) : (DeploymentMetricPoint.start run).runId = run.id := rfl

@[simp] theorem addRow_runId (point : DeploymentMetricPoint) (row : MetricRow) :
    (point.addRow row).runId = point.runId := by
  unfold DeploymentMetricPoint.addRow
  split <;> rfl

@[simp] theorem addRow_createdAt (point : DeploymentMetricPoint) (row : MetricRow) :
    (point.addRow row).createdAt = point.createdAt := by
  unfold DeploymentMetricPoint.addRow
  split <;> rfl

variable {point : DeploymentMetricPoint}

theorem addRow_of_not_recorded {row : MetricRow}
    (hrow : ¬ row.Recorded) : point.addRow row = point := by
  have hnone : row.recorded? = none := by simpa [MetricRow.Recorded] using hrow
  rw [DeploymentMetricPoint.addRow, hnone]

theorem length_addRow_steps (point : DeploymentMetricPoint) (row : MetricRow) :
    (point.addRow row).steps.length = point.steps.length + if row.Recorded then 1 else 0 := by
  by_cases hrow : row.Recorded
  · obtain ⟨recorded, hsome⟩ := Option.isSome_iff_exists.mp hrow
    simp [DeploymentMetricPoint.addRow, hsome, hrow]
  · rw [addRow_of_not_recorded hrow, if_neg hrow, Nat.add_zero]

theorem foldl_addRow_runId (rows : List MetricRow) (point : DeploymentMetricPoint) :
    (rows.foldl DeploymentMetricPoint.addRow point).runId = point.runId :=
  name_foldl (fun point : DeploymentMetricPoint => point.runId) addRow_runId rows point

theorem foldl_addRow_createdAt (rows : List MetricRow) (point : DeploymentMetricPoint) :
    (rows.foldl DeploymentMetricPoint.addRow point).createdAt = point.createdAt :=
  name_foldl (fun point : DeploymentMetricPoint => point.createdAt) addRow_createdAt rows point

theorem length_foldl_addRow_steps (rows : List MetricRow) (point : DeploymentMetricPoint) :
    (rows.foldl DeploymentMetricPoint.addRow point).steps.length =
      point.steps.length + rows.countP fun row => row.Recorded := by
  induction rows generalizing point with
  | nil => simp
  | cons row rows ih =>
    grind [length_addRow_steps, decide_true]

theorem foldl_addRow_of_not_recorded {rows : List MetricRow}
    (hrows : ∀ row ∈ rows, ¬ row.Recorded) :
    rows.foldl DeploymentMetricPoint.addRow point = point := by
  induction rows with
  | nil => rfl
  | cons row rows ih =>
    rw [List.forall_mem_cons] at hrows
    rw [List.foldl_cons, addRow_of_not_recorded hrows.1, ih hrows.2]

/-- **Fewer rows.**  A point stays the same exactly when the rows that are left out had no
recorded step. -/
theorem foldl_addRow_append_iff {rows others : List MetricRow} :
    rows.foldl DeploymentMetricPoint.addRow point =
        (rows ++ others).foldl DeploymentMetricPoint.addRow point ↔
      ∀ row ∈ others, ¬ row.Recorded := by
  rw [List.foldl_append]
  constructor
  · intro h
    have hlength := congrArg (fun point => point.steps.length) h
    simp only [length_foldl_addRow_steps] at hlength
    have hzero : others.countP (fun row => row.Recorded) = 0 := by omega
    simpa using hzero
  · intro h
    exact (foldl_addRow_of_not_recorded h).symm

/-- The rows of one run that `LIMIT` leaves, as its point. -/
def keptPoint (db : Database) (window : Window) (limit : Nat) (run : RunRow) :
    DeploymentMetricPoint :=
  (((metricRows db window).take (limit * 100)).filter fun row => row.run.id = run.id).foldl
    DeploymentMetricPoint.addRow (DeploymentMetricPoint.start run)

@[simp] theorem keptPoint_runId : (keptPoint db window limit run).runId = run.id := by
  rw [keptPoint, foldl_addRow_runId, start_runId]

@[simp] theorem keptPoint_createdAt :
    (keptPoint db window limit run).createdAt = run.createdAt :=
  foldl_addRow_createdAt _ _

@[simp] theorem pointOf_runId : (pointOf db run).runId = run.id := by
  rw [pointOf, foldl_addRow_runId, start_runId]

theorem metricPoints_take :
    metricPoints ((metricRows db window).take (limit * 100)) =
      (keptRuns db window limit).map (keptPoint db window limit) := by
  rw [metricPoints, foldl_collectRow (fun row : MetricRow => row.run.id) (fun point => point.runId)
    (fun row => DeploymentMetricPoint.start row.run) (fun _ => rfl) addRow_runId, keptRuns,
    List.map_map]
  rfl

/-- **The query** returns the points of the last runs that keep a row. -/
theorem metricPointsBetween_eq :
    metricPointsBetween db window limit =
      (lastRuns db window limit).map (keptPoint db window limit) := by
  have hpoints : metricPoints ((metricRows db window).take (limit * 100)) =
      (keptRuns db window limit).map (keptPoint db window limit) := metricPoints_take
  unfold metricPointsBetween lastRuns
  rw [hpoints, List.map_drop]
  simp only [List.length_map]
  by_cases hlength : (keptRuns db window limit).length > limit
  · simp only [hlength, ↓reduceIte]
  · have hzero : (keptRuns db window limit).length - limit = 0 := by omega
    simp only [hlength, ↓reduceIte, hzero, List.drop_zero]

/-! ## Runs that keep a row -/

theorem mem_keptRuns_iff :
    run ∈ keptRuns db window limit ↔
      ∃ row ∈ (metricRows db window).take (limit * 100), row.run = run := by
  constructor
  · intro hrun
    obtain ⟨row, hrow, rfl⟩ := List.mem_map.mp hrun
    exact ⟨row, (firsts_sublist _ _).subset hrow, rfl⟩
  · rintro ⟨row, hrow, rfl⟩
    have hkey := (mem_map_firsts fun row : MetricRow => row.run.id).mpr
      (List.mem_map_of_mem (f := fun row : MetricRow => row.run.id) hrow)
    obtain ⟨first, hfirst, hid⟩ := List.mem_map.mp hkey
    have hmem := List.mem_of_mem_take ((firsts_sublist _ _).subset hfirst)
    have heq : first.run = row.run :=
      eq_of_id_eq (run_mem_of_mem_metricRows hmem)
        (run_mem_of_mem_metricRows (List.mem_of_mem_take hrow)) hid
    exact List.mem_map.mpr ⟨first, hfirst, heq⟩

theorem mem_windowRuns_of_mem_keptRuns (hrun : run ∈ keptRuns db window limit) :
    run ∈ windowRuns db window := by
  obtain ⟨row, hrow, rfl⟩ := mem_keptRuns_iff.mp hrun
  exact run_mem_of_mem_metricRows (List.mem_of_mem_take hrow)

theorem nodup_map_keptRuns : ((keptRuns db window limit).map fun run => run.id).Nodup := by
  rw [keptRuns, List.map_map]
  exact nodup_map_firsts (fun row : MetricRow => row.run.id) _

theorem length_keptRuns_le :
    (keptRuns db window limit).length ≤ (windowRuns db window).length :=
  (List.subperm_of_subset (List.Nodup.of_map _ nodup_map_keptRuns) fun _ hrun =>
    mem_windowRuns_of_mem_keptRuns hrun).length_le

theorem pairwise_keptRuns :
    (keptRuns db window limit).Pairwise fun a b => a.createdAt ≤ b.createdAt := by
  have hsorted : (metricRows db window).Pairwise MetricRow.before :=
    List.pairwise_insertionSort _ _
  have hkept : (firsts (fun row => row.run.id)
      ((metricRows db window).take (limit * 100))).Pairwise MetricRow.before :=
    hsorted.sublist ((firsts_sublist _ _).trans (List.take_sublist _ _))
  rw [keptRuns, List.pairwise_map]
  refine hkept.imp fun hbefore => ?_
  rcases hbefore with hlt | ⟨heq, -⟩
  · exact le_of_lt hlt
  · exact le_of_eq heq

theorem mem_cutRows_of_id {row : MetricRow} (hrun : run ∈ windowRuns db window)
    (hrow : row ∈ cutRows db window limit) (hid : row.run.id = run.id) : row.run = run :=
  eq_of_id_eq (run_mem_of_mem_metricRows (List.mem_of_mem_drop hrow)) hrun hid

/-! ## The last runs -/

theorem lastRuns_sublist : (lastRuns db window limit).Sublist (keptRuns db window limit) :=
  List.drop_sublist _ _

theorem mem_windowRuns_of_mem_lastRuns (hrun : run ∈ lastRuns db window limit) :
    run ∈ windowRuns db window :=
  mem_windowRuns_of_mem_keptRuns (lastRuns_sublist.subset hrun)

theorem length_lastRuns :
    (lastRuns db window limit).length = min limit (keptRuns db window limit).length := by
  rw [lastRuns, List.length_drop]
  omega

theorem mem_map_id_lastRuns (hrun : run ∈ windowRuns db window) :
    run.id ∈ (lastRuns db window limit).map (fun run => run.id) ↔
      run ∈ lastRuns db window limit := by
  constructor
  · intro hid
    obtain ⟨other, hother, hid⟩ := List.mem_map.mp hid
    exact eq_of_id_eq (mem_windowRuns_of_mem_lastRuns hother) hrun hid ▸ hother
  · exact fun hmem => List.mem_map_of_mem hmem

theorem map_runId_metricPointsBetween :
    (metricPointsBetween db window limit).map (fun point => point.runId) =
      (lastRuns db window limit).map fun run => run.id := by
  rw [metricPointsBetween_eq, List.map_map]
  exact List.map_congr_left fun run _ => keptPoint_runId

theorem length_metricPointsBetween :
    (metricPointsBetween db window limit).length =
      min limit (keptRuns db window limit).length := by
  rw [metricPointsBetween_eq, List.length_map, length_lastRuns]

theorem createdAt_le_lastRuns {last : RunRow} (hkept : run ∈ keptRuns db window limit)
    (hout : run ∉ lastRuns db window limit) (hlast : last ∈ lastRuns db window limit) :
    run.createdAt ≤ last.createdAt := by
  have hsorted : (keptRuns db window limit).Pairwise fun a b => a.createdAt ≤ b.createdAt :=
    pairwise_keptRuns
  rw [← List.take_append_drop ((keptRuns db window limit).length - limit)
    (keptRuns db window limit)] at hkept hsorted
  have hfront := (List.mem_append.mp hkept).resolve_right hout
  exact (List.pairwise_append.mp hsorted).2.2 run hfront last hlast

/-- **The newest runs.**  The query returns as many runs as it should, and no run that is older
than one it leaves out, exactly when enough runs keep a row and are as new as those that do not. -/
theorem newest_metricPointsBetween_iff :
    ((metricPointsBetween db window limit).length = min limit (windowRuns db window).length ∧
      ∀ run ∈ windowRuns db window, run ∉ lastRuns db window limit →
        ∀ last ∈ lastRuns db window limit, run.createdAt ≤ last.createdAt) ↔
      min limit (windowRuns db window).length ≤
        (keptRuns db window limit).countP fun run => AsNewAsCut db window limit run := by
  rw [length_metricPointsBetween]
  have hkept : (keptRuns db window limit).length ≤ (windowRuns db window).length :=
    length_keptRuns_le
  constructor
  · rintro ⟨hlength, hnewest⟩
    have hall : ∀ run ∈ lastRuns db window limit, AsNewAsCut db window limit run :=
      fun run hrun other hother hcut =>
        hnewest other hother (fun hin => hcut (lastRuns_sublist.subset hin)) run hrun
    calc min limit (windowRuns db window).length
      _ = (lastRuns db window limit).length := by rw [length_lastRuns, hlength]
      _ = (lastRuns db window limit).countP fun run => AsNewAsCut db window limit run :=
          (List.countP_eq_length.mpr fun run hrun => decide_eq_true (hall run hrun)).symm
      _ ≤ (keptRuns db window limit).countP fun run => AsNewAsCut db window limit run :=
          lastRuns_sublist.countP_le
  · intro hcount
    have hcountLe : (keptRuns db window limit).countP
        (fun run => AsNewAsCut db window limit run) ≤ (keptRuns db window limit).length :=
      List.countP_le_length
    have hall : ∀ run ∈ lastRuns db window limit, AsNewAsCut db window limit run := by
      refine forall_mem_drop_of_le_countP ?_ ?_
      · exact pairwise_keptRuns.imp fun hle hnewer other hother hcut =>
          (hnewer other hother hcut).trans hle
      · rw [← lastRuns, length_lastRuns]
        omega
    refine ⟨by omega, fun run hrun hout last hlast => ?_⟩
    by_cases hmem : run ∈ keptRuns db window limit
    · exact createdAt_le_lastRuns hmem hout hlast
    · exact hall last hlast run hrun hmem

end Points

/-! ## Points before and after -/

section Archived

variable {db archived : Database} {archivedIDs : List RunId} {window : Window} {limit : Nat}
  {run : RunRow}

theorem not_recorded_none (run : RunRow) : ¬ (⟨run, none⟩ : MetricRow).Recorded := by
  simp [MetricRow.Recorded, MetricRow.recorded?]

/-- **One point.**  It is the point from before the archiving exactly when no recorded step of the
run was archived and none was cut off. -/
theorem keptPoint_eq_iff (h : ArchivedFrom db archived archivedIDs)
    (hrun : run ∈ windowRuns archived window) :
    keptPoint archived window limit run = pointOf db run ↔
      (run.id ∈ archivedIDs → ∀ row ∈ joinedRows db run, ¬ row.Recorded) ∧
        ∀ row ∈ cutRows archived window limit, row.run = run → ¬ row.Recorded := by
  let kept := ((metricRows archived window).take (limit * 100)).filter
    fun row => row.run.id = run.id
  let cut := (cutRows archived window limit).filter fun row => row.run.id = run.id
  have hsplit : kept ++ cut = (joinedRows archived run).insertionSort MetricRow.before := by
    rw [← filter_metricRows hrun, ← List.filter_append, cutRows, List.take_append_drop]
  have hcut : (∀ row ∈ cut, ¬ row.Recorded) ↔
      ∀ row ∈ cutRows archived window limit, row.run = run → ¬ row.Recorded := by
    grind [mem_cutRows_of_id]
  by_cases hmem : run.id ∈ archivedIDs
  · -- the run was archived, and all its rows are one row without a step
    rw [joinedRows_archived h, if_pos hmem] at hsplit
    have hnone : ∀ row ∈ kept ++ cut, ¬ row.Recorded := by
      intro row hrow
      rw [hsplit, List.mem_insertionSort, List.mem_singleton] at hrow
      rw [hrow]
      exact not_recorded_none run
    have hstart : keptPoint archived window limit run = DeploymentMetricPoint.start run :=
      foldl_addRow_of_not_recorded fun row hrow => hnone row (List.mem_append_left cut hrow)
    have hcutNone : ∀ row ∈ cutRows archived window limit, row.run = run → ¬ row.Recorded :=
      hcut.mp fun row hrow => hnone row (List.mem_append_right kept hrow)
    let rows := (joinedRows db run).insertionSort MetricRow.before
    have hpoint : [].foldl DeploymentMetricPoint.addRow (DeploymentMetricPoint.start run) =
        ([] ++ rows).foldl DeploymentMetricPoint.addRow (DeploymentMetricPoint.start run) ↔
        ∀ row ∈ rows, ¬ row.Recorded := foldl_addRow_append_iff
    rw [List.foldl_nil, List.nil_append] at hpoint
    rw [hstart, pointOf, hpoint]
    simp only [rows, List.mem_insertionSort]
    exact ⟨fun hall => ⟨fun _ => hall, hcutNone⟩, fun hall => hall.1 hmem⟩
  · -- the run has all its rows, and the point is that of the ones that are kept
    grind [joinedRows_archived, pointOf, keptPoint, foldl_addRow_append_iff]

theorem whole_metricPointsBetween_iff (h : ArchivedFrom db archived archivedIDs) :
    (∀ point ∈ metricPointsBetween archived window limit,
        ∃ run ∈ windowRuns db window, point = pointOf db run) ↔
      ∀ run ∈ lastRuns archived window limit,
        keptPoint archived window limit run = pointOf db run := by
  have hmem : ∀ run ∈ lastRuns archived window limit, run ∈ windowRuns db window := fun run hrun =>
    windowRuns_archived h ▸ mem_windowRuns_of_mem_lastRuns hrun
  rw [metricPointsBetween_eq, List.forall_mem_map]
  constructor
  · grind [keptPoint_runId, pointOf_runId, eq_of_id_eq]
  · exact fun hall run hrun => ⟨run, hmem run hrun, hall run hrun⟩

theorem newestPoints_iff (h : ArchivedFrom db archived archivedIDs) :
    NewestPoints db window limit (metricPointsBetween archived window limit) ↔
      ((metricPointsBetween archived window limit).length =
          min limit (windowRuns archived window).length ∧
        ∀ run ∈ windowRuns archived window, run ∉ lastRuns archived window limit →
          ∀ last ∈ lastRuns archived window limit, run.createdAt ≤ last.createdAt) ∧
      ∀ run ∈ lastRuns archived window limit,
        keptPoint archived window limit run = pointOf db run := by
  have hnewest : (∀ run ∈ windowRuns db window,
      run.id ∉ (metricPointsBetween archived window limit).map (fun point => point.runId) →
      ∀ point ∈ metricPointsBetween archived window limit, run.createdAt ≤ point.createdAt) ↔
      ∀ run ∈ windowRuns archived window, run ∉ lastRuns archived window limit →
        ∀ last ∈ lastRuns archived window limit, run.createdAt ≤ last.createdAt := by
    rw [map_runId_metricPointsBetween, windowRuns_archived h]
    refine forall₂_congr fun run hrun => ?_
    rw [mem_map_id_lastRuns (windowRuns_archived h ▸ hrun), metricPointsBetween_eq,
      List.forall_mem_map]
    simp only [keptPoint_createdAt]
  have hnodup : ((metricPointsBetween archived window limit).map
      fun point => point.runId).Nodup := by
    rw [map_runId_metricPointsBetween]
    exact nodup_map_keptRuns.sublist (lastRuns_sublist.map _)
  rw [← whole_metricPointsBetween_iff h, ← hnewest, windowRuns_archived h]
  constructor
  · exact fun ⟨hlength, _, hwhole, hnew⟩ => ⟨⟨hlength, hnew⟩, hwhole⟩
  · exact fun ⟨⟨hlength, hnew⟩, hwhole⟩ => ⟨hlength, hnodup, hwhole, hnew⟩

/-- **Deployment baselines and archiving.**  After any runs were archived, the query returns the
points of the newest runs of the window, as they were before, if and only if enough of the newest
runs keep a row within `LIMIT` and none of the last of them lost a recorded step, to the archive
or to `LIMIT`. -/
theorem metricPointsBetween_newest_iff {encoding : Encoding} {archivals : List (Time × RunId)}
    {store uploaded : ObjectStore}
    (harchive : archiveRuns encoding (db, store) archivals = .ok (archived, uploaded)) :
    NewestPoints db window limit (metricPointsBetween archived window limit) ↔
      Undisturbed db archived (archivals.map Prod.snd) window limit := by
  have h : ArchivedFrom db archived (archivals.map Prod.snd) :=
    ⟨(archiveRuns_tables harchive).1, (archiveRuns_tables harchive).2⟩
  have hpoint : (∀ run ∈ lastRuns archived window limit,
      keptPoint archived window limit run = pointOf db run) ↔
      ∀ run ∈ lastRuns archived window limit,
        (run.id ∈ archivals.map Prod.snd → ∀ row ∈ joinedRows db run, ¬ row.Recorded) ∧
          ∀ row ∈ cutRows archived window limit, row.run = run → ¬ row.Recorded :=
    forall₂_congr fun _ hrun => keptPoint_eq_iff h (mem_windowRuns_of_mem_lastRuns hrun)
  rw [newestPoints_iff h, newest_metricPointsBetween_iff, hpoint]
  constructor
  · exact fun ⟨hnewest, hlost⟩ =>
      ⟨hnewest, fun run hrun => (hlost run hrun).1, fun run hrun => (hlost run hrun).2⟩
  · exact fun hall => ⟨hall.newest, fun run hrun => ⟨hall.unarchived run hrun, hall.uncut run hrun⟩⟩

end Archived

/-! ### A baseline with one run -/

def monthWindow : Window where
  monitorID := 1
  revisionID := 1
  start := 0
  stop := days 30

def timedStep : StepRow :=
  { loginStep with timing := [("apiResponseTimeMs", .num 120)] }

/-- The tables of `checkoutRun` with one step. -/
def oneStepDatabase (step : StepRow) : Database :=
  checkoutDatabase ⟨[step], List.nodup_singleton _⟩

theorem exists_archiveRuns_checkout (step : StepRow) :
    ∃ archived uploaded, archiveRuns emptyEncoding (oneStepDatabase step, .empty) [(days 8, 1)] =
      .ok (archived, uploaded) := by
  have hrow : (oneStepDatabase step).runs.get? 1 = some checkoutRun := rfl
  have hmanifest : (oneStepDatabase step).manifests.get? 1 = none := rfl
  obtain ⟨archived, uploaded, harchive⟩ :=
    exists_archiveRun emptyEncoding .empty (days 8) hrow hmanifest
  refine ⟨archived, uploaded, ?_⟩
  rw [archiveRuns, harchive]
  rfl

/-- An archived step that had no response time leaves the baseline as it was. -/
theorem metricPointsBetween_newest_iff_login :
    ∃ archived, NewestPoints (oneStepDatabase loginStep) monthWindow 5000
      (metricPointsBetween archived monthWindow 5000) := by
  obtain ⟨archived, uploaded, harchive⟩ := exists_archiveRuns_checkout loginStep
  have h : ArchivedFrom (oneStepDatabase loginStep) archived [1] :=
    ⟨(archiveRuns_tables harchive).1, (archiveRuns_tables harchive).2⟩
  have hwindow : windowRuns archived monthWindow = [checkoutRun] := windowRuns_archived h
  have hrows : metricRows archived monthWindow = [⟨checkoutRun, none⟩] := by
    rw [metricRows, hwindow, List.flatMap_singleton, joinedRows_archived h]
    rfl
  have hkept : keptRuns archived monthWindow 5000 = [checkoutRun] := by
    rw [keptRuns, hrows]
    rfl
  refine ⟨archived, (metricPointsBetween_newest_iff harchive).mpr ⟨?_, ?_, ?_⟩⟩
  · have hnew : AsNewAsCut archived monthWindow 5000 checkoutRun := by
      intro other hother hcut
      rw [hkept, ← hwindow] at hcut
      exact absurd hother hcut
    rw [hwindow, hkept, List.countP_singleton, decide_eq_true hnew]
    decide
  · intro run hrun _ row hrow
    have hcheckout : run = checkoutRun := by
      have hmem := mem_windowRuns_of_mem_lastRuns hrun
      rw [hwindow] at hmem
      exact List.mem_singleton.mp hmem
    subst hcheckout
    have hone : joinedRows (oneStepDatabase loginStep) checkoutRun =
        [⟨checkoutRun, some loginStep⟩] := rfl
    rw [hone, List.mem_singleton] at hrow
    subst hrow
    decide
  · intro run _ row hrow _
    have hnone : cutRows archived monthWindow 5000 = [] := by
      rw [cutRows, hrows]
      rfl
    rw [hnone] at hrow
    exact absurd hrow List.not_mem_nil

/-- An archived step with a response time is missing in the baseline. -/
theorem metricPointsBetween_misses_step :
    ¬ ∀ (encoding : Encoding) (db archived : Database) (store uploaded : ObjectStore)
        (archivals : List (Time × RunId)) (window : Window) (limit : Nat),
        archiveRuns encoding (db, store) archivals = .ok (archived, uploaded) →
        NewestPoints db window limit (metricPointsBetween archived window limit) := by
  intro hall
  obtain ⟨archived, uploaded, harchive⟩ := exists_archiveRuns_checkout timedStep
  have h : ArchivedFrom (oneStepDatabase timedStep) archived [1] :=
    ⟨(archiveRuns_tables harchive).1, (archiveRuns_tables harchive).2⟩
  have hwindow : windowRuns archived monthWindow = [checkoutRun] := windowRuns_archived h
  have hrows : metricRows archived monthWindow = [⟨checkoutRun, none⟩] := by
    rw [metricRows, hwindow, List.flatMap_singleton, joinedRows_archived h]
    rfl
  have hpoints : metricPointsBetween archived monthWindow 5000 =
      [DeploymentMetricPoint.start checkoutRun] := by
    rw [metricPointsBetween, hrows]
    rfl
  have hnewest := hall emptyEncoding (oneStepDatabase timedStep) archived .empty uploaded
    [(days 8, 1)] monthWindow 5000 harchive
  rw [hpoints] at hnewest
  obtain ⟨run, hrun, hpoint⟩ := hnewest.whole _ (List.mem_singleton_self _)
  have hcheckout : run = checkoutRun := List.mem_singleton.mp hrun
  subst hcheckout
  have hsteps := congrArg (fun point => point.steps.length) hpoint
  have htimed : (pointOf (oneStepDatabase timedStep) checkoutRun).steps.length = 1 := by decide
  rw [htimed] at hsteps
  exact absurd hsteps (by decide)

end Rhythm.Retention
