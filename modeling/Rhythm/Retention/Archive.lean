import Rhythm.Retention.Evidence

/-!
# Rhythm.Retention.Archive

What the readers of a run see before and after `archiveRun` has moved its
evidence into the object store.  `Get` restores the evidence from the object;
`GetStep`, `ListEvents` and `GetDiagnosticsSummary` read the tables alone, so
each of them is the same only where its table had nothing of the run.
-/

namespace Rhythm.Retention

open Runs

/-! ## What archiving leaves -/

section DeleteEvidence

variable {db : Database} {runID : RunId}

@[simp] theorem runs_deleteEvidence : (db.deleteEvidence runID).runs = db.runs := rfl

@[simp] theorem manifests_deleteEvidence :
    (db.deleteEvidence runID).manifests = db.manifests := rfl

@[simp] theorem mem_steps_deleteEvidence {row : StepRow} :
    row ∈ (db.deleteEvidence runID).steps ↔ row ∈ db.steps ∧ row.monitorRunId ≠ runID :=
  Table.mem_deleteWhere

@[simp] theorem stepRows_deleteEvidence : stepRows (db.deleteEvidence runID) runID = [] := by
  simp [stepRows, sortedBy, Database.deleteEvidence, Table.deleteWhere]

@[simp] theorem eventRows_deleteEvidence : eventRows (db.deleteEvidence runID) runID = [] := by
  simp [eventRows, sortedBy, Database.deleteEvidence, Table.deleteWhere]

end DeleteEvidence

/-! ## Rows of a run -/

theorem mem_sortedBy {α : Type} {key : α → Int} {rows : List α} {row : α} :
    row ∈ sortedBy key rows ↔ row ∈ rows :=
  (List.perm_insertionSort _ rows).mem_iff

theorem length_sortedBy {α : Type} (key : α → Int) (rows : List α) :
    (sortedBy key rows).length = rows.length :=
  List.length_insertionSort _ rows

variable {db : Database} {runID : RunId}

theorem mem_stepRows {row : StepRow} :
    row ∈ stepRows db runID ↔ row ∈ db.steps ∧ row.monitorRunId = runID := by
  simp [stepRows, mem_sortedBy, Table.mem_def]

theorem length_eventRows (db : Database) (runID : RunId) :
    (db.events.rows.filter fun row => row.monitorRunId = runID).length =
      (eventRows db runID).length :=
  (length_sortedBy _ _).symm

def storedRun (db : Database) (row : RunRow) : Run :=
  ⟨row, withAttempts db (stepRows db row.id), eventRows db row.id⟩

variable {row : RunRow}

theorem storedRun_eq_of_empty (hsteps : stepRows db row.id = [])
    (hevents : eventRows db row.id = []) : storedRun db row = ⟨row, [], []⟩ := by
  rw [storedRun, hsteps, hevents]
  rfl

/-! ## Get -/

theorem get_of_no_manifest {encoding : Encoding} {store : Option ObjectStore}
    {now : Time} (hrow : db.runs.get? runID = some row)
    (hmanifest : db.manifests.get? runID = none) :
    get encoding store db now runID = .ok (storedRun db row) := by
  have hid : row.id = runID := Table.key_of_get? hrow
  have hrestore (store) : restoreWarmEvidence encoding db store now runID = .ok none := by
    simp [restoreWarmEvidence, hmanifest]
  cases store with
  | none => simp [get, hrow, storedRun, hid]
  | some store => simp [get, hrow, hrestore, storedRun, hid]

theorem get_of_no_store {encoding : Encoding} {now : Time} (hrow : db.runs.get? runID = some row) :
    get encoding none db now runID = .ok (storedRun db row) := by
  have hid : row.id = runID := Table.key_of_get? hrow
  simp [get, hrow, storedRun, hid]

/-! ## archiveRun -/

section ArchiveRun

variable {encoding : Encoding} {db archived : Database} {store uploaded : ObjectStore}
  {row : RunRow} {now later : Time} {runID : RunId}

theorem archiveRun_eq_ok (hrow : db.runs.get? runID = some row)
    (hmanifest : db.manifests.get? runID = none)
    (harchive : archiveRun encoding db store now runID = .ok (archived, uploaded)) :
    archived = { db with
      manifests := db.manifests.insertIgnore
        (manifestOf encoding runID (storedRun db row)) }.deleteEvidence runID ∧
    uploaded = store.put ⟨runID⟩ (storedRun db row) := by
  rw [archiveRun, get_of_no_manifest hrow hmanifest] at harchive
  simp only [Database.commitArchive, hrow, reduceCtorEq, ↓reduceIte, Except.ok.injEq,
    Prod.mk.injEq] at harchive
  exact ⟨harchive.1.symm, harchive.2.symm⟩

theorem exists_archiveRun (encoding : Encoding) (store : ObjectStore) (now : Time)
    (hrow : db.runs.get? runID = some row) (hmanifest : db.manifests.get? runID = none) :
    ∃ archived uploaded, archiveRun encoding db store now runID = .ok (archived, uploaded) := by
  rw [archiveRun, get_of_no_manifest hrow hmanifest]
  simp only [Database.commitArchive, hrow, reduceCtorEq, ↓reduceIte]
  exact ⟨_, _, rfl⟩

section After

variable (hrow : db.runs.get? runID = some row) (hmanifest : db.manifests.get? runID = none)
  (harchive : archiveRun encoding db store now runID = .ok (archived, uploaded))

include hrow hmanifest harchive

theorem get?_runs_archived : archived.runs.get? runID = some row := by
  rw [(archiveRun_eq_ok hrow hmanifest harchive).1]
  exact hrow

theorem stepRows_archived : stepRows archived runID = [] := by
  rw [(archiveRun_eq_ok hrow hmanifest harchive).1]
  exact stepRows_deleteEvidence

theorem eventRows_archived : eventRows archived runID = [] := by
  rw [(archiveRun_eq_ok hrow hmanifest harchive).1]
  exact eventRows_deleteEvidence

theorem get?_manifests_archived :
    archived.manifests.get? runID = some (manifestOf encoding runID (storedRun db row)) := by
  rw [(archiveRun_eq_ok hrow hmanifest harchive).1, manifests_deleteEvidence,
    Table.get?_insertIgnore, hmanifest]
  simp [manifestOf]

/-- **The restored run.**  Until the expiry, `restoreWarmEvidence` gives back the run that was
read, unless its text is longer than the limit. -/
theorem restoreWarmEvidence_archived (hlater : later < row.createdAt + retention) :
    restoreWarmEvidence encoding archived uploaded later runID =
      if encoding.size (storedRun db row) ≤ restoreLimit then .ok (some (storedRun db row))
      else .error (.failed "decode warm run evidence") := by
  have hmanifest' := get?_manifests_archived hrow hmanifest harchive
  have hrestorable :
      ((some (manifestOf encoding runID (storedRun db row))).filter fun manifest =>
        manifest.Restorable later) = some (manifestOf encoding runID (storedRun db row)) :=
    Option.filter_some_pos (decide_eq_true ⟨rfl, hlater⟩)
  have hobject : uploaded.get? ⟨runID⟩ = some ⟨⟨runID⟩, storedRun db row⟩ := by
    rw [(archiveRun_eq_ok hrow hmanifest harchive).2]
    exact ObjectStore.get?_put_self
  rw [restoreWarmEvidence, hmanifest', hrestorable]
  simp only [manifestOf, hobject]

theorem get_archived_warm (hlater : later < row.createdAt + retention) :
    get encoding (some uploaded) archived later runID =
      if encoding.size (storedRun db row) ≤ restoreLimit then .ok (storedRun db row)
      else .error (.failed "decode warm run evidence") := by
  rw [get, get?_runs_archived hrow hmanifest harchive]
  simp only [stepRows_archived hrow hmanifest harchive, ↓reduceIte,
    restoreWarmEvidence_archived hrow hmanifest harchive hlater]
  by_cases hsize : encoding.size (storedRun db row) ≤ restoreLimit <;> simp only [hsize, ↓reduceIte]

theorem get_archived_cold : get encoding none archived later runID = .ok ⟨row, [], []⟩ := by
  have hrow' := get?_runs_archived hrow hmanifest harchive
  have hid : row.id = runID := Table.key_of_get? hrow
  have hsteps : stepRows archived row.id = [] := by
    rw [hid]
    exact stepRows_archived hrow hmanifest harchive
  have hevents : eventRows archived row.id = [] := by
    rw [hid]
    exact eventRows_archived hrow hmanifest harchive
  rw [get_of_no_store hrow', storedRun_eq_of_empty hsteps hevents]

end After

/-! ## Reads before and after -/

/-- A run repository: its tables, and the warm store if it has one. -/
structure Repository where
  db : Database
  warmStore : Option ObjectStore

/-- The warm store of a repository that is configured with one, or is not. -/
def configured (warm : Bool) (store : ObjectStore) : Option ObjectStore :=
  if warm then some store else none

/-- The four readers return of a run in one state, at one time, what they return in the other. -/
structure ReadsSame (encoding : Encoding) (before after : Repository) (now later : Time)
    (runID : RunId) : Prop where
  get_eq : get encoding before.warmStore before.db now runID =
    get encoding after.warmStore after.db later runID
  getStep_eq : ∀ stepRunID, getStep before.db runID stepRunID = getStep after.db runID stepRunID
  listEvents_eq : ∀ afterSequence limit,
    listEvents before.db runID afterSequence limit = listEvents after.db runID afterSequence limit
  getDiagnosticsSummary_eq :
    getDiagnosticsSummary before.db runID = getDiagnosticsSummary after.db runID

/-- **Get.**  With the warm store it returns the same run as before, up to the limit on its text;
without one, only a run that had no evidence. -/
theorem get_archived_iff (warm : Bool) (hrow : db.runs.get? runID = some row)
    (hmanifest : db.manifests.get? runID = none)
    (harchive : archiveRun encoding db store now runID = .ok (archived, uploaded))
    (hlater : later < row.createdAt + retention) :
    get encoding (configured warm store) db now runID =
        get encoding (configured warm uploaded) archived later runID ↔
      if warm then encoding.size (storedRun db row) ≤ restoreLimit
      else storedRun db row = ⟨row, [], []⟩ := by
  rw [get_of_no_manifest hrow hmanifest]
  cases warm with
  | false =>
    simp only [configured, Bool.false_eq_true, ↓reduceIte,
      get_archived_cold hrow hmanifest harchive, Except.ok.injEq]
  | true =>
    simp only [configured, ↓reduceIte, get_archived_warm hrow hmanifest harchive hlater]
    by_cases hsize : encoding.size (storedRun db row) ≤ restoreLimit
    · simp only [hsize, ↓reduceIte]
    · simp only [hsize, ↓reduceIte, reduceCtorEq]

theorem getStep_eq_notFound_iff {stepRunID : StepRunId} :
    getStep db runID stepRunID = .error .notFound ↔
      ∀ step ∈ stepRows db runID, step.id ≠ stepRunID := by
  unfold getStep
  cases hget : db.steps.get? stepRunID with
  | none =>
    simp only [Option.filter_none, true_iff]
    intro step hstep
    exact Table.get?_eq_none_iff.mp hget step (mem_stepRows.mp hstep).1
  | some found =>
    obtain ⟨hmem, hid⟩ := Table.get?_eq_some_iff.mp hget
    by_cases hrun : found.monitorRunId = runID
    · simp only [Option.filter_some, hrun, decide_true, ↓reduceIte, reduceCtorEq, false_iff,
        not_forall, not_not]
      exact ⟨found, mem_stepRows.mpr ⟨hmem, hrun⟩, hid⟩
    · simp only [Option.filter_some, hrun, decide_false, Bool.false_eq_true, ↓reduceIte, true_iff]
      intro step hstep hstepId
      obtain ⟨hstepMem, hstepRun⟩ := mem_stepRows.mp hstep
      exact hrun (Table.eq_of_key_eq hmem hstepMem (hid.trans hstepId.symm) ▸ hstepRun)

/-- **GetStep.**  It returns what it did for every id only if the run had no step. -/
theorem getStep_archived_iff (hrow : db.runs.get? runID = some row)
    (hmanifest : db.manifests.get? runID = none)
    (harchive : archiveRun encoding db store now runID = .ok (archived, uploaded)) :
    (∀ stepRunID, getStep db runID stepRunID = getStep archived runID stepRunID) ↔
      stepRows db runID = [] := by
  have hsteps : stepRows archived runID = [] := stepRows_archived hrow hmanifest harchive
  have hafter : ∀ stepRunID, getStep archived runID stepRunID = .error .notFound := by
    intro stepRunID
    rw [getStep_eq_notFound_iff, hsteps]
    simp
  simp only [hafter, getStep_eq_notFound_iff]
  rw [List.eq_nil_iff_forall_not_mem]
  exact ⟨fun h step hstep => h step.id step hstep rfl, fun h _ step hstep => absurd hstep (h step)⟩

/-- **ListEvents.**  It returns what it did for every page only if the run had no event. -/
theorem listEvents_archived_iff (hrow : db.runs.get? runID = some row)
    (hmanifest : db.manifests.get? runID = none)
    (harchive : archiveRun encoding db store now runID = .ok (archived, uploaded)) :
    (∀ afterSequence limit,
        listEvents db runID afterSequence limit = listEvents archived runID afterSequence limit) ↔
      eventRows db runID = [] := by
  have hevents : eventRows archived runID = [] := eventRows_archived hrow hmanifest harchive
  have hrow' : archived.runs.get? runID = some row := get?_runs_archived hrow hmanifest harchive
  have hpage : ∀ state : Database, state.runs.get? runID = some row → ∀ afterSequence limit,
      ∃ events hasMore, listEvents state runID afterSequence limit =
        .ok ⟨events, (eventRows state runID).length, hasMore⟩ := by
    intro state hstate afterSequence limit
    simp only [listEvents, hstate, reduceCtorEq, and_false, ↓reduceIte, length_eventRows]
    exact ⟨_, _, rfl⟩
  constructor
  · intro h
    obtain ⟨events, hasMore, hbefore⟩ := hpage db hrow 0 0
    obtain ⟨events', hasMore', hafter⟩ := hpage archived hrow' 0 0
    have htotal := (hbefore.symm.trans (h 0 0)).trans hafter
    rw [hevents] at htotal
    simp only [Except.ok.injEq, EventPage.mk.injEq] at htotal
    exact List.length_eq_zero_iff.mp htotal.2.1
  · intro h afterSequence limit
    simp only [listEvents, length_eventRows, h, hevents, hrow, hrow']

/-- **GetDiagnosticsSummary.**  It reads the run and its steps, and nothing else. -/
theorem getDiagnosticsSummary_congr {other : Database}
    (hruns : db.runs.get? runID = other.runs.get? runID)
    (hsteps : stepRows db runID = stepRows other runID) :
    getDiagnosticsSummary db runID = getDiagnosticsSummary other runID := by
  rw [getDiagnosticsSummary, getDiagnosticsSummary, hruns, hsteps]

/-- **Archiving and the readers.**  After `archiveRun` of a run without a manifest, and until the
archive expires, the four readers return what they did if and only if the tables held no step and
no event of the run and, for a repository with the warm store, the text of the run is within the
limit that `restoreWarmEvidence` reads. -/
theorem archiveRun_readsSame_iff (warm : Bool) (hrow : db.runs.get? runID = some row)
    (hmanifest : db.manifests.get? runID = none)
    (harchive : archiveRun encoding db store now runID = .ok (archived, uploaded))
    (hlater : later < row.createdAt + retention) :
    ReadsSame encoding ⟨db, configured warm store⟩ ⟨archived, configured warm uploaded⟩ now later
        runID ↔
      stepRows db runID = [] ∧ eventRows db runID = [] ∧
        (warm = true → encoding.size ⟨row, [], []⟩ ≤ restoreLimit) := by
  have hid : row.id = runID := Table.key_of_get? hrow
  have hget := get_archived_iff warm hrow hmanifest harchive hlater
  constructor
  · intro h
    have hsteps := (getStep_archived_iff hrow hmanifest harchive).mp h.getStep_eq
    have hevents := (listEvents_archived_iff hrow hmanifest harchive).mp h.listEvents_eq
    refine ⟨hsteps, hevents, fun hwarm => ?_⟩
    subst hwarm
    have hsize := hget.mp h.get_eq
    rw [storedRun_eq_of_empty (hid.symm ▸ hsteps) (hid.symm ▸ hevents)] at hsize
    exact hsize
  · rintro ⟨hsteps, hevents, hsize⟩
    have hempty : storedRun db row = ⟨row, [], []⟩ :=
      storedRun_eq_of_empty (hid.symm ▸ hsteps) (hid.symm ▸ hevents)
    refine ⟨hget.mpr ?_, (getStep_archived_iff hrow hmanifest harchive).mpr hsteps,
      (listEvents_archived_iff hrow hmanifest harchive).mpr hevents,
      getDiagnosticsSummary_congr ?_ ?_⟩
    · rw [hempty]
      cases warm with
      | false => exact rfl
      | true => exact hsize rfl
    · exact hrow.trans (get?_runs_archived hrow hmanifest harchive).symm
    · exact hsteps.trans (stepRows_archived hrow hmanifest harchive).symm

end ArchiveRun

/-! ### One run with a step -/

def checkoutRun : RunRow where
  id := 1
  monitorId := 1
  revisionId := 1
  status := .success
  failureCategory := ""
  queueDelayMs := 0
  warningCount := 0
  durationMs := 250
  createdAt := 0
  document := ""

def loginStep : StepRow where
  id := 1
  monitorRunId := 1
  stepDefinitionId := "login"
  stepOrder := 1
  stepName := "Login"
  stepType := "HTTP"
  status := .success
  attemptCount := 1
  durationMs := 200
  timing := []
  document := ""

def checkoutDatabase (steps : Table StepRow fun row => row.id) : Database where
  runs := ⟨[checkoutRun], by decide⟩
  steps := steps
  attempts := .empty
  events := .empty
  manifests := .empty

def emptyEncoding : Encoding where
  size _ := 0
  checksum _ := ""

theorem archiveRun_readsSame_iff_checkout :
    ∃ archived uploaded, ReadsSame emptyEncoding ⟨checkoutDatabase .empty, some .empty⟩
      ⟨archived, some uploaded⟩ 0 0 1 := by
  have hrow : (checkoutDatabase .empty).runs.get? 1 = some checkoutRun := rfl
  have hmanifest : (checkoutDatabase .empty).manifests.get? 1 = none := rfl
  obtain ⟨archived, uploaded, harchive⟩ := exists_archiveRun emptyEncoding .empty 0 hrow hmanifest
  exact ⟨archived, uploaded,
    (archiveRun_readsSame_iff true hrow hmanifest harchive (by decide)).mpr
      ⟨rfl, rfl, fun _ => Nat.zero_le _⟩⟩

def days (n : Nat) : Time := n * (24 * 3600000)

/-- The step of a run archived on the eighth day is not found on the ninth, though the archive
has it for thirty days. -/
theorem archiveRun_hides_step :
    ¬ ∀ (encoding : Encoding) (db archived : Database) (store uploaded : ObjectStore)
        (row : RunRow) (now later : Time) (runID : RunId),
        db.runs.get? runID = some row → db.manifests.get? runID = none →
        archiveRun encoding db store now runID = .ok (archived, uploaded) →
        later < row.createdAt + retention →
        ReadsSame encoding ⟨db, some store⟩ ⟨archived, some uploaded⟩ now later runID := by
  intro h
  let db := checkoutDatabase ⟨[loginStep], by simp⟩
  have hrow : db.runs.get? 1 = some checkoutRun := rfl
  have hmanifest : db.manifests.get? 1 = none := rfl
  obtain ⟨archived, uploaded, harchive⟩ :=
    exists_archiveRun emptyEncoding .empty (days 8) hrow hmanifest
  have hreads := h emptyEncoding db archived .empty uploaded checkoutRun (days 8) (days 9) 1 hrow
    hmanifest harchive (by decide)
  have hnone := (getStep_archived_iff hrow hmanifest harchive).mp hreads.getStep_eq
  have hstep : loginStep ∈ stepRows db 1 := mem_stepRows.mpr ⟨List.mem_singleton_self _, rfl⟩
  rw [hnone] at hstep
  exact absurd hstep List.not_mem_nil

end Rhythm.Retention
