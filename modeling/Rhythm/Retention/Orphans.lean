import Rhythm.Retention.Archive
import Rhythm.Retention.System

/-!
# Rhythm.Retention.Orphans

The objects of the store and the manifests that name them.  Only
`expireEvidence` deletes objects, and only those that it finds by a manifest;
an object that no manifest names stays for ever.  The upload makes one for as
long as its transaction is not committed, and so does every deletion of a run
that has an object.
-/

namespace Rhythm.Retention

open Runs

/-! ## Named objects -/

def Named (s : State) : Prop :=
  ∀ object ∈ s.store, ∃ manifest ∈ s.manifests, manifest.objectKey = object.key

instance (s : State) : Decidable (Named s) :=
  inferInstanceAs (Decidable (∀ object ∈ s.store, ∃ manifest ∈ s.manifests,
    manifest.objectKey = object.key))

/-- The step leaves no object without a manifest: an upload is for a run that has one, and the runs
that are deleted have no object. -/
def KeepsNames (s : State) : Action → Prop
  | .proceed workerID =>
    match s.workers workerID with
    | .archiving runID (.gotRun _) _ => s.manifests.get? runID ≠ none
    | _ => True
  | .expireOldRunSummaries => ∀ runID ∈ s.oldRuns, s.store.get? ⟨runID⟩ = none
  | .permanentDelete monitorIDs => ∀ runID ∈ s.runsOf monitorIDs, s.store.get? ⟨runID⟩ = none
  | _ => True

variable {encoding : Encoding} {created : RunId → Time} {s s' : State} {workerID : WorkerId}
  {runID : RunId}

theorem named_iff (h : Regular created s) :
    Named s ↔ ∀ object ∈ s.store, s.manifests.get? object.key.runId ≠ none := by
  refine forall_congr' fun object => forall_congr' fun _ => ?_
  constructor
  · rintro ⟨manifest, hmem, hkey⟩ hnone
    rw [(h.manifest manifest hmem).1] at hkey
    exact Table.get?_eq_none_iff.mp hnone manifest hmem (congrArg ObjectKey.runId hkey)
  · intro hsome
    obtain ⟨manifest, hget⟩ := Option.ne_none_iff_exists'.mp hsome
    refine ⟨manifest, Table.mem_of_get? hget, ?_⟩
    rw [(h.manifest manifest (Table.mem_of_get? hget)).1, Table.key_of_get? hget]

theorem Named.mono (h : Regular created s) (h' : Regular created s') (hnamed : Named s)
    (hstore : ∀ object ∈ s'.store, object ∈ s.store)
    (hmanifests : ∀ runID, s'.manifests.get? runID = none → s.manifests.get? runID = none) :
    Named s' := by
  rw [named_iff h']
  intro object hobject hnone
  exact (named_iff h).mp hnamed object (hstore object hobject) (hmanifests _ hnone)

/-! ### Each operation -/

/-- **The upload.**  The new object is named if and only if the run has a manifest. -/
theorem named_put_iff (h : Regular created s) (hnamed : Named s) {run : Run}
    (h' : Regular created { s with store := s.store.put ⟨runID⟩ run }) :
    Named { s with store := s.store.put ⟨runID⟩ run } ↔ s.manifests.get? runID ≠ none := by
  rw [named_iff h']
  constructor
  · intro hall
    exact hall ⟨⟨runID⟩, run⟩ (ObjectStore.mem_put.mpr (.inl rfl))
  · intro hsome object hobject
    obtain rfl | ⟨hold, -⟩ := ObjectStore.mem_put.mp hobject
    · exact hsome
    · exact (named_iff h).mp hnamed object hold

/-- **The deletion of runs.**  The objects that are left are named if and only if none of them is
of a run that is deleted. -/
theorem named_deleteRuns_iff (h : Regular created s) (hnamed : Named s) (runIDs : List RunId) :
    Named (s.deleteRuns runIDs) ↔ ∀ runID ∈ runIDs, s.store.get? ⟨runID⟩ = none := by
  rw [named_iff (h.deleteRuns runIDs)]
  simp only [get?_manifests_deleteRuns]
  constructor
  · intro hall runID hmem
    rw [Table.get?_eq_none_iff]
    intro object hobject hkey
    refine hall object hobject ?_
    rw [hkey]
    exact if_pos hmem
  · intro hnone object hobject
    have hkey : object.key.runId ∉ runIDs := by
      intro hmem
      exact Table.get?_eq_none_iff.mp (hnone _ hmem) object hobject rfl
    rw [if_neg hkey]
    exact (named_iff h).mp hnamed object hobject

theorem named_archiveStep {stage : Stage} (h : Regular created s) (hnamed : Named s)
    (hstage : stage.Regular created runID) (hput : ∀ run, stage ≠ .gotRun run) :
    Named (s.archiveStep encoding runID stage) := by
  have h' : Regular created (s.archiveStep encoding runID stage) := h.archiveStep hstage
  cases stage with
  | gotRun run => exact absurd rfl (hput run)
  | uploaded run =>
    simp only [State.archiveStep, State.commitArchive] at h' ⊢
    split at h'
    · rename_i hrow
      rw [if_pos hrow]
      exact hnamed
    · rename_i hrow
      rw [if_neg hrow]
      refine Named.mono h h' hnamed (fun _ hobject => hobject) fun other hnone => ?_
      rw [Table.get?_insertIgnore, Option.or_eq_none_iff] at hnone
      exact hnone.1
  | _ => exact hnamed

theorem named_expireStep (h : Regular created s) (hnamed : Named s) (item : Manifest)
    (deleted : Bool) : Named (s.expireStep item deleted) := by
  have h' := h.expireStep item deleted
  cases deleted with
  | false =>
    exact Named.mono h h' hnamed (fun object hobject => (Table.mem_deleteWhere.mp hobject).1)
      fun _ hnone => hnone
  | true =>
    grind [Named.mono, State.expireStep, Table.get?_update_eq_none]

theorem named_proceed_iff (h : Regular created s) (hnamed : Named s)
    (hproceed : s.proceed encoding workerID = some s') :
    Named s' ↔ KeepsNames s (.proceed workerID) := by
  have hwork := h.work workerID
  simp only [KeepsNames]
  obtain ⟨runID, stage, rest, hworker, rfl⟩ | ⟨item, deleted, rest, hworker, rfl⟩ :=
    proceed_cases hproceed
  · rw [hworker] at hwork
    cases stage with
    | gotRun run =>
      simp only [hworker]
      have hput : Regular created (s.archiveStep encoding runID (.gotRun run)) :=
        h.archiveStep hwork
      exact named_put_iff h hnamed hput
    | _ =>
      simp only [hworker, iff_true]
      exact named_archiveStep h hnamed hwork fun run hrun => by simp at hrun
  · simp only [hworker, iff_true]
    exact named_expireStep h hnamed item deleted

/-- **One step.**  From a state in which every object is named, it leads to another one if and only
if it keeps the names. -/
theorem named_step_iff {a : Action} (h : Regular created s) (hnamed : Named s)
    (hstep : step encoding created s a = some s') : Named s' ↔ KeepsNames s a := by
  cases a with
  | wait elapsed | stop workerID =>
    obtain rfl := Option.some.inj hstep
    exact iff_of_true hnamed trivial
  | save run changes =>
    obtain rfl := save_eq_some (Option.ite_none_right_eq_some.mp hstep).2
    exact iff_of_true hnamed trivial
  | archiveBatch workerID | expireEvidence workerID =>
    obtain rfl := Option.some.inj (Option.ite_none_right_eq_some.mp hstep).2
    exact iff_of_true hnamed trivial
  | proceed workerID => exact named_proceed_iff h hnamed hstep
  | fail workerID =>
    obtain ⟨_, _, _, -, rfl⟩ | ⟨_, _, _, -, rfl⟩ := fail_cases hstep
    · exact iff_of_true hnamed trivial
    · exact iff_of_true hnamed trivial
  | expireOldRunSummaries =>
    obtain rfl := Option.some.inj hstep
    exact named_deleteRuns_iff h hnamed s.oldRuns
  | permanentDelete monitorIDs =>
    obtain rfl := Option.some.inj (Option.ite_none_left_eq_some.mp hstep).2
    exact named_deleteRuns_iff h hnamed (s.runsOf monitorIDs)

def Action.worker? : Action → Option WorkerId
  | .archiveBatch workerID | .expireEvidence workerID | .proceed workerID | .fail workerID
  | .stop workerID => some workerID
  | _ => none

theorem workers_step {a : Action} (hstep : step encoding created s a = some s')
    (hworker : a.worker? ≠ some workerID) : s'.workers workerID = s.workers workerID := by
  have hother {t : State} {other : WorkerId} {work : Work} (hne : other ≠ workerID) :
      (t.withWork other work).workers workerID = t.workers workerID := by
    rw [workers_withWork, if_neg hne.symm]
  cases a with
  | wait elapsed | expireOldRunSummaries =>
    obtain rfl := Option.some.inj hstep
    rfl
  | save run changes =>
    obtain rfl := save_eq_some (Option.ite_none_right_eq_some.mp hstep).2
    rfl
  | archiveBatch other | expireEvidence other =>
    obtain rfl := Option.some.inj (Option.ite_none_right_eq_some.mp hstep).2
    exact hother fun heq => hworker (congrArg some heq)
  | proceed other =>
    have hne : other ≠ workerID := fun heq => hworker (congrArg some heq)
    obtain ⟨_, _, _, -, rfl⟩ | ⟨item, deleted, _, -, rfl⟩ := proceed_cases hstep
    · rw [hother hne, workers_archiveStep]
    · rw [hother hne]
      cases deleted with
      | false | true => rfl
  | fail other =>
    have hne : other ≠ workerID := fun heq => hworker (congrArg some heq)
    obtain ⟨_, _, _, -, rfl⟩ | ⟨_, _, _, -, rfl⟩ := fail_cases hstep
    · exact hother hne
    · exact hother hne
  | stop other =>
    obtain rfl := Option.some.inj hstep
    exact hother fun heq => hworker (congrArg some heq)
  | permanentDelete monitorIDs =>
    obtain rfl := Option.some.inj (Option.ite_none_left_eq_some.mp hstep).2
    rfl

theorem workers_run {as : List Action} (hrun : runActions (step encoding created) s as = some s')
    (hworker : ∀ a ∈ as, a.worker? ≠ some workerID) :
    s'.workers workerID = s.workers workerID := by
  induction as generalizing s with
  | nil =>
    obtain rfl := Option.some.inj hrun
    rfl
  | cons a as ih =>
    obtain ⟨t, hstep, hrest⟩ := Option.bind_eq_some_iff.mp hrun
    have hlater := ih hrest fun b hb => hworker b (List.mem_cons_of_mem _ hb)
    rw [hlater, workers_step hstep (hworker a List.mem_cons_self)]

theorem named_initial (now : Time) : Named (initial now) :=
  fun object h => absurd h (Table.not_mem_empty object)

/-- **No orphans.**  Every object is named by a manifest in every state of a run if and only if
every upload is for a run that has a manifest, and no run is deleted that has an object. -/
theorem named_along_iff (encoding : Encoding) (created : RunId → Time) (now : Time)
    (as : List Action) :
    Along (step encoding created) (fun _ _ s' => Named s') (initial now) as ↔
      Along (step encoding created) (fun s a _ => KeepsNames s a) (initial now) as :=
  along_state_iff_along (I := Regular created) (fun _ _ _ h hstep => h.step hstep)
    (fun _ _ _ h hnamed hstep => named_step_iff h hnamed hstep) (regular_initial now)
    (named_initial now)

/-! ### One archived run -/

/-- The run is archived, and then its monitor is deleted for good. -/
def archivedThenDeleted : List Action :=
  [.save checkoutRun ⟨[⟨loginStep, []⟩], []⟩, .wait (days 8), .archiveBatch 1] ++
    List.replicate 6 (.proceed 1) ++ [.permanentDelete [1]]

theorem archivedThenDeleted_idle {s : State}
    (h : runActions (step emptyEncoding createdAtStart) (initial 0) archivedThenDeleted = some s)
    (workerID : WorkerId) : s.workers workerID = .idle := by
  by_cases hworker : workerID = 1
  · have hfirst : (runActions (step emptyEncoding createdAtStart) (initial 0)
        archivedThenDeleted).map (fun s => s.workers 1) = some .idle := by
      decide +kernel
    rw [h, Option.map_some, Option.some.injEq] at hfirst
    rw [hworker]
    exact hfirst
  · refine workers_run h fun a ha => ?_
    have hothers : ∀ a ∈ archivedThenDeleted, a.worker? = none ∨ a.worker? = some 1 := by
      decide +kernel
    obtain hnone | hone := hothers a ha
    · rw [hnone]
      exact Option.some_ne_none workerID |>.symm
    · rw [hone]
      exact fun heq => hworker (Option.some.inj heq).symm

/-- No worker is at work, and no manifest is left by which the object could be deleted. -/
theorem permanentDelete_orphans_object :
    ¬ ∀ (encoding : Encoding) (created : RunId → Time) (now : Time) (as : List Action) (s : State),
        runActions (step encoding created) (initial now) as = some s →
        (∀ workerID, s.workers workerID = .idle) → Named s := by
  intro h
  have hrun : (runActions (step emptyEncoding createdAtStart) (initial 0)
      archivedThenDeleted).map (fun s => decide (Named s)) = some false := by
    decide +kernel
  obtain ⟨s, hs, hnamed⟩ := Option.map_eq_some_iff.mp hrun
  exact of_decide_eq_false hnamed
    (h emptyEncoding createdAtStart 0 archivedThenDeleted s hs (archivedThenDeleted_idle hs))

end Rhythm.Retention
