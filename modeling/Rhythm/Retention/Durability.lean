import Rhythm.Retention.Archive
import Rhythm.Retention.System

/-!
# Rhythm.Retention.Durability

Where the evidence of a run is while it is archived.  Until a run has a
manifest, its evidence is in the tables; from then on it is in the object that
the manifest names.  A save of a run that is archived, and two workers that
archive one run, can break this: the tables then hold what the archive has not,
or the object of the first worker is replaced by what the second one could
still read.
-/

namespace Rhythm.Retention

open Runs

variable (encoding : Encoding) (created : RunId → Time)

/-! ## Evidence -/

def State.Complete (s : State) (runID : RunId) : Prop :=
  (s.tables runID).evidence = (s.saved runID).evidence

/-- The object that the manifest of the run names has all that was saved of it, and the checksum is
that of its bytes. -/
def State.Archived (s : State) (runID : RunId) : Prop :=
  ∃ manifest ∈ s.manifests.get? runID, ∃ object ∈ s.store.get? manifest.objectKey,
    object.content.evidence = (s.saved runID).evidence ∧
      manifest.checksum = encoding.checksum object.content

/-- The evidence of every unexpired run is complete, in the tables or in its archive. -/
def Durable (s : State) : Prop :=
  ∀ row ∈ s.runs, s.now < row.createdAt + retention →
    s.Complete row.id ∨ s.Archived encoding row.id

instance (s : State) (runID : RunId) : Decidable (s.Complete runID) :=
  inferInstanceAs (Decidable (_ = _))

instance (s : State) (runID : RunId) : Decidable (s.Archived encoding runID) :=
  inferInstanceAs (Decidable (∃ manifest ∈ s.manifests.get? runID,
    ∃ object ∈ s.store.get? manifest.objectKey, _ ∧ _))

instance (s : State) : Decidable (Durable encoding s) :=
  inferInstanceAs (Decidable (∀ row ∈ s.runs, s.now < row.createdAt + retention →
    s.Complete row.id ∨ s.Archived encoding row.id))

/-! ## Steps that leave the archives alone -/

/-- The next statement of a worker leaves the archives of unexpired runs as they are: it uploads
for a run without a manifest, or what is there already; and it inserts a manifest only while the
object is the one that it uploaded, and the tables still hold what it has read. -/
def Work.LeavesArchives (s : State) : Work → Prop
  | .archiving runID (.gotRun run) _ =>
    s.now < created runID + retention → s.manifests.get? runID ≠ none →
      s.store.get? ⟨runID⟩ = some ⟨⟨runID⟩, run⟩
  | .archiving runID (.uploaded run) _ =>
    s.now < created runID + retention → s.runs.get? runID ≠ none →
      s.manifests.get? runID = none →
        s.store.get? ⟨runID⟩ = some ⟨⟨runID⟩, run⟩ ∧ (s.tables runID).evidence = run.evidence
  | _ => True

/-- Besides, a save of an unexpired run that has a manifest changes no evidence. -/
def LeavesArchives (s : State) : Action → Prop
  | .save run changes =>
    s.now < created run.id + retention → s.manifests.get? run.id ≠ none →
      ((s.saved run.id).save run.id changes).evidence = (s.saved run.id).evidence
  | .proceed workerID => (s.workers workerID).LeavesArchives created s
  | _ => True

instance (s : State) : ∀ work : Work, Decidable (work.LeavesArchives created s)
  | .idle | .expiring .. | .archiving _ .started _ | .archiving _ (.gotRow _) _
  | .archiving _ (.gotSteps ..) _ | .archiving _ (.gotAttempts ..) _
  | .archiving _ (.gotEvents _) _ | .archiving _ (.gotManifest _) _ => isTrue trivial
  | .archiving _ (.gotRun _) _ => inferInstanceAs (Decidable (_ → _ → _ = _))
  | .archiving _ (.uploaded _) _ => inferInstanceAs (Decidable (_ → _ → _ → _ ∧ _))

instance (s : State) : ∀ a : Action, Decidable (LeavesArchives created s a)
  | .save .. => inferInstanceAs (Decidable (_ → _ → _ = _))
  | .proceed workerID => inferInstanceAs (Decidable ((s.workers workerID).LeavesArchives created s))
  | .wait _ | .archiveBatch _ | .expireEvidence _ | .fail _ | .stop _ | .expireOldRunSummaries
  | .permanentDelete _ => isTrue trivial

/-- Without a manifest, the tables have what was saved; with one, the archive has it. -/
structure State.Kept (s : State) (runID : RunId) : Prop where
  tables : s.manifests.get? runID = none → s.tables runID = s.saved runID
  archive : s.manifests.get? runID ≠ none → s.Archived encoding runID

def Kept (s : State) : Prop :=
  ∀ runID, s.now < created runID + retention → s.Kept encoding runID

variable {encoding created} {s s' : State} {workerID : WorkerId} {runID : RunId}

theorem durable_of_kept (hregular : Regular created s) (hkept : Kept encoding created s) :
    Durable encoding s := by
  intro row hrow hnow
  rw [hregular.run row hrow] at hnow
  have hrun := hkept row.id hnow
  by_cases hmanifest : s.manifests.get? row.id = none
  · exact .inl (congrArg RunTables.evidence (hrun.tables hmanifest))
  · exact .inr (hrun.archive hmanifest)

theorem State.Kept.congr (h : s.Kept encoding runID)
    (htables : s'.tables runID = s.tables runID) (hsaved : s'.saved runID = s.saved runID)
    (hmanifest : s'.manifests.get? runID = s.manifests.get? runID)
    (hobject : ∀ manifest ∈ s.manifests.get? runID,
      s'.store.get? manifest.objectKey = s.store.get? manifest.objectKey) :
    s'.Kept encoding runID := by
  refine ⟨fun hnone => ?_, fun hsome => ?_⟩
  · rw [htables, hsaved]
    exact h.tables (hmanifest ▸ hnone)
  · obtain ⟨manifest, hget, object, hstored, hcontent⟩ := h.archive (hmanifest ▸ hsome)
    refine ⟨manifest, hmanifest ▸ hget, object, ?_, ?_⟩
    · rw [hobject manifest hget]
      exact hstored
    · rw [hsaved]
      exact hcontent

/-! ### Saves and deletions -/

theorem Kept.save {run : RunRow} {changes : RunChanges} (h : Kept encoding created s)
    (hleaves : LeavesArchives created s (.save run changes))
    (hsave : s.save run changes = some s') : Kept encoding created s' := by
  obtain rfl := save_eq_some hsave
  intro runID hnow
  have hrun := h runID hnow
  by_cases hid : runID = run.id
  · subst hid
    refine ⟨fun hnone => ?_, fun hsome => ?_⟩
    · simp only [Function.update_self]
      rw [hrun.tables hnone]
    · obtain ⟨manifest, hget, object, hstored, hcontent, hchecksum⟩ := hrun.archive hsome
      refine ⟨manifest, hget, object, hstored, ?_, hchecksum⟩
      simp only [Function.update_self]
      rw [hcontent, hleaves hnow hsome]
  · exact hrun.congr (Function.update_of_ne hid ..) (Function.update_of_ne hid ..) rfl
      fun _ _ => rfl

theorem Kept.deleteRuns (h : Kept encoding created s) (runIDs : List RunId) :
    Kept encoding created (s.deleteRuns runIDs) := by
  intro runID hnow
  have hget := get?_manifests_deleteRuns (s := s) runIDs runID
  by_cases hmem : runID ∈ runIDs
  · rw [if_pos hmem] at hget
    refine ⟨fun _ => ?_, fun hsome => absurd hget hsome⟩
    simp only [State.deleteRuns, hmem, ↓reduceIte]
  · rw [if_neg hmem] at hget
    exact (h runID hnow).congr (if_neg hmem) (if_neg hmem) hget fun _ _ => rfl

/-! ### Archiving -/

theorem get?_put_of_ne {store : ObjectStore} {key other : ObjectKey} {content : Run}
    (h : other ≠ key) : (store.put key content).get? other = store.get? other := by
  refine Option.ext fun object => ?_
  rw [Table.get?_eq_some_iff, Table.get?_eq_some_iff, ObjectStore.mem_put]
  constructor
  · rintro ⟨rfl | ⟨hmem, -⟩, hkey⟩
    · exact absurd hkey.symm h
    · exact ⟨hmem, hkey⟩
  · rintro ⟨hmem, hkey⟩
    exact ⟨.inr ⟨hmem, hkey ▸ h⟩, hkey⟩

/-- **The upload.**  It replaces no object of an archive by another one. -/
theorem Kept.put (h : Kept encoding created s) (hregular : Regular created s) {run : Run}
    (hleaves : s.now < created runID + retention → s.manifests.get? runID ≠ none →
      s.store.get? ⟨runID⟩ = some ⟨⟨runID⟩, run⟩) :
    Kept encoding created { s with store := s.store.put ⟨runID⟩ run } := by
  intro other hnow
  refine (h other hnow).congr rfl rfl rfl fun manifest hget => ?_
  have hkey : manifest.objectKey = ⟨other⟩ := by
    rw [(hregular.manifest manifest (Table.mem_of_get? hget)).1, Table.key_of_get? hget]
  rw [hkey]
  by_cases hother : other = runID
  · grind [ObjectStore.get?_put_self]
  · exact get?_put_of_ne fun heq => hother (congrArg ObjectKey.runId heq)

/-- **The transaction.**  The manifest that it inserts names an object with all that the tables
had. -/
theorem Kept.commitArchive (h : Kept encoding created s) {run : Run}
    (hleaves : s.now < created runID + retention → s.runs.get? runID ≠ none →
      s.manifests.get? runID = none →
        s.store.get? ⟨runID⟩ = some ⟨⟨runID⟩, run⟩ ∧ (s.tables runID).evidence = run.evidence) :
    Kept encoding created (s.commitArchive encoding runID run) := by
  unfold State.commitArchive
  split
  · exact h
  · rename_i hrow
    intro other hnow
    have hother := h other hnow
    by_cases hid : other = runID
    · subst hid
      cases hmanifest : s.manifests.get? other with
      | none =>
        obtain ⟨hobject, hread⟩ := hleaves hnow hrow hmanifest
        have hget : (s.manifests.insertIgnore (manifestOf encoding other run)).get? other =
            some (manifestOf encoding other run) := by
          rw [Table.get?_insertIgnore, hmanifest, Option.none_or]
          exact if_pos rfl
        refine ⟨fun hnone => absurd (hget.symm.trans hnone) (Option.some_ne_none _), fun _ => ?_⟩
        refine ⟨manifestOf encoding other run, hget, ⟨⟨other⟩, run⟩, hobject, ?_, rfl⟩
        rw [← hother.tables hmanifest]
        exact hread.symm
      | some manifest =>
        have hget : (s.manifests.insertIgnore (manifestOf encoding other run)).get? other =
            some manifest := by
          rw [Table.get?_insertIgnore, hmanifest, Option.some_or]
        have harchive := hother.archive (hmanifest ▸ Option.some_ne_none manifest)
        obtain ⟨found, hfound, object, hobject, hcontent⟩ := harchive
        rw [Option.mem_def, hmanifest, Option.some.injEq] at hfound
        subst hfound
        refine ⟨fun hnone => absurd (hget.symm.trans hnone) (Option.some_ne_none _), fun _ => ?_⟩
        exact ⟨manifest, hget, object, hobject, hcontent⟩
    · refine hother.congr (Function.update_of_ne hid ..) rfl ?_ fun _ _ => rfl
      rw [Table.get?_insertIgnore, if_neg fun heq => hid heq.symm, Option.or_none]

/-! ### Expiry -/

theorem Kept.expireStep (h : Kept encoding created s) (hregular : Regular created s)
    {item : Manifest} (hitem : item.Regular created) (hexpired : item.expiresAt < s.now)
    (deleted : Bool) : Kept encoding created (s.expireStep item deleted) := by
  have hitem' : created item.runId + retention < s.now := hitem.2 ▸ hexpired
  cases deleted with
  | false =>
    intro runID hnow
    refine (h runID hnow).congr rfl rfl rfl fun manifest hget => ?_
    have hne : runID ≠ item.runId := by
      rintro rfl
      exact absurd hnow (Nat.lt_asymm hitem')
    have hkey : manifest.objectKey ≠ item.objectKey := by
      rw [(hregular.manifest manifest (Table.mem_of_get? hget)).1, Table.key_of_get? hget, hitem.1]
      exact fun heq => hne (congrArg ObjectKey.runId heq)
    rw [State.expireStep, Table.get?_deleteWhere]
    cases hobject : s.store.get? manifest.objectKey with
    | none => rfl
    | some object =>
      grind [Table.key_of_get?]
  | true =>
    intro runID hnow
    have hne : runID ≠ item.runId := by
      rintro rfl
      exact absurd hnow (Nat.lt_asymm hitem')
    refine (h runID hnow).congr rfl rfl ?_ fun _ _ => rfl
    rw [State.expireStep, Table.get?_update_key, if_neg hne]

theorem Kept.withWork (h : Kept encoding created s) (work : Work) :
    Kept encoding created (s.withWork workerID work) :=
  fun runID hnow => (h runID hnow).congr rfl rfl rfl fun _ _ => rfl

theorem Kept.archiveStep (h : Kept encoding created s) (hregular : Regular created s)
    {stage : Stage} {rest : List RunId}
    (hleaves : (Work.archiving runID stage rest).LeavesArchives created s) :
    Kept encoding created (s.archiveStep encoding runID stage) := by
  cases stage with
  | gotRun run => exact h.put hregular hleaves
  | uploaded run => exact h.commitArchive hleaves
  | _ => exact h

theorem Kept.proceed (h : Kept encoding created s) (hregular : Regular created s)
    (hleaves : (s.workers workerID).LeavesArchives created s)
    (hproceed : s.proceed encoding workerID = some s') : Kept encoding created s' := by
  have hwork := hregular.work workerID
  obtain ⟨runID, stage, rest, hworker, rfl⟩ | ⟨item, deleted, rest, hworker, rfl⟩ :=
    proceed_cases hproceed
  · rw [hworker] at hleaves
    exact (h.archiveStep hregular hleaves).withWork _
  · rw [hworker] at hwork
    obtain ⟨hitem, hexpired⟩ := hwork item List.mem_cons_self
    exact (h.expireStep hregular hitem hexpired deleted).withWork _

/-- **Kept evidence.**  A step that leaves the archives alone keeps it. -/
theorem Kept.step {a : Action} (h : Kept encoding created s) (hregular : Regular created s)
    (hstep : step encoding created s a = some s') (hleaves : LeavesArchives created s a) :
    Kept encoding created s' := by
  cases a with
  | wait elapsed =>
    obtain rfl := Option.some.inj hstep
    intro runID hnow
    have hbefore : s.now < created runID + retention :=
      Nat.lt_of_le_of_lt (Nat.le_add_right _ _) hnow
    exact (h runID hbefore).congr rfl rfl rfl fun _ _ => rfl
  | save run changes =>
    exact h.save hleaves (Option.ite_none_right_eq_some.mp hstep).2
  | archiveBatch workerID | expireEvidence workerID =>
    obtain rfl := Option.some.inj (Option.ite_none_right_eq_some.mp hstep).2
    exact h.withWork _
  | proceed workerID => exact h.proceed hregular hleaves hstep
  | fail workerID =>
    obtain ⟨_, _, _, -, rfl⟩ | ⟨_, _, _, -, rfl⟩ := fail_cases hstep
    · exact h.withWork _
    · exact h.withWork _
  | stop workerID =>
    obtain rfl := Option.some.inj hstep
    exact h.withWork _
  | expireOldRunSummaries =>
    obtain rfl := Option.some.inj hstep
    exact h.deleteRuns s.oldRuns
  | permanentDelete monitorIDs =>
    obtain rfl := Option.some.inj (Option.ite_none_left_eq_some.mp hstep).2
    intro runID hnow
    exact (h.deleteRuns (s.runsOf monitorIDs) runID hnow).congr rfl rfl rfl fun _ _ => rfl

theorem kept_initial (now : Time) : Kept encoding created (initial now) :=
  fun _ _ => ⟨fun _ => rfl, fun h => absurd rfl h⟩

/-- **Durability.**  For any number of workers, any failures and any order of steps: as long as
every step leaves the archives of unexpired runs alone, the evidence of each of these runs is
complete in the tables, or complete in the object of its manifest. -/
theorem durable_along (encoding : Encoding) (created : RunId → Time) (now : Time)
    (as : List Action)
    (h : Along (step encoding created) (fun s a _ => LeavesArchives created s a) (initial now) as) :
    Along (step encoding created) (fun _ _ s' => Durable encoding s') (initial now) as := by
  refine Along.of_guard (I := fun s => Regular created s ∧ Kept encoding created s) ?_
    ⟨regular_initial now, kept_initial now⟩ h
  rintro s a s' ⟨hregular, hkept⟩ hstep hleaves
  have hregular' := hregular.step hstep
  have hkept' := hkept.step hregular hstep hleaves
  exact ⟨⟨hregular', hkept'⟩, durable_of_kept hregular' hkept'⟩

/-! ### One run with a step, an attempt and an event -/

def checkoutChanges : RunChanges :=
  ⟨[⟨loginStep, [⟨1, 1, "200 OK"⟩]⟩], [⟨1, some 1, 1, "finished"⟩]⟩

/-- One worker archives the run, and another one finds nothing left to do. -/
def archivedByOne : List Action :=
  [.save checkoutRun checkoutChanges, .wait (days 8), .archiveBatch 1] ++
    List.replicate 6 (.proceed 1) ++ [.archiveBatch 2]

theorem durable_along_archivedByOne :
    Along (step emptyEncoding createdAtStart) (fun _ _ s' => Durable emptyEncoding s') (initial 0)
      archivedByOne :=
  durable_along emptyEncoding createdAtStart 0 archivedByOne (by decide +kernel)

/-- The second worker has read the steps when the first one deletes them, and finds neither
attempts nor events any more; its object replaces that of the first one. -/
def archivedByTwo : List Action :=
  [.save checkoutRun checkoutChanges, .wait (days 8), .archiveBatch 1, .archiveBatch 2] ++
    List.replicate 5 (.proceed 1) ++ [.proceed 2, .proceed 2, .proceed 1] ++
      List.replicate 3 (.proceed 2)

/-- The attempt and the event are lost. -/
theorem archive_loses_evidence :
    ¬ ∀ (encoding : Encoding) (created : RunId → Time) (now : Time) (as : List Action),
        Along (step encoding created) (fun _ _ s' => Durable encoding s') (initial now) as := by
  intro h
  exact absurd (h emptyEncoding createdAtStart 0 archivedByTwo) (by decide +kernel)

end Rhythm.Retention
