import Rhythm.ExecutionJobs.Invariant

/-!
# Rhythm.ExecutionJobs.Finality

When is a final run status the last one?  The `UPDATE`s of the queue list the
statuses they spare, and none of them touches a run that is final in a
reachable state — except `complete`, whose list leaves `SKIPPED` out.  The
upsert of a worker's save has no such list: it writes whatever status the
worker holds.  `status_runEffect_iff` puts this as an equivalence for one row,
and `finalStatus_along_iff` for whole runs of the queue.
-/

namespace Rhythm.ExecutionJobs

open Runs RunRepository

/-- No run that has a final status in `s` has another status in `s'`. -/
def FinalStatusKept (s s' : State) : Prop :=
  ∀ row ∈ s.runs, row.status.isFinal = true →
    (s'.runs.get? row.id).map MonitorRun.status = some row.status

instance (s s' : State) : Decidable (FinalStatusKept s s') :=
  inferInstanceAs (Decidable (∀ row ∈ s.runs, _))

/-- The action spares the run row `row`: it is not the save of an execution that
holds another status, nor the completion of a failed execution of a run that
was skipped. -/
def SparesRun (s : State) (a : Action) (row : MonitorRun) : Prop :=
  match a with
  | .save executionID => ∀ e, s.executions.get? executionID = some e →
      e.run.id = row.id → e.run.status = row.status
  | .complete executionID => ∀ e, s.executions.get? executionID = some e →
      e.phase = .returned true → e.runId = row.id → row.status ≠ .skipped
  | _ => True

def SparesFinalRuns (s : State) (a : Action) : Prop :=
  ∀ row ∈ s.runs, row.status.isFinal = true → SparesRun s a row

section Step

variable {s s' : State} {a : Action} {row : MonitorRun}

theorem not_abortsRun_of_isFinal (hI : Invariant s) (hrow : row ∈ s.runs)
    (hfinal : row.status.isFinal = true) (locked : List JobId) :
    ¬ AbortsRun (expiredBatch s.now locked s.jobs) row := by
  intro ⟨⟨item, hitem, _, hrunId⟩, hopen⟩
  obtain ⟨hjob, ⟨hleased, -⟩, -⟩ := mem_of_mem_expiredBatch hitem
  have hskipped : row.status = .skipped := by
    rcases Status.isFinal_iff.mp hfinal with hterminal | hskipped
    · rw [hopen] at hterminal
      contradiction
    · exact hskipped
  have hterminal := hI.terminalOfSkipped item hjob row (hrunId ▸ Table.get?_of_mem hrow) hskipped
  rw [hleased] at hterminal
  contradiction

/-- **One final row.**  A step leaves the status of a final run alone exactly
when it spares the run. -/
theorem status_runEffect_iff (hI : Invariant s) (hrow : row ∈ s.runs)
    (hfinal : row.status.isFinal = true) :
    (runEffect s a row).status = row.status ↔ SparesRun s a row := by
  have hnotPending : row.status.isPending = false := by
    by_contra hpending
    rw [Status.not_isFinal_of_isPending (by simpa using hpending)] at hfinal
    contradiction
  cases a with
  | claim workerID jobID executionID =>
    grind [SkipsRun, runEffect, SparesRun]
  | save executionID =>
    cases he : s.executions.get? executionID with
    | none => simp [runEffect, SparesRun, he]
    | some e =>
      by_cases hid : row.id = e.run.id
      · simp [runEffect, SparesRun, he, hid]
      · simp [runEffect, SparesRun, he, hid, Ne.symm hid]
  | complete executionID =>
    cases he : s.executions.get? executionID with
    | none => simp [runEffect, SparesRun, he]
    | some e =>
      by_cases hit : e.phase = .returned true ∧ row.id = e.runId
      · obtain ⟨hphase, hid⟩ := hit
        rcases Status.isFinal_iff.mp hfinal with hterminal | hskipped
        · have hne : row.status ≠ .skipped := fun h => by rw [h] at hterminal; contradiction
          simp [runEffect, SparesRun, he, hphase, hid, hterminal, hne]
        · simp [runEffect, SparesRun, he, hphase, hid, hskipped, Status.isTerminal]
      · simp only [runEffect, SparesRun, he]
        grind
  | requestCancel runID =>
    simp only [runEffect, SparesRun, iff_true]
    split
    · simp [cancelRun, hnotPending]
    · rfl
  | reclaimExpiredBatch locked =>
    simp [runEffect, SparesRun, if_neg (not_abortsRun_of_isFinal hI hrow hfinal locked)]
  | _ => simp [runEffect, SparesRun]

theorem finalStatusKept_iff (hI : Invariant s) (h : step s a = some s') :
    FinalStatusKept s s' ↔ SparesFinalRuns s a := by
  refine forall₂_congr fun row hrow => forall_congr' fun hfinal => ?_
  rw [get?_runEffect h hI.runStored (Table.get?_of_mem hrow), Option.map_some, Option.some.injEq]
  exact status_runEffect_iff hI hrow hfinal

end Step

/-- **Final statuses along a run of the queue.**  Whatever is enqueued, claimed,
saved, cancelled, completed or reclaimed, and in whatever order: no step
changes a final run status exactly when every save finds its run not final, or
with the status it writes, and no completion of a failed execution finds its
run skipped. -/
theorem finalStatus_along_iff (now : Time) (actions : List Action) :
    Along step (fun s _ s' => FinalStatusKept s s') (initial now) actions ↔
      Along step (fun s a _ => SparesFinalRuns s a) (initial now) actions :=
  along_iff_along (I := Invariant) (fun _ _ _ => invariant_step)
    (fun _ _ _ => finalStatusKept_iff) (invariant_initial now)

/-- A run cancelled between its claim and the worker's first save is `RUNNING`
again after that save. -/
theorem finalStatus_overwritten_by_save :
    ¬ ∀ now actions,
      Along step (fun s _ s' => FinalStatusKept s s') (initial now) actions := by
  intro h
  have hrun := h 0 [.enqueue 1 1 sampleRequest, .claim 7 1 1, .requestCancel 1, .save 1]
  revert hrun
  decide

end Rhythm.ExecutionJobs
