import Rhythm.Suites.DeploymentQueue
import Rhythm.Suites.SuiteQueue

/-!
# Rhythm.Suites.Verdict

Is the verdict of a queued validation final?  In both queues every statement
but one names the statuses it may leave; the exception is the worker's save,
which overwrites the whole row.  So verdicts are final along exactly those
runs of a queue in which no save meets a run that is over with another
verdict.
-/

namespace Rhythm.Suites

/-- **Final verdicts.**  For every order of enqueues, claims, loads, saves,
cancellations, lease expiries and reaper passes, in the deployment queue and in
the suite queue: no step changes the status or the gate decision of a run that
is over exactly when every save of a worker finds its run not over, or over
with the verdict it writes. -/
theorem verdictKept_along_iff (now : Time) (deployments : List Deployment.Action)
    (suites : List SuiteQueue.Action) :
    (Along Deployment.step (fun s _ s' => Deployment.VerdictKept s s') (Deployment.initial now)
        deployments ↔
      Along Deployment.step (fun s a _ => Deployment.SaveSparesVerdict s a)
        (Deployment.initial now) deployments) ∧
    (Along SuiteQueue.step (fun s _ s' => SuiteQueue.VerdictKept s s') (SuiteQueue.initial now)
        suites ↔
      Along SuiteQueue.step (fun s a _ => SuiteQueue.SaveSparesVerdict s a)
        (SuiteQueue.initial now) suites) :=
  ⟨along_iff_along (I := fun _ => True) (fun _ _ _ _ _ => trivial)
      (fun _ _ _ _ h => Deployment.verdictKept_iff h) trivial,
    along_iff_along (I := fun _ => True) (fun _ _ _ _ _ => trivial)
      (fun _ _ _ _ h => SuiteQueue.verdictKept_iff h) trivial⟩

/-- The lease of a slow worker expires and the reaper fails the deployment run
with `BLOCK`; the worker's final save makes it `COMPLETED` with `ALLOW`. -/
theorem reaped_deployment_allowed :
    ¬ ∀ now deployments suites,
      Along Deployment.step (fun s _ s' => Deployment.VerdictKept s s') (Deployment.initial now)
          deployments ∧
        Along SuiteQueue.step (fun s _ s' => SuiteQueue.VerdictKept s s') (SuiteQueue.initial now)
          suites := by
  intro h
  have hrun := (h 0 [.createQueuedDeploymentRun 1 1, .claimDeploymentJob 7 1 1, .getDeploymentRun 1,
    .start 1, .saveDeployment 1, .tick 90001, .reapExpiredDeploymentJobs [],
    .finish 1 (.decided .allow), .saveDeployment 1] []).1
  revert hrun
  decide

end Rhythm.Suites
