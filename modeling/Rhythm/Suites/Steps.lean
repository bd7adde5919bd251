import Rhythm.Suites.Distribution

/-!
# Rhythm.Suites.Steps

The comparison of a monitor step by step (`baselineSteps`, `completeSteps`).
Both functions group response times in a map, which is visited in any order:
a `MapOrder` is that choice.  `completeSteps` keeps pointers into the slice
that it appends to; once the slice has moved, what is written through them is
lost.
-/

namespace Rhythm.Suites

open Runs

/-- An order in which a map's entries are visited. -/
structure MapOrder (α : Type) where
  visit : List α → List α
  perm : ∀ entries, (visit entries).Perm entries

def MapOrder.insertion (α : Type) : MapOrder α := ⟨id, fun _ => .refl _⟩

/-! ## Groups -/

/-- `StepComparison`. -/
structure StepComparison where
  stepDefinitionId : String
  stepName : String
  baseline : Distribution
  post : Distribution
  comparison : Comparison
  deriving DecidableEq

/-- The response times of one step: an entry of `grouped`, with its name in `names`. -/
structure StepGroup where
  stepDefinitionId : String
  stepName : String
  points : List HistoryMetricPoint
  deriving DecidableEq

/-- The response time of one step of an execution, as a point of its own. -/
def stepPoint (point : HistoryMetricPoint) (value : Int) : HistoryMetricPoint where
  runId := point.runId
  revisionId := 0
  status := .success
  failureCategory := ""
  createdAt := point.createdAt
  apiResponseTimeMs := some value
  executionDurationMs := 0
  steps := []

/-- One response time joins the group of its step, which takes the step's latest name. -/
def addToGroup (groups : List StepGroup) (step : HistoryStepMetricPoint)
    (point : HistoryMetricPoint) : List StepGroup :=
  if groups.any fun group => group.stepDefinitionId = step.stepDefinitionId then
    groups.map fun group =>
      if group.stepDefinitionId = step.stepDefinitionId then
        { group with stepName := step.stepName, points := group.points ++ [point] }
      else group
  else groups ++ [⟨step.stepDefinitionId, step.stepName, [point]⟩]

/-- The loop that fills `names` and `grouped`, from the successful executions. -/
def groupSteps (points : List HistoryMetricPoint) : List StepGroup :=
  (points.filter fun point => succeeded point.status).foldl
    (fun groups point =>
      point.steps.foldl
        (fun groups step =>
          match step.apiResponseTimeMs with
          | none => groups
          | some value => addToGroup groups step (stepPoint point value))
        groups)
    []

/-! ## Baselines -/

/-- `baselineSteps`, by name. -/
def baselineSteps (order : MapOrder StepGroup) (points : List HistoryMetricPoint) :
    List StepComparison :=
  ((order.visit (groupSteps points)).map fun group =>
    { stepDefinitionId := group.stepDefinitionId
      stepName := group.stepName
      baseline := summarize group.points
      post := emptyDistribution
      comparison := ⟨.pending, 0, 0⟩ : StepComparison }).insertionSort
        fun a b => a.stepName ≤ b.stepName

/-! ## Completion -/

def completeStep (config : DeploymentConfiguration) (post : Distribution) (step : StepComparison) :
    StepComparison :=
  { step with post := post, comparison := classify step.baseline post config }

/-- One group of `completeSteps`.  `known` are the steps of the baseline; the slice has moved
once more than `spare` steps were appended, and then a known step that is
completed is not the one in the slice any more. -/
def completeGroup (known : List String) (spare : Nat) (config : DeploymentConfiguration)
    (steps : List StepComparison) (group : StepGroup) : List StepComparison :=
  let post := summarize group.points
  if group.stepDefinitionId ∈ known then
    if steps.length ≤ known.length + spare then
      steps.map fun step =>
        if step.stepDefinitionId = group.stepDefinitionId then completeStep config post step
        else step
    else steps
  else
    steps ++ [completeStep config post
      { stepDefinitionId := group.stepDefinitionId
        stepName := group.stepName
        baseline := emptyDistribution
        post := emptyDistribution
        comparison := ⟨.unset, 0, 0⟩ }]

/-- `completeSteps`; `spare` is the room the baseline's slice has left. -/
def completeSteps (order : MapOrder StepGroup) (spare : Nat) (existing : List StepComparison)
    (points : List HistoryMetricPoint) (config : DeploymentConfiguration) : List StepComparison :=
  let known := existing.map StepComparison.stepDefinitionId
  ((order.visit (groupSteps points)).foldl (completeGroup known spare config) existing).map
    fun step =>
      if step.comparison.classification = .pending then completeStep config step.post step
      else step

end Rhythm.Suites
