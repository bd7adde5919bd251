import Mathlib.Data.List.Dedup
import Mathlib.Data.List.Perm.Subperm
import Rhythm.Suites.Steps

/-!
# Rhythm.Suites.StepOrder

When the comparison of a monitor's steps is complete.  `completeSteps` visits
the groups of response times in any order and updates the steps of the baseline
through pointers into the slice that it appends the new steps to.  A step of the
baseline that is visited after the slice has moved keeps its empty distribution.

`completeSteps_complete_iff`: the comparison is complete in every order exactly
if the new steps fit into the slice or no step of the baseline was measured, and
every step of the points was measured at all.
-/

namespace Rhythm.Suites

open Runs

/-! ## Response times of a step -/

section Responses

variable {points : List HistoryMetricPoint}
  {responses : List (HistoryStepMetricPoint × HistoryMetricPoint)}
  {groups : List StepGroup} {stepID : String}

/-- The measured steps of the successful executions, each as a point of its own. -/
def stepResponses (points : List HistoryMetricPoint) :
    List (HistoryStepMetricPoint × HistoryMetricPoint) :=
  (points.filter fun point => succeeded point.status).flatMap fun point =>
    point.steps.filterMap fun step =>
      step.apiResponseTimeMs.map fun value => (step, stepPoint point value)

def responsesOf (responses : List (HistoryStepMetricPoint × HistoryMetricPoint))
    (stepID : String) : List HistoryMetricPoint :=
  (responses.filter fun response => response.1.stepDefinitionId = stepID).map Prod.snd

theorem foldl_steps (steps : List HistoryStepMetricPoint) (point : HistoryMetricPoint) :
    ∀ groups, steps.foldl
        (fun groups step =>
          match step.apiResponseTimeMs with
          | none => groups
          | some value => addToGroup groups step (stepPoint point value)) groups =
      (steps.filterMap fun step =>
          step.apiResponseTimeMs.map fun value => (step, stepPoint point value)).foldl
        (fun groups response => addToGroup groups response.1 response.2) groups := by
  induction steps with
  | nil => exact fun _ => rfl
  | cons step steps ih =>
    grind

theorem groupSteps_eq_foldl : groupSteps points = (stepResponses points).foldl
    (fun groups response => addToGroup groups response.1 response.2) [] := by
  rw [groupSteps, stepResponses]
  generalize (points.filter fun point => succeeded point.status) = counted
  generalize ([] : List StepGroup) = groups
  induction counted generalizing groups with
  | nil => rfl
  | cons point counted ih =>
    rw [List.foldl_cons, ih, List.flatMap_cons, List.foldl_append]
    exact congrArg (fun groups => List.foldl _ groups _) (foldl_steps point.steps point groups)

theorem responsesOf_append (more : List (HistoryStepMetricPoint × HistoryMetricPoint)) :
    responsesOf (responses ++ more) stepID =
      responsesOf responses stepID ++ responsesOf more stepID := by
  simp [responsesOf]

/-- The groups hold the response times of their steps, each step once. -/
structure Grouped (groups : List StepGroup)
    (responses : List (HistoryStepMetricPoint × HistoryMetricPoint)) : Prop where
  nodup : (groups.map (·.stepDefinitionId)).Nodup
  points : ∀ group ∈ groups, group.points = responsesOf responses group.stepDefinitionId
  mem : ∀ stepID, stepID ∈ groups.map (·.stepDefinitionId) ↔ responsesOf responses stepID ≠ []

theorem Grouped.addToGroup (h : Grouped groups responses) (step : HistoryStepMetricPoint)
    (point : HistoryMetricPoint) :
    Grouped (Suites.addToGroup groups step point) (responses ++ [(step, point)]) := by
  have hadded : ∀ stepID, responsesOf [(step, point)] stepID =
      if step.stepDefinitionId = stepID then [point] else [] := by
    intro stepID
    by_cases hsame : step.stepDefinitionId = stepID <;> simp [responsesOf, hsame]
  by_cases hknown : step.stepDefinitionId ∈ groups.map (·.stepDefinitionId)
  · have hany :
        (groups.any fun group => group.stepDefinitionId = step.stepDefinitionId) = true := by
      simpa using hknown
    have hids : (Suites.addToGroup groups step point).map (·.stepDefinitionId) =
        groups.map (·.stepDefinitionId) := by
      grind [Suites.addToGroup, List.map_map, List.map_congr_left]
    refine ⟨by rw [hids]; exact h.nodup, ?_, ?_⟩
    · intro group hgroup
      rw [Suites.addToGroup, if_pos hany] at hgroup
      obtain ⟨old, hold, rfl⟩ := List.mem_map.mp hgroup
      rw [responsesOf_append, hadded]
      by_cases hsame : old.stepDefinitionId = step.stepDefinitionId
      · rw [if_pos hsame, if_pos hsame.symm, h.points old hold]
      · rw [if_neg hsame, if_neg (Ne.symm hsame), List.append_nil, h.points old hold]
    · intro stepID
      rw [hids, h.mem, responsesOf_append, hadded]
      by_cases hsame : step.stepDefinitionId = stepID
      · subst hsame
        simp [(h.mem _).mp hknown]
      · simp [hsame]
  · have hany :
        ¬ (groups.any fun group => group.stepDefinitionId = step.stepDefinitionId) = true := by
      simpa using hknown
    have hnone : responsesOf responses step.stepDefinitionId = [] := by
      by_contra hne
      exact hknown ((h.mem _).mpr hne)
    have hids : (Suites.addToGroup groups step point).map (·.stepDefinitionId) =
        groups.map (·.stepDefinitionId) ++ [step.stepDefinitionId] := by
      rw [Suites.addToGroup, if_neg hany, List.map_append]
      rfl
    refine ⟨?_, ?_, ?_⟩
    · rw [hids]
      exact h.nodup.append (by simp) (by simpa using hknown)
    · intro group hgroup
      rw [Suites.addToGroup, if_neg hany, List.mem_append, List.mem_singleton] at hgroup
      rw [responsesOf_append, hadded]
      rcases hgroup with hold | rfl
      · have hother : step.stepDefinitionId ≠ group.stepDefinitionId := by
          intro hsame
          rw [hsame] at hknown
          exact hknown (List.mem_map_of_mem hold)
        rw [if_neg hother, List.append_nil, h.points group hold]
      · rw [if_pos rfl, hnone, List.nil_append]
    · intro stepID
      rw [hids, List.mem_append, h.mem, List.mem_singleton, responsesOf_append, hadded]
      by_cases hsame : step.stepDefinitionId = stepID
      · simp [hsame]
      · simp [hsame, Ne.symm hsame]

theorem grouped_groupSteps : Grouped (groupSteps points) (stepResponses points) := by
  rw [groupSteps_eq_foldl]
  have hfold : ∀ (more seen : List (HistoryStepMetricPoint × HistoryMetricPoint)) groups,
      Grouped groups seen → Grouped (more.foldl
        (fun groups response => Suites.addToGroup groups response.1 response.2) groups)
          (seen ++ more) := by
    intro more
    induction more with
    | nil =>
      intro seen groups h
      rw [List.append_nil]
      exact h
    | cons response more ih =>
      intro seen groups h
      have hnext := ih _ _ (h.addToGroup response.1 response.2)
      rwa [List.append_assoc] at hnext
  exact hfold (stepResponses points) [] [] ⟨by simp, by simp, by simp [responsesOf]⟩

theorem grouped_visit (order : MapOrder StepGroup) :
    Grouped (order.visit (groupSteps points)) (stepResponses points) := by
  have hperm := order.perm (groupSteps points)
  have hgrouped : Grouped (groupSteps points) (stepResponses points) := grouped_groupSteps
  refine ⟨(hperm.map _).nodup_iff.mpr hgrouped.nodup,
    fun group hgroup => hgrouped.points group (hperm.mem_iff.mp hgroup), fun stepID => ?_⟩
  rw [(hperm.map _).mem_iff, hgrouped.mem]

end Responses

/-! ## Summaries of response times -/

section Summaries

theorem summarize_nil : summarize [] = emptyDistribution := by decide +kernel

@[simp] theorem sampleCount_withValues (values : List Int) (distribution : Distribution) :
    (withValues values distribution).sampleCount = distribution.sampleCount := by
  simp only [withValues]
  split <;> rfl

theorem contribution_stepPoint (point : HistoryMetricPoint) (value : Int) :
    (stepPoint point value).contribution? =
      some (.succeeded (some ⟨point.runId, value, point.createdAt⟩)) := rfl

theorem summarize_responsesOf_ne {points : List HistoryMetricPoint} {stepID : String}
    (h : responsesOf (stepResponses points) stepID ≠ []) :
    summarize (responsesOf (stepResponses points) stepID) ≠ emptyDistribution := by
  obtain ⟨response, hresponse⟩ := List.exists_mem_of_ne_nil _ h
  obtain ⟨⟨step, single⟩, hmem, rfl⟩ := List.mem_map.mp hresponse
  obtain ⟨point, -, hstep⟩ := List.mem_flatMap.mp (List.mem_filter.mp hmem).1
  obtain ⟨occurrence, -, hvalue⟩ := List.mem_filterMap.mp hstep
  obtain ⟨value, -, hpair⟩ := Option.map_eq_some_iff.mp hvalue
  rw [Prod.mk.injEq] at hpair
  obtain ⟨-, rfl⟩ := hpair
  intro hempty
  have hcount : (summarize (responsesOf (stepResponses points) stepID)).sampleCount = 0 := by
    rw [hempty]
    rfl
  simp only [summarize, distributionOf, sampleCount_withValues, List.length_eq_zero_iff,
    List.filterMap_eq_nil_iff, List.mem_filterMap] at hcount
  have hnone := hcount _ ⟨_, hresponse, contribution_stepPoint point value⟩
  simp [Contribution.point?] at hnone

end Summaries

/-! ## The slice -/

section Slice

variable {known : List String} {spare : Nat} {config : DeploymentConfiguration}

/-- The groups whose update of a known step reaches the slice: those that are visited while the
`added` new steps still fit. -/
def keptGroups (known : List String) (spare : Nat) : Nat → List StepGroup → List StepGroup
  | _, [] => []
  | added, group :: groups =>
    if group.stepDefinitionId ∈ known then
      if added ≤ spare then group :: keptGroups known spare added groups
      else keptGroups known spare added groups
    else keptGroups known spare (added + 1) groups

def newGroups (known : List String) (groups : List StepGroup) : List StepGroup :=
  groups.filter fun group => group.stepDefinitionId ∉ known

def newStep (config : DeploymentConfiguration) (group : StepGroup) : StepComparison :=
  completeStep config (summarize group.points)
    { stepDefinitionId := group.stepDefinitionId
      stepName := group.stepName
      baseline := emptyDistribution
      post := emptyDistribution
      comparison := ⟨.unset, 0, 0⟩ }

/-- A step of the baseline after the updates that reach it. -/
def completedBy (config : DeploymentConfiguration) (kept : List StepGroup)
    (step : StepComparison) : StepComparison :=
  match kept.find? fun group => group.stepDefinitionId = step.stepDefinitionId with
  | some group => completeStep config (summarize group.points) step
  | none => step

@[simp] theorem completeStep_stepDefinitionId (post : Distribution) (step : StepComparison) :
    (completeStep config post step).stepDefinitionId = step.stepDefinitionId := rfl

@[simp] theorem newStep_stepDefinitionId (group : StepGroup) :
    (newStep config group).stepDefinitionId = group.stepDefinitionId := rfl

@[simp] theorem completedBy_stepDefinitionId (kept : List StepGroup) (step : StepComparison) :
    (completedBy config kept step).stepDefinitionId = step.stepDefinitionId := by
  rw [completedBy]
  split <;> rfl

theorem keptGroups_sublist (added : Nat) (groups : List StepGroup) :
    (keptGroups known spare added groups).Sublist groups := by
  induction groups generalizing added with
  | nil => exact List.nil_sublist _
  | cons group groups ih =>
    grind [keptGroups]

variable {group : StepGroup}

theorem mem_keptGroups_of_fits {added : Nat} {groups : List StepGroup}
    (hfits : added + (newGroups known groups).length ≤ spare) (hmem : group ∈ groups)
    (hknown : group.stepDefinitionId ∈ known) : group ∈ keptGroups known spare added groups := by
  induction groups generalizing added with
  | nil => simp at hmem
  | cons head groups ih =>
    grind [newGroups, keptGroups]

theorem keptGroups_of_moved {added : Nat} (hmoved : spare < added) (groups : List StepGroup) :
    keptGroups known spare added groups = [] := by
  induction groups generalizing added with
  | nil => rfl
  | cons group groups ih =>
    rw [keptGroups, ih hmoved, ih (Nat.lt_succ_of_lt hmoved)]
    split
    · rw [if_neg (by omega)]
    · rfl

theorem keptGroups_newFirst {added : Nat} {groups rest : List StepGroup}
    (hnew : ∀ group ∈ groups, group.stepDefinitionId ∉ known)
    (hmoved : spare < added + groups.length) :
    keptGroups known spare added (groups ++ rest) = [] := by
  induction groups generalizing added with
  | nil => exact keptGroups_of_moved hmoved rest
  | cons group groups ih =>
    grind [keptGroups]

theorem completedBy_completeStep {kept : List StepGroup}
    (hnodup : group.stepDefinitionId ∉ kept.map (·.stepDefinitionId)) (step : StepComparison) :
    completedBy config kept
        (if step.stepDefinitionId = group.stepDefinitionId then
          completeStep config (summarize group.points) step else step) =
      completedBy config (group :: kept) step := by
  by_cases hsame : step.stepDefinitionId = group.stepDefinitionId
  · grind [completedBy, completeStep_stepDefinitionId, decide_true]
  · rw [if_neg hsame, completedBy, completedBy]
    simp only [List.find?_cons, Ne.symm hsame, decide_false]

variable {steps : List StepComparison}

theorem completeGroup_of_room
    (hknown : group.stepDefinitionId ∈ known) (hroom : steps.length ≤ known.length + spare) :
    completeGroup known spare config steps group = steps.map fun step =>
      if step.stepDefinitionId = group.stepDefinitionId then
        completeStep config (summarize group.points) step
      else step := by
  simp only [completeGroup, if_pos hknown, if_pos hroom]

theorem completeGroup_of_moved
    (hknown : group.stepDefinitionId ∈ known) (hmoved : ¬ steps.length ≤ known.length + spare) :
    completeGroup known spare config steps group = steps := by
  simp only [completeGroup, if_pos hknown, if_neg hmoved]

theorem completeGroup_of_new (hnew : group.stepDefinitionId ∉ known) :
    completeGroup known spare config steps group = steps ++ [newStep config group] := by
  simp only [completeGroup, if_neg hnew]
  rfl

/-- **The loop of `completeSteps`.**  The baseline's steps with the updates that reach them, then
the new steps in the order in which they were visited. -/
theorem foldl_completeGroup (groups : List StepGroup)
    (hnodup : (groups.map (·.stepDefinitionId)).Nodup) :
    ∀ base news : List StepComparison, base.length = known.length →
      (∀ step ∈ news, step.stepDefinitionId ∉ known) →
      groups.foldl (completeGroup known spare config) (base ++ news) =
        base.map (completedBy config (keptGroups known spare news.length groups)) ++ news ++
          (newGroups known groups).map (newStep config) := by
  induction groups with
  | nil =>
    intro base news _ _
    have hid : completedBy config [] = id := funext fun _ => rfl
    simp [keptGroups, newGroups, hid]
  | cons group groups ih =>
    intro base news hlength hnews
    rw [List.map_cons, List.nodup_cons] at hnodup
    rw [List.foldl_cons, newGroups, List.filter_cons]
    by_cases hknown : group.stepDefinitionId ∈ known
    · rw [if_neg (by simpa using hknown)]
      by_cases hroom : news.length ≤ spare
      · have hkept : keptGroups known spare news.length (group :: groups) =
            group :: keptGroups known spare news.length groups := by
          rw [keptGroups, if_pos hknown, if_pos hroom]
        have hnews' : (news.map fun step =>
            if step.stepDefinitionId = group.stepDefinitionId then
              completeStep config (summarize group.points) step else step) = news := by
          refine (List.map_congr_left fun step hstep => ?_).trans (List.map_id news)
          refine if_neg fun hsame => hnews step hstep ?_
          rw [hsame]
          exact hknown
        have hlost : group.stepDefinitionId ∉
            (keptGroups known spare news.length groups).map (·.stepDefinitionId) := fun hmem =>
          hnodup.1 (((keptGroups_sublist news.length groups).map _).subset hmem)
        rw [completeGroup_of_room hknown (by rw [List.length_append, hlength]; omega),
          List.map_append, hnews', ih hnodup.2 _ news (by rw [List.length_map, hlength]) hnews,
          hkept, List.map_map]
        have hupdates : (fun step => completedBy config
            (keptGroups known spare news.length groups)
              (if step.stepDefinitionId = group.stepDefinitionId then
                completeStep config (summarize group.points) step else step)) =
            completedBy config (group :: keptGroups known spare news.length groups) :=
          funext fun step => completedBy_completeStep hlost step
        rw [← hupdates]
        rfl
      · have hkept : keptGroups known spare news.length (group :: groups) =
            keptGroups known spare news.length groups := by
          rw [keptGroups, if_pos hknown, if_neg hroom]
        rw [completeGroup_of_moved hknown (by rw [List.length_append, hlength]; omega),
          ih hnodup.2 base news hlength hnews, hkept]
        rfl
    · have hkept : keptGroups known spare news.length (group :: groups) =
          keptGroups known spare (news ++ [newStep config group]).length groups := by
        rw [keptGroups, if_neg hknown, List.length_append]
        rfl
      have hmore : ∀ step ∈ news ++ [newStep config group], step.stepDefinitionId ∉ known := by
        intro step hstep
        rcases List.mem_append.mp hstep with hold | hadded
        · exact hnews step hold
        · rw [List.mem_singleton.mp hadded]
          exact hknown
      rw [if_pos (by simpa using hknown), completeGroup_of_new hknown, List.append_assoc,
        ih hnodup.2 base _ hlength hmore, hkept, List.map_cons]
      simp [newGroups]

end Slice

/-! ## Complete comparisons -/

section Complete

variable {existing : List StepComparison} {points : List HistoryMetricPoint}
  {config : DeploymentConfiguration} {spare : Nat} {order : MapOrder StepGroup}

/-- The steps that `baselineSteps` returns: each once, without post-deployment side. -/
structure IsBaseline (existing : List StepComparison) : Prop where
  nodup : (existing.map (·.stepDefinitionId)).Nodup
  post : ∀ step ∈ existing, step.post = emptyDistribution
  pending : ∀ step ∈ existing, step.comparison.classification = .pending

theorem isBaseline_baselineSteps (order : MapOrder StepGroup) (points : List HistoryMetricPoint) :
    IsBaseline (baselineSteps order points) := by
  have hperm := List.perm_insertionSort (fun a b : StepComparison => a.stepName ≤ b.stepName)
    ((order.visit (groupSteps points)).map fun group =>
      { stepDefinitionId := group.stepDefinitionId
        stepName := group.stepName
        baseline := summarize group.points
        post := emptyDistribution
        comparison := ⟨.pending, 0, 0⟩ : StepComparison })
  refine ⟨?_, fun step hstep => ?_, fun step hstep => ?_⟩
  · rw [baselineSteps, (hperm.map _).nodup_iff, List.map_map]
    exact (grouped_visit order).nodup
  · obtain ⟨group, -, rfl⟩ := List.mem_map.mp (hperm.mem_iff.mp hstep)
    rfl
  · obtain ⟨group, -, rfl⟩ := List.mem_map.mp (hperm.mem_iff.mp hstep)
    rfl

def pointStepIds (points : List HistoryMetricPoint) : List String :=
  points.flatMap fun point => point.steps.map (·.stepDefinitionId)

/-- One entry for each step of the baseline and of the points.  Each has the summary of exactly its
own response times, and is classified by its own distributions. -/
structure CompleteComparison (existing : List StepComparison) (points : List HistoryMetricPoint)
    (config : DeploymentConfiguration) (result : List StepComparison) : Prop where
  once : (result.map (·.stepDefinitionId)).Nodup
  mem : ∀ stepID, stepID ∈ result.map (·.stepDefinitionId) ↔
    stepID ∈ existing.map (·.stepDefinitionId) ∨ stepID ∈ pointStepIds points
  post : ∀ step ∈ result,
    step.post = summarize (responsesOf (stepResponses points) step.stepDefinitionId)
  classified : ∀ step ∈ result, step.comparison = classify step.baseline step.post config

/-- The last loop of `completeSteps`. -/
def finishStep (config : DeploymentConfiguration) (step : StepComparison) : StepComparison :=
  if step.comparison.classification = .pending then completeStep config step.post step else step

theorem classify_ne_pending (base post : Distribution) :
    (classify base post config).classification ≠ .pending := by
  grind [classify, Numeric.roundTenths]

theorem finishStep_completeStep (post : Distribution) (step : StepComparison) :
    finishStep config (completeStep config post step) = completeStep config post step :=
  if_neg (classify_ne_pending _ _)

@[simp] theorem finishStep_stepDefinitionId (step : StepComparison) :
    (finishStep config step).stepDefinitionId = step.stepDefinitionId := by
  rw [finishStep]
  split <;> rfl

theorem completeSteps_eq (order : MapOrder StepGroup) (spare : Nat)
    (existing : List StepComparison) (points : List HistoryMetricPoint)
    (config : DeploymentConfiguration) :
    completeSteps order spare existing points config =
      (existing.map fun step => finishStep config (completedBy config
        (keptGroups (existing.map (·.stepDefinitionId)) spare 0
          (order.visit (groupSteps points))) step)) ++
      (newGroups (existing.map (·.stepDefinitionId)) (order.visit (groupSteps points))).map
        (newStep config) := by
  let known := existing.map (·.stepDefinitionId)
  let groups := order.visit (groupSteps points)
  have hfold : groups.foldl (completeGroup known spare config) (existing ++ []) =
      existing.map (completedBy config (keptGroups known spare 0 groups)) ++ [] ++
        (newGroups known groups).map (newStep config) :=
    foldl_completeGroup groups (grouped_visit order).nodup existing [] (by rw [List.length_map])
      (by simp)
  rw [List.append_nil, List.append_nil] at hfold
  have hnew : ∀ groups : List StepGroup,
      (groups.map (newStep config)).map (finishStep config) = groups.map (newStep config) := by
    intro groups
    rw [List.map_map]
    exact List.map_congr_left fun group _ => finishStep_completeStep _ _
  show ((order.visit (groupSteps points)).foldl (completeGroup _ spare config) existing).map
    (finishStep config) = _
  rw [hfold, List.map_append, hnew, List.map_map]
  rfl

/-- What completes a step of the baseline: the summary of its group, if the update reaches it. -/
def reachedBy (kept : List StepGroup) (stepID : String) : Distribution :=
  match kept.find? fun group => group.stepDefinitionId = stepID with
  | some group => summarize group.points
  | none => emptyDistribution

variable {stepID : String}

theorem reachedBy_of_lost {kept : List StepGroup} (hlost : stepID ∉ kept.map (·.stepDefinitionId)) :
    reachedBy kept stepID = emptyDistribution := by
  grind [List.find?_eq_none, List.mem_map_of_mem, reachedBy]

theorem reachedBy_eq {kept groups : List StepGroup}
    {responses : List (HistoryStepMetricPoint × HistoryMetricPoint)}
    (hgrouped : Grouped groups responses) (hsublist : kept.Sublist groups)
    (hkept : responsesOf responses stepID ≠ [] → stepID ∈ kept.map (·.stepDefinitionId)) :
    reachedBy kept stepID = summarize (responsesOf responses stepID) := by
  by_cases hmem : stepID ∈ kept.map (·.stepDefinitionId)
  · obtain ⟨member, hmember, hid⟩ := List.mem_map.mp hmem
    cases hfound : kept.find? fun group => group.stepDefinitionId = stepID with
    | none =>
      have hunequal := List.find?_eq_none.mp hfound member hmember
      simp [hid] at hunequal
    | some group =>
      have hgroup := hsublist.subset (List.mem_of_find?_eq_some hfound)
      have hid : group.stepDefinitionId = stepID := by
        simpa using List.find?_some hfound
      rw [reachedBy, hfound, ← hid]
      exact congrArg summarize (hgrouped.points group hgroup)
  · grind [responsesOf, reachedBy_of_lost, summarize_nil]

theorem finishStep_completedBy {kept : List StepGroup} {step : StepComparison}
    (hpost : step.post = emptyDistribution) (hpending : step.comparison.classification = .pending) :
    finishStep config (completedBy config kept step) =
      completeStep config (reachedBy kept step.stepDefinitionId) step := by
  grind [completedBy, reachedBy, finishStep_completeStep, finishStep]

theorem mem_completeSteps (hbaseline : IsBaseline existing) {entry : StepComparison} :
    entry ∈ completeSteps order spare existing points config ↔
      (∃ step ∈ existing, completeStep config (reachedBy (keptGroups
        (existing.map (·.stepDefinitionId)) spare 0 (order.visit (groupSteps points)))
          step.stepDefinitionId) step = entry) ∨
      ∃ group ∈ newGroups (existing.map (·.stepDefinitionId)) (order.visit (groupSteps points)),
        newStep config group = entry := by
  rw [completeSteps_eq, List.mem_append, List.mem_map, List.mem_map]
  refine or_congr_left (exists_congr fun step => and_congr_right fun hstep => ?_)
  rw [finishStep_completedBy (hbaseline.post step hstep) (hbaseline.pending step hstep)]

theorem map_stepDefinitionId_completeSteps :
    (completeSteps order spare existing points config).map (·.stepDefinitionId) =
      existing.map (·.stepDefinitionId) ++ (newGroups (existing.map (·.stepDefinitionId))
        (order.visit (groupSteps points))).map (·.stepDefinitionId) := by
  rw [completeSteps_eq, List.map_append, List.map_map, List.map_map]
  congr 1
  exact List.map_congr_left fun step _ => by simp

theorem mem_pointStepIds_of_responses
    (h : responsesOf (stepResponses points) stepID ≠ []) : stepID ∈ pointStepIds points := by
  obtain ⟨response, hresponse⟩ := List.exists_mem_of_ne_nil _ h
  obtain ⟨⟨step, single⟩, hmem, -⟩ := List.mem_map.mp hresponse
  obtain ⟨hstep, hid⟩ := List.mem_filter.mp hmem
  obtain ⟨point, hpoint, hoccurs⟩ := List.mem_flatMap.mp hstep
  obtain ⟨occurrence, hoccurrence, hvalue⟩ := List.mem_filterMap.mp hoccurs
  obtain ⟨value, -, hpair⟩ := Option.map_eq_some_iff.mp hvalue
  rw [Prod.mk.injEq] at hpair
  refine List.mem_flatMap.mpr ⟨point, (List.mem_filter.mp hpoint).1, ?_⟩
  rw [← of_decide_eq_true hid, ← hpair.1]
  exact List.mem_map_of_mem hoccurrence

theorem mem_newGroups_ids {known : List String} :
    stepID ∈ (newGroups known (order.visit (groupSteps points))).map (·.stepDefinitionId) ↔
      responsesOf (stepResponses points) stepID ≠ [] ∧ stepID ∉ known := by
  rw [← (grouped_visit order).mem]
  simp only [newGroups, List.mem_map, List.mem_filter, decide_eq_true_eq]
  constructor
  · rintro ⟨group, ⟨hgroup, hnew⟩, rfl⟩
    exact ⟨⟨group, hgroup, rfl⟩, hnew⟩
  · rintro ⟨⟨group, hgroup, rfl⟩, hnew⟩
    exact ⟨group, ⟨hgroup, hnew⟩, rfl⟩

/-- **One order.**  The comparison is complete exactly if every step of the points was measured or
is known, and the update of each measured step of the baseline reaches it. -/
theorem completeSteps_order_iff (hbaseline : IsBaseline existing) :
    CompleteComparison existing points config (completeSteps order spare existing points config) ↔
      (∀ stepID ∈ pointStepIds points, stepID ∈ existing.map (·.stepDefinitionId) ∨
        responsesOf (stepResponses points) stepID ≠ []) ∧
      ∀ step ∈ existing, responsesOf (stepResponses points) step.stepDefinitionId ≠ [] →
        step.stepDefinitionId ∈ (keptGroups (existing.map (·.stepDefinitionId)) spare 0
          (order.visit (groupSteps points))).map (·.stepDefinitionId) := by
  have hgrouped : Grouped (order.visit (groupSteps points)) (stepResponses points) :=
    grouped_visit order
  constructor
  · intro hcomplete
    refine ⟨fun stepID hmem => ?_, fun step hstep hresponses => ?_⟩
    · have hresult := (hcomplete.mem stepID).mpr (Or.inr hmem)
      rw [map_stepDefinitionId_completeSteps, List.mem_append, mem_newGroups_ids] at hresult
      exact hresult.imp_right And.left
    · by_contra hlost
      have hpost := hcomplete.post _ ((mem_completeSteps hbaseline).mpr (Or.inl ⟨step, hstep, rfl⟩))
      rw [reachedBy_of_lost hlost] at hpost
      exact summarize_responsesOf_ne hresponses hpost.symm
  · rintro ⟨hpoints, hkept⟩
    refine ⟨?_, fun stepID => ?_, fun entry hentry => ?_, fun entry hentry => ?_⟩
    · rw [map_stepDefinitionId_completeSteps]
      refine hbaseline.nodup.append ((List.filter_sublist.map _).nodup hgrouped.nodup) ?_
      intro stepID hold hnew
      exact (mem_newGroups_ids.mp hnew).2 hold
    · rw [map_stepDefinitionId_completeSteps, List.mem_append, mem_newGroups_ids]
      constructor
      · rintro (hold | ⟨hresponses, -⟩)
        · exact Or.inl hold
        · exact Or.inr (mem_pointStepIds_of_responses hresponses)
      · grind
    · rcases (mem_completeSteps hbaseline).mp hentry with ⟨step, hstep, rfl⟩ | ⟨group, hgroup, rfl⟩
      · exact reachedBy_eq hgrouped (keptGroups_sublist 0 _) (hkept step hstep)
      · exact congrArg summarize (hgrouped.points group (List.mem_filter.mp hgroup).1)
    · rcases (mem_completeSteps hbaseline).mp hentry with ⟨step, -, rfl⟩ | ⟨group, -, rfl⟩ <;> rfl

/-! ### Every order -/

def newFirst (known : List String) : MapOrder StepGroup where
  visit groups := newGroups known groups ++
    groups.filter fun group => !decide (group.stepDefinitionId ∉ known)
  perm groups := List.filter_append_perm _ groups

def newStepIds (existing : List StepComparison) (points : List HistoryMetricPoint) :
    List String :=
  (((stepResponses points).map (·.1.stepDefinitionId)).dedup).filter
    fun stepID => stepID ∉ existing.map (·.stepDefinitionId)

theorem mem_newStepIds : stepID ∈ newStepIds existing points ↔
    responsesOf (stepResponses points) stepID ≠ [] ∧
      stepID ∉ existing.map (·.stepDefinitionId) := by
  have hresponses : stepID ∈ (stepResponses points).map (·.1.stepDefinitionId) ↔
      responsesOf (stepResponses points) stepID ≠ [] := by
    rw [responsesOf, ne_eq, List.map_eq_nil_iff, List.filter_eq_nil_iff]
    simp
  rw [newStepIds, List.mem_filter, List.mem_dedup, hresponses]
  simp

theorem length_newGroups (order : MapOrder StepGroup) :
    (newGroups (existing.map (·.stepDefinitionId)) (order.visit (groupSteps points))).length =
      (newStepIds existing points).length := by
  rw [← List.length_map (fun group : StepGroup => group.stepDefinitionId)]
  refine List.Perm.length_eq ((List.perm_ext_iff_of_nodup ?_ ?_).mpr fun stepID => ?_)
  · exact (List.filter_sublist.map _).nodup (grouped_visit order).nodup
  · exact (List.nodup_dedup _).filter _
  · rw [mem_newGroups_ids, mem_newStepIds]

/-- **Every order.**  The comparison of steps is complete however its groups are visited exactly if
every step of the points is one of the baseline or was measured, and the new steps fit into the
room of the slice or no step of the baseline was measured. -/
theorem completeSteps_complete_iff (spare : Nat) (existing : List StepComparison)
    (points : List HistoryMetricPoint) (config : DeploymentConfiguration)
    (hbaseline : IsBaseline existing) :
    (∀ order : MapOrder StepGroup, CompleteComparison existing points config
        (completeSteps order spare existing points config)) ↔
      (∀ stepID ∈ pointStepIds points, stepID ∈ existing.map (·.stepDefinitionId) ∨
        responsesOf (stepResponses points) stepID ≠ []) ∧
      ((newStepIds existing points).length ≤ spare ∨
        ∀ step ∈ existing, responsesOf (stepResponses points) step.stepDefinitionId = []) := by
  constructor
  · intro hcomplete
    obtain ⟨hpoints, hkept⟩ := (completeSteps_order_iff hbaseline).mp
      (hcomplete (newFirst (existing.map (·.stepDefinitionId))))
    refine ⟨hpoints, ?_⟩
    by_contra hneither
    rw [not_or, not_le] at hneither
    obtain ⟨hmoved, hmeasured⟩ := hneither
    have hnone : keptGroups (existing.map (·.stepDefinitionId)) spare 0
        ((newFirst (existing.map (·.stepDefinitionId))).visit (groupSteps points)) = [] := by
      refine keptGroups_newFirst (fun group hgroup => ?_) ?_
      · simpa using (List.mem_filter.mp hgroup).2
      · rw [Nat.zero_add]
        exact (length_newGroups (MapOrder.insertion StepGroup)).symm ▸ hmoved
    refine hmeasured fun step hstep => ?_
    by_contra hresponses
    have hmem := hkept step hstep hresponses
    rw [hnone] at hmem
    simp at hmem
  · rintro ⟨hpoints, hroom⟩ order
    refine (completeSteps_order_iff hbaseline).mpr ⟨hpoints, fun step hstep hresponses => ?_⟩
    have hfits : (newStepIds existing points).length ≤ spare :=
      hroom.resolve_right fun hnothing => hresponses (hnothing step hstep)
    obtain ⟨group, hgroup, hid⟩ := List.mem_map.mp
      (((grouped_visit order).mem step.stepDefinitionId).mpr hresponses)
    have hknown : group.stepDefinitionId ∈ existing.map (·.stepDefinitionId) := by
      rw [hid]
      exact List.mem_map_of_mem hstep
    refine List.mem_map.mpr ⟨group, mem_keptGroups_of_fits ?_ hgroup hknown, hid⟩
    rw [length_newGroups, Nat.zero_add]
    exact hfits

end Complete

/-! ## A step that was added with the deployment -/

section Added

def stepRun (steps : List (String × Int)) : HistoryMetricPoint where
  runId := 1
  revisionId := 1
  status := .success
  failureCategory := ""
  createdAt := 1000
  apiResponseTimeMs := some (steps.map Prod.snd).sum
  executionDurationMs := 900
  steps := steps.map fun (stepID, value) => ⟨stepID, stepID, "API", .success, some value⟩

def addedConfiguration : DeploymentConfiguration := ⟨1, 1, 20, 50, fun _ => none, []⟩

/-- The baseline knows `login` only. -/
def loginBaseline : List StepComparison :=
  baselineSteps (.insertion StepGroup) [stepRun [("login", 100)]]

/-- `checkout` is visited first and moves the slice: `login`, twice as slow, keeps its empty
distribution. -/
theorem completeSteps_added_incomplete :
    ¬ CompleteComparison loginBaseline [stepRun [("login", 200), ("checkout", 80)]]
      addedConfiguration (completeSteps (newFirst ["login"]) 0 loginBaseline
        [stepRun [("login", 200), ("checkout", 80)]] addedConfiguration) := by
  intro hcomplete
  have hlost : ∃ step ∈ completeSteps (newFirst ["login"]) 0 loginBaseline
      [stepRun [("login", 200), ("checkout", 80)]] addedConfiguration,
        step.post ≠ summarize (responsesOf
          (stepResponses [stepRun [("login", 200), ("checkout", 80)]]) step.stepDefinitionId) := by
    decide +kernel
  obtain ⟨step, hstep, hpost⟩ := hlost
  exact hpost (hcomplete.post step hstep)

theorem completeSteps_complete_iff_login :
    (∀ order : MapOrder StepGroup, CompleteComparison loginBaseline [stepRun [("login", 200)]]
        addedConfiguration (completeSteps order 0 loginBaseline [stepRun [("login", 200)]]
          addedConfiguration)) ↔
      (∀ stepID ∈ pointStepIds [stepRun [("login", 200)]],
        stepID ∈ loginBaseline.map (·.stepDefinitionId) ∨
          responsesOf (stepResponses [stepRun [("login", 200)]]) stepID ≠ []) ∧
      ((newStepIds loginBaseline [stepRun [("login", 200)]]).length ≤ 0 ∨
        ∀ step ∈ loginBaseline,
          responsesOf (stepResponses [stepRun [("login", 200)]]) step.stepDefinitionId = []) :=
  completeSteps_complete_iff 0 loginBaseline [stepRun [("login", 200)]] addedConfiguration
    (isBaseline_baselineSteps _ _)

end Added

end Rhythm.Suites
