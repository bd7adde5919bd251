import Rhythm.Runs.Executable
import Rhythm.Runs.RunsEnd

/-!
# Rhythm.Runs.AllSteps

Are all steps executed?  As long as no script redirects the run, the loop goes through the steps in
their order.  It counts its turns against a limit of 100 that is meant for navigation, and a
disabled step takes a turn too; `ValidateDefinition` knows no limit.

`allStepsRun_iff` says which runs execute every enabled step up to the first that fails: those that
`RunsThrough`.
-/

namespace Rhythm.Runs.StepLoop

open Unmarshal
open Decoding (StepDefinition Definition)

/-! ## Steps that are to be executed -/

/-- A step of the definition, as a step of the run names it. -/
def StepRun.key (step : StepRun) : Nat × String := (step.stepOrder, step.stepDefinitionID)

/-- The enabled steps, with their places from `index` on. -/
def enabledFrom (index : Nat) (steps : List StepDefinition) : List (Nat × String) :=
  ((steps.zipIdx index).filter fun step => step.1.enabled).map fun step => (step.2 + 1, step.1.id)

/-- These steps are executed once each, in their order, up to the first that fails. -/
structure Executes (enabled : List (Nat × String)) (steps : List StepRun) : Prop where
  order : steps.map StepRun.key <+: enabled
  passed : ∀ step ∈ steps.dropLast, step.passes = true
  complete : (∀ step ∈ steps, step.passes = true) → steps.map StepRun.key = enabled

/-- **The law of steps.**  Every enabled step is executed once, in order, up to the first that
fails, and the run succeeds if none does. -/
def AllStepsRun (d : Definition) (result : Except String Run) : Prop :=
  ∃ run, result = .ok run ∧ Executes (enabledFrom 0 d.steps) run.steps ∧
    ((∀ step ∈ run.steps, step.passes = true) → run.status = .success)

/-- No script calls `setNextRequest`. -/
def Host.NeverRedirects (h : Host) : Prop :=
  ∀ number step values, (h.execute number step values).executed.testNext = none ∧
    (h.execute number step values).executed.preRequestNext = none

/-- The variables when the loop starts, if everything is there and the setup script succeeds. -/
def Host.prepared (h : Host) (d : Definition) : Option ValueMap := do
  let values ← h.environment
  let values ← h.resolveSecrets values
  if Text.trimSpace d.scripts.preRequest.code = "" then some values
  else if (h.executeSetupScript values).1.succeeded then some (h.executeSetupScript values).2
  else none

/-- **The condition on the steps**: until one fails, they are within the limit, disabled ones
included, the run is not cancelled before them, and they are saved. -/
def Lasts (h : Host) : List StepDefinition → Nat → ValueMap → Prop
  | [], _, _ => True
  | step :: steps, number, values =>
    number < stepLimit ∧ h.cancelledBefore number = false ∧
      if step.enabled = false then Lasts h steps (number + 1) values
      else
        let outcome := h.executeStep number step values
        let result := h.stepRun number number step outcome
        result.passes = true → h.save (.turn number) = none ∧
          Lasts h steps (number + 1) (publishedValues step outcome result)

/-- The condition after a step that is enabled. -/
abbrev LastsAfter (h : Host) (step : StepDefinition) (steps : List StepDefinition) (number : Nat)
    (values : ValueMap) : Prop :=
  let outcome := h.executeStep number step values
  let result := h.stepRun number number step outcome
  result.passes = true → h.save (.turn number) = none ∧
    Lasts h steps (number + 1) (publishedValues step outcome result)

def RunsThrough (h : Host) (d : Definition) : Prop :=
  h.save .start = none ∧ h.save .finish = none ∧
    ∃ values, h.prepared d = some values ∧ Lasts h d.steps 0 values

/-! ## One turn -/

section Turns

variable {h : Host} {d : Definition} {number index : Nat} {step : StepDefinition}
  {steps : List StepDefinition} {values : ValueMap} {run : Run}

theorem enabledFrom_cons : enabledFrom index (step :: steps) =
    if step.enabled then (index + 1, step.id) :: enabledFrom (index + 1) steps
    else enabledFrom (index + 1) steps := by
  rw [enabledFrom, List.zipIdx_cons, List.filter_cons]
  split <;> rfl

theorem next_stepRun (h : Host) (number index : Nat) (step : StepDefinition) (outcome : Outcome) :
    (h.stepRun number index step outcome).testNext = outcome.executed.testNext ∧
      (h.stepRun number index step outcome).preRequestNext = outcome.executed.preRequestNext := by
  unfold Host.stepRun
  dsimp only
  split <;> exact ⟨rfl, rfl⟩

theorem nextRequest_stepRun (hnever : h.NeverRedirects) :
    (h.stepRun number index step (h.executeStep number step values)).nextRequest = none := by
  have hexecuted : (h.executeStep number step values).executed.testNext = none ∧
      (h.executeStep number step values).executed.preRequestNext = none := by
    unfold Host.executeStep
    split
    · exact ⟨rfl, rfl⟩
    · exact ⟨rfl, rfl⟩
    · split
      · exact hnever number step values
      · exact hnever number step values
      · exact hnever number step values
      · exact ⟨rfl, rfl⟩
  obtain ⟨htest, hpre⟩ :=
    next_stepRun h number index step (h.executeStep number step values)
  rw [StepRun.nextRequest, htest, hpre, hexecuted.1, hexecuted.2]
  rfl

theorem turn_of_running (hrunning : run.status = .running) :
    h.turn d number index step values run =
      if h.cancelledBefore number then
        .stops (run.fail .cancelled "RUN_CANCELLED"
          "Execution was cancelled before the next step started." run.failedStepID)
      else if step.enabled = false then .goesOn (index + 1) values run
      else h.visit d number index step values run :=
  if_neg (not_not.mpr hrunning)

/-- What a turn with an enabled step comes to: the step is recorded; it ends the run, its save
fails, or the loop goes on to the next step. -/
theorem visit_cases (hnever : h.NeverRedirects) (d : Definition) (number index : Nat)
    (step : StepDefinition) (values : ValueMap) (run : Run) :
    let outcome := h.executeStep number step values
    let result := h.stepRun number index step outcome
    (result.passes = false ∧ ∃ run', h.visit d number index step values run = .stops run' ∧
        run'.steps = run.steps ++ [result]) ∨
      (result.passes = true ∧ ∃ error, h.save (.turn number) = some error ∧
        h.visit d number index step values run = .fails error) ∨
      (result.passes = true ∧ h.save (.turn number) = none ∧
        ∃ run', h.visit d number index step values run =
            .goesOn (index + 1) (publishedValues step outcome result) run' ∧
          run'.steps = run.steps ++ [result] ∧ run'.status = run.status) := by
  intro outcome result
  have hnext : result.nextRequest = none := nextRequest_stepRun hnever
  obtain ⟨hsteps, hstatus⟩ :=
    afterStep_eq run step (h.conditionHolds step values) result
  unfold Host.visit
  dsimp only
  split
  · rename_i hcancelled
    refine .inl ⟨?_, _, rfl, hsteps⟩
    have hcancelled : result.status = .cancelled := hcancelled
    rw [StepRun.passes, hcancelled]
    rfl
  · split
    · rename_i hpasses
      exact .inl ⟨hpasses, _, rfl, hsteps⟩
    · rename_i hpasses
      have hpasses : result.passes = true := by simpa using hpasses
      split
      · rename_i error hsave
        exact .inr (.inl ⟨hpasses, error, hsave, rfl⟩)
      · rename_i hsave
        refine .inr (.inr ⟨hpasses, hsave, _, ?_, hsteps, hstatus⟩)
        unfold Host.navigate
        rw [hnext]

end Turns

/-! ## The loop -/

section Loop

variable {h : Host} {d : Definition} {number : Nat} {values : ValueMap} {run run' : Run}
  {step : StepRun} {steps : List StepRun} {enabled : List (Nat × String)}
  {result : Except String Run}

theorem executes_nil : Executes [] [] :=
  ⟨List.nil_prefix, List.forall_mem_nil _, fun _ => rfl⟩

theorem executes_failed (hfails : step.passes = false) : Executes (step.key :: enabled) [step] where
  order := List.cons_prefix_cons.mpr ⟨rfl, List.nil_prefix⟩
  passed := List.forall_mem_nil _
  complete hall := by
    rw [hall step List.mem_cons_self] at hfails
    contradiction

theorem Executes.cons (hpasses : step.passes = true) (hsteps : Executes enabled steps) :
    Executes (step.key :: enabled) (step :: steps) where
  order := List.cons_prefix_cons.mpr ⟨rfl, hsteps.order⟩
  passed := by
    cases steps with
    | nil => exact List.forall_mem_nil _
    | cons next steps => exact List.forall_mem_cons.mpr ⟨hpasses, hsteps.passed⟩
  complete hall := by
    rw [List.map_cons, hsteps.complete (List.forall_mem_cons.mp hall).2]

/-- The loop executes these steps, and goes on running if none fails. -/
def Covers (enabled : List (Nat × String)) (run : Run) (result : Except String Run) : Prop :=
  ∃ run' steps, result = .ok run' ∧ run'.steps = run.steps ++ steps ∧ Executes enabled steps ∧
    ((∀ step ∈ steps, step.passes = true) → run'.status = .running)

def Misses (run : Run) (result : Except String Run) : Prop :=
  ∀ run', result = .ok run' →
    (∃ steps, run'.steps = run.steps ++ steps ∧ ∀ step ∈ steps, step.passes = true) ∧
      run'.status ≠ .running ∧ run'.status ≠ .success

theorem Covers.cons (hpasses : step.passes = true) (hrun : run'.steps = run.steps ++ [step])
    (hrest : Covers enabled run' result) : Covers (step.key :: enabled) run result := by
  obtain ⟨last, steps, hresult, hsteps, hexecutes, hstatus⟩ := hrest
  refine ⟨last, step :: steps, hresult, ?_, hexecutes.cons hpasses, fun hall => ?_⟩
  · rw [hsteps, hrun, List.append_assoc, List.singleton_append]
  · exact hstatus (List.forall_mem_cons.mp hall).2

theorem Misses.cons (hpasses : step.passes = true) (hrun : run'.steps = run.steps ++ [step])
    (hrest : Misses run' result) : Misses run result := by
  intro last hresult
  obtain ⟨⟨steps, hsteps, hall⟩, hstatus⟩ := hrest last hresult
  refine ⟨⟨step :: steps, ?_, List.forall_mem_cons.mpr ⟨hpasses, hall⟩⟩, hstatus⟩
  rw [hsteps, hrun, List.append_assoc, List.singleton_append]

theorem misses_fail {status : Status} {category reason stepID : String}
    (hstatus : status ≠ .running ∧ status ≠ .success) :
    Misses run (.ok (run.fail status category reason stepID)) := by
  intro last hresult
  obtain rfl : run.fail status category reason stepID = last := Except.ok.inj hresult
  exact ⟨⟨[], (List.append_nil _).symm, List.forall_mem_nil _⟩, hstatus⟩

theorem covers_visit {definition : StepDefinition} {rest : List StepDefinition} {remaining : Nat}
    (hnever : h.NeverRedirects) (hrunning : run.status = .running)
    (ih : ∀ values run, run.status = .running →
      (Lasts h rest (number + 1) values → Covers enabled run
        (stepLoop h d remaining (number + 1) (number + 1) values run)) ∧
      (¬ Lasts h rest (number + 1) values → Misses run
        (stepLoop h d remaining (number + 1) (number + 1) values run))) :
    (LastsAfter h definition rest number values →
      Covers ((number + 1, definition.id) :: enabled) run
        (match h.visit d number number definition values run with
        | .stops run => .ok run
        | .fails error => .error error
        | .goesOn index values run => stepLoop h d remaining (number + 1) index values run)) ∧
    (¬ LastsAfter h definition rest number values →
      Misses run
        (match h.visit d number number definition values run with
        | .stops run => .ok run
        | .fails error => .error error
        | .goesOn index values run => stepLoop h d remaining (number + 1) index values run)) := by
  have hcases := visit_cases hnever d number number definition values run
  unfold LastsAfter
  dsimp only at hcases ⊢
  generalize h.executeStep number definition values = outcome at hcases ⊢
  have hkey : (h.stepRun number number definition outcome).key = (number + 1, definition.id) := rfl
  rw [← hkey]
  generalize h.stepRun number number definition outcome = result at hcases ⊢
  obtain ⟨hfails, last, hvisit, hsteps⟩ | ⟨hpasses, error, hsave, hvisit⟩ |
    ⟨hpasses, hsave, last, hvisit, hsteps, hstatus⟩ := hcases
  · rw [hvisit]
    have hlasts : result.passes = true → h.save (.turn number) = none ∧
        Lasts h rest (number + 1) (publishedValues definition outcome result) := by
      simp [hfails]
    refine ⟨fun _ => ⟨last, [result], rfl, hsteps, executes_failed hfails, fun hall => ?_⟩,
      fun hnot => absurd hlasts hnot⟩
    rw [hall result List.mem_cons_self] at hfails
    contradiction
  · rw [hvisit]
    refine ⟨fun hlasts => ?_, fun _ _ => by simp⟩
    rw [(hlasts hpasses).1] at hsave
    contradiction
  · rw [hvisit]
    rw [← hstatus] at hrunning
    obtain ⟨hcovers, hmisses⟩ := ih (publishedValues definition outcome result) last hrunning
    refine ⟨fun hlasts => (hcovers (hlasts hpasses).2).cons hpasses hsteps, fun hnot => ?_⟩
    exact (hmisses fun hlasts => hnot fun _ => ⟨hsave, hlasts⟩).cons hpasses hsteps

/-- **The loop, when no script redirects it**: it executes the steps that are left, or misses some
for no failure of theirs. -/
theorem stepLoop_covers_iff (hnever : h.NeverRedirects) (d : Definition) (remaining : Nat)
    (values : ValueMap) (hlimit : number + remaining = stepLimit)
    (hrunning : run.status = .running) :
    (Lasts h (d.steps.drop number) number values →
      Covers (enabledFrom number (d.steps.drop number)) run
        (stepLoop h d remaining number number values run)) ∧
    (¬ Lasts h (d.steps.drop number) number values →
      Misses run (stepLoop h d remaining number number values run)) := by
  induction remaining generalizing number values run with
  | zero =>
    rw [stepLoop]
    by_cases hmore : number < d.steps.length
    · rw [if_pos hmore, List.drop_eq_getElem_cons hmore]
      exact ⟨fun hlasts => absurd hlasts.1 (by omega), fun _ => misses_fail ⟨by simp, by simp⟩⟩
    · rw [if_neg hmore, List.drop_eq_nil_of_le (Nat.not_lt.mp hmore)]
      exact ⟨fun _ => ⟨run, [], rfl, (List.append_nil _).symm, executes_nil, fun _ => hrunning⟩,
        fun hlasts => absurd trivial hlasts⟩
  | succ remaining ih =>
    rw [stepLoop]
    by_cases hmore : number < d.steps.length
    · rw [List.getElem?_eq_getElem hmore, List.drop_eq_getElem_cons hmore, enabledFrom_cons]
      generalize d.steps[number] = step
      have hnumber : number < stepLimit := by omega
      have hlimit' : number + 1 + remaining = stepLimit := by omega
      have hlasts : Lasts h (step :: d.steps.drop (number + 1)) number values ↔
          h.cancelledBefore number = false ∧
            if step.enabled = false then Lasts h (d.steps.drop (number + 1)) (number + 1) values
            else LastsAfter h step (d.steps.drop (number + 1)) number values :=
        and_iff_right hnumber
      rw [hlasts]
      dsimp only
      rw [turn_of_running hrunning]
      cases hcancelled : h.cancelledBefore number with
      | true =>
        exact ⟨fun hlasts => absurd hlasts.1 (by simp), fun _ => misses_fail ⟨by simp, by simp⟩⟩
      | false =>
        rw [and_iff_right rfl]
        cases henabled : step.enabled with
        | false => exact ih values hlimit' hrunning
        | true => exact covers_visit hnever hrunning fun values _ => ih values hlimit'
    · rw [List.getElem?_eq_none (Nat.not_lt.mp hmore),
        List.drop_eq_nil_of_le (Nat.not_lt.mp hmore)]
      exact ⟨fun _ => ⟨run, [], rfl, (List.append_nil _).symm, executes_nil, fun _ => hrunning⟩,
        fun hlasts => absurd trivial hlasts⟩

end Loop

/-! ## The whole run -/

section Whole

variable {h : Host} {d : Definition} {number index : Nat} {values : ValueMap} {run : Run}

theorem completed_eq (h : Host) (run : Run) : (h.completed run).steps = run.steps ∧
    (h.completed run).status = if run.status = .running then .success else run.status := by
  have hsettled : run.settled.steps = run.steps ∧
      run.settled.status = if run.status = .running then .success else run.status := by
    unfold Run.settled
    split <;> exact ⟨rfl, rfl⟩
  exact hsettled

theorem executeSteps_iff (hnever : h.NeverRedirects) (hrunning : run.status = .running)
    (hsteps : run.steps = []) :
    AllStepsRun d (h.executeSteps d values run) ↔
      h.save .finish = none ∧ Lasts h d.steps 0 values := by
  obtain ⟨hcovers, hmisses⟩ :=
    stepLoop_covers_iff hnever d stepLimit values (Nat.zero_add _) hrunning
  rw [List.drop_zero] at hcovers hmisses
  unfold Host.executeSteps
  by_cases hlasts : Lasts h d.steps 0 values
  · obtain ⟨last, steps, hloop, happend, hexecutes, hstatus⟩ := hcovers hlasts
    rw [hsteps, List.nil_append] at happend
    obtain ⟨hlast, hsettled⟩ := completed_eq h last
    rw [hloop, and_iff_left hlasts]
    cases hsave : h.save .finish with
    | some error => exact iff_of_false (by simp [AllStepsRun]) (by simp)
    | none =>
      refine ⟨fun _ => rfl, fun _ => ⟨h.completed last, rfl, ?_, fun hall => ?_⟩⟩
      · rw [hlast, happend]
        exact hexecutes
      · rw [hlast, happend] at hall
        rw [hsettled, if_pos (hstatus hall)]
  · refine iff_of_false (fun hall => ?_) fun hboth => hlasts hboth.2
    obtain ⟨run', hok, -, hsuccess⟩ := hall
    cases hloop : stepLoop h d stepLimit 0 0 values run with
    | error error =>
      rw [hloop] at hok
      contradiction
    | ok last =>
      obtain ⟨⟨steps, happend, hpasses⟩, hnotRunning, hnotSuccess⟩ := hmisses hlasts last hloop
      obtain ⟨hlast, hsettled⟩ := completed_eq h last
      rw [hloop] at hok
      dsimp only at hok
      split at hok
      · contradiction
      · grind

theorem not_allStepsRun_of_failed (hfailed : run.status = .failed) (hsteps : run.steps = []) :
    ¬ AllStepsRun d (h.executeSteps d values run) := by
  have hloop : stepLoop h d stepLimit 0 0 values run = .ok run := by
    rw [stepLimit, stepLoop]
    cases d.steps[0]? with
    | none => rfl
    | some step =>
      have hturn : h.turn d 0 0 step values run = .stops run :=
        if_pos (by simp [hfailed])
      dsimp only
      rw [hturn]
  rintro ⟨run', hok, -, hsuccess⟩
  unfold Host.executeSteps at hok
  rw [hloop] at hok
  dsimp only at hok
  split at hok
  · contradiction
  · grind [Except.ok.inj, completed_eq]

theorem status_startRun : h.startRun.status = .running := by
  unfold Host.startRun
  dsimp only
  split <;> rfl

theorem status_afterSetup (run : Run) (script : ScriptResult) : (run.afterSetup script).status =
    if script.succeeded then run.status else .failed := by
  unfold Run.afterSetup
  dsimp only
  split <;> exact (appends_scriptEnded _).status_eq

theorem setUp_iff (hnever : h.NeverRedirects) :
    AllStepsRun d (h.executeSteps d (h.setUp d values h.startRun).1
        (h.setUp d values h.startRun).2) ↔
      h.save .finish = none ∧ ∃ values',
        (if Text.trimSpace d.scripts.preRequest.code = "" then some values
        else if (h.executeSetupScript values).1.succeeded then
          some (h.executeSetupScript values).2
        else none) = some values' ∧ Lasts h d.steps 0 values' := by
  have hnone := (sound_startRun h).2
  have hsteps := (sound_setUp h d values (sound_startRun h).1).2
  rw [hnone] at hsteps
  unfold Host.setUp at hsteps ⊢
  by_cases hcode : Text.trimSpace d.scripts.preRequest.code = ""
  · rw [if_pos hcode, if_pos hcode, executeSteps_iff hnever status_startRun hnone]
    simp
  · rw [if_neg hcode] at hsteps ⊢
    rw [if_neg hcode]
    dsimp only at hsteps ⊢
    have hstatus := status_afterSetup h.startRun (h.executeSetupScript values).1
    cases hsucceeded : (h.executeSetupScript values).1.succeeded with
    | true =>
      rw [hsucceeded, if_pos rfl, status_startRun] at hstatus
      rw [executeSteps_iff hnever hstatus hsteps]
      simp
    | false =>
      rw [hsucceeded, if_neg (by simp)] at hstatus
      exact iff_of_false (not_allStepsRun_of_failed hstatus hsteps) (by simp)

end Whole

theorem not_allStepsRun_unprepared {h : Host} {d : Definition} (category reason : String) :
    ¬ AllStepsRun d (.ok (h.unprepared h.startRun category reason)) := by
  rintro ⟨run, hok, -, hsuccess⟩
  obtain rfl : h.unprepared h.startRun category reason = run := Except.ok.inj hok
  have hsteps : (h.unprepared h.startRun category reason).steps = [] :=
    (sound_startRun h).2
  have hstatus : (h.unprepared h.startRun category reason).status = .failed := rfl
  rw [hsteps, hstatus] at hsuccess
  exact absurd (hsuccess (List.forall_mem_nil _)) (by simp)

/-- **All steps run.**  When no script redirects it, a run executes every enabled step once, in
order, up to the first that fails, exactly when it runs through. -/
theorem allStepsRun_iff (h : Host) (d : Definition) (hnever : h.NeverRedirects) :
    AllStepsRun d (runWithSnapshot h d) ↔ RunsThrough h d := by
  unfold runWithSnapshot RunsThrough Host.prepared
  cases h.save .start with
  | some error => exact iff_of_false (by simp [AllStepsRun]) (by simp)
  | none =>
    rw [and_iff_right rfl]
    cases h.environment with
    | none => exact iff_of_false (not_allStepsRun_unprepared _ _) (by simp)
    | some values =>
      dsimp only
      cases hsecrets : h.resolveSecrets values with
      | none => exact iff_of_false (not_allStepsRun_unprepared _ _) (by simp [hsecrets])
      | some values' =>
        refine (setUp_iff hnever).trans ?_
        simp [hsecrets]

theorem allStepsRun_iff_passing :
    (passingHost none).NeverRedirects ∧
      (AllStepsRun { steps := [{ id := "login", type := "ACTION", enabled := true }] }
        (runWithSnapshot (passingHost none)
          { steps := [{ id := "login", type := "ACTION", enabled := true }] }) ↔
      RunsThrough (passingHost none)
        { steps := [{ id := "login", type := "ACTION", enabled := true }] }) :=
  ⟨fun _ _ _ => ⟨rfl, rfl⟩, allStepsRun_iff _ _ fun _ _ _ => ⟨rfl, rfl⟩⟩

/-! ## A hundred disabled steps -/

/-- An action step, by its identifier, and whether it is enabled. -/
def actionStep (step : String × Bool) : Json :=
  .obj [("id", .str step.1), ("type", .str "ACTION"), ("enabled", .bool step.2),
    ("actions", .arr [.obj []])]
def actionDefinition (step : String × Bool) : StepDefinition :=
  { id := step.1, type := "ACTION", enabled := step.2, actions := [{}] }

theorem decode_actionStep (numbers : NumberFormat) (step : String × Bool) :
    StepDefinition.decode numbers ((actionStep step).encode numbers) {} =
      some (actionDefinition step) := rfl

theorem decode_actions (numbers : NumberFormat) (steps : List (String × Bool)) :
    sliceItems (StepDefinition.decode numbers) {}
      (Json.encodeItems numbers (steps.map actionStep)) [] =
        some (steps.map actionDefinition) := by
  induction steps with
  | nil => rfl
  | cons step steps ih =>
    rw [List.map_cons, Json.encodeItems, sliceItems, List.headD_nil, List.tail_nil, ih,
      decode_actionStep]
    rfl

def actionsDocument (steps : List (String × Bool)) : Monitors.Definition :=
  [("steps", .arr (steps.map actionStep))]

variable {steps : List (String × Bool)}

theorem resolveDefinition_actions (numbers : NumberFormat)
    (hsteps : steps ≠ []) : Decoding.resolveDefinition numbers (actionsDocument steps) =
      .ok { steps := steps.map actionDefinition } := by
  have hdecode : Definition.decode numbers ((Json.obj (actionsDocument steps)).encode numbers) {} =
      some { steps := steps.map actionDefinition } := by
    change ((sliceItems (StepDefinition.decode numbers) {}
      (Json.encodeItems numbers (steps.map actionStep)) []).map
        fun new => ({ steps := new } : Definition)).bind some = _
    rw [decode_actions]
    rfl
  rw [Decoding.resolveDefinition, hdecode]
  obtain ⟨step, steps, rfl⟩ := List.exists_cons_of_ne_nil hsteps
  rfl

theorem stepErrors_actions (lib : Monitors.Library)
    (seen : List String) (index : Nat) (hnodup : (steps.map Prod.fst).Nodup)
    (hseen : ∀ step ∈ steps, step.1 ∉ seen)
    (htrim : ∀ step ∈ steps, Text.trimSpace step.1 ≠ "") :
    Monitors.stepErrors lib index seen (steps.map actionStep) = [] := by
  induction steps generalizing seen index with
  | nil => rfl
  | cons step steps ih =>
    obtain ⟨hfresh, hnodup⟩ := List.nodup_cons.mp hnodup
    obtain ⟨hnew, hseen⟩ := List.forall_mem_cons.mp hseen
    obtain ⟨hhead, htrim⟩ := List.forall_mem_cons.mp htrim
    have hlater : ∀ next ∈ steps, next.1 ∉ step.1 :: seen := by
      intro next hnext
      rw [List.mem_cons, not_or]
      exact ⟨fun heq => hfresh (heq ▸ List.mem_map_of_mem hnext), hseen next hnext⟩
    have hid : Monitors.text (member [("id", .str step.1), ("type", .str "ACTION"),
        ("enabled", .bool step.2), ("actions", .arr [.obj []])] "id") = step.1 := rfl
    rw [List.map_cons, actionStep, Monitors.stepErrors]
    rw [hid, ih _ _ hnodup hlater htrim, if_neg hhead, if_neg hnew]
    rfl

theorem validateDefinition_actions (lib : Monitors.Library)
    (hsteps : steps ≠ []) (hnodup : (steps.map Prod.fst).Nodup)
    (htrim : ∀ step ∈ steps, Text.trimSpace step.1 ≠ "") :
    Monitors.validateDefinition lib (actionsDocument steps) = [] := by
  have herrors := stepErrors_actions lib [] 0 hnodup
    (fun _ _ => List.not_mem_nil) htrim
  obtain ⟨step, steps, rfl⟩ := List.exists_cons_of_ne_nil hsteps
  have hscripts : member (actionsDocument (step :: steps)) "scripts" = .null := rfl
  have hmember : member (actionsDocument (step :: steps)) "steps" =
      .arr (actionStep step :: steps.map actionStep) := rfl
  rw [Monitors.validateDefinition, hscripts, hmember]
  dsimp only
  rw [List.nil_append]
  exact herrors

/-- An enabled step after `n` disabled ones. -/
def lastEnabled (n : Nat) : List (String × Bool) :=
  (List.range (n + 1)).map fun k => (String.ofList (List.replicate (k + 1) 'a'), decide (k = n))

theorem accepted_lastEnabled (lib : Monitors.Library) (n : Nat) :
    Monitors.validateDefinition lib (actionsDocument (lastEnabled n)) = [] := by
  have hnodup : ((lastEnabled n).map Prod.fst).Nodup := by
    rw [lastEnabled, List.map_map]
    refine List.Nodup.map (fun k k' hsame => ?_) List.nodup_range
    have hlength := congrArg (fun s : String => s.toList.length) hsame
    simpa using hlength
  have htrim : ∀ step ∈ lastEnabled n, Text.trimSpace step.1 ≠ "" := by
    intro step hstep
    obtain ⟨k, -, rfl⟩ := List.mem_map.mp hstep
    have hspace : ∀ c ∈ (String.ofList (List.replicate (k + 1) 'a')).toList,
        Text.isSpace c = false := by
      intro c hc
      rw [String.toList_ofList] at hc
      rw [List.eq_of_mem_replicate hc]
      decide
    dsimp only
    rw [Text.trimSpace_of_forall hspace]
    intro hempty
    have hlist := congrArg String.toList hempty
    rw [String.toList_ofList] at hlist
    contradiction
  refine validateDefinition_actions lib ?_ hnodup htrim
  simp [lastEnabled]

theorem lasts_disabled {h : Host} {disabled steps : List StepDefinition} {number : Nat}
    {values : ValueMap} (hdisabled : ∀ step ∈ disabled, step.enabled = false)
    (hlasts : Lasts h (disabled ++ steps) number values) :
    Lasts h steps (number + disabled.length) values := by
  induction disabled generalizing number with
  | nil => exact hlasts
  | cons step disabled ih =>
    obtain ⟨hstep, hdisabled⟩ := List.forall_mem_cons.mp hdisabled
    obtain ⟨-, -, hrest⟩ := hlasts
    rw [if_pos hstep] at hrest
    have hlater := ih hdisabled hrest
    rwa [Nat.add_right_comm, Nat.add_assoc] at hlater

theorem lt_of_lasts {h : Host} {n : Nat} {values : ValueMap}
    (hlasts : Lasts h ((lastEnabled n).map actionDefinition) 0 values) : n < stepLimit := by
  have hsplit : (lastEnabled n).map actionDefinition =
      ((List.range n).map fun k => actionDefinition
        (String.ofList (List.replicate (k + 1) 'a'), decide (k = n))) ++
      [actionDefinition (String.ofList (List.replicate (n + 1) 'a'), decide (n = n))] := by
    rw [lastEnabled, List.range_succ, List.map_append, List.map_append, List.map_map]
    rfl
  rw [hsplit] at hlasts
  have hdisabled : ∀ step ∈ (List.range n).map fun k => actionDefinition
      (String.ofList (List.replicate (k + 1) 'a'), decide (k = n)), step.enabled = false := by
    intro step hstep
    obtain ⟨k, hk, rfl⟩ := List.mem_map.mp hstep
    exact decide_eq_false (List.mem_range.mp hk).ne
  have hlast := (lasts_disabled hdisabled hlasts).1
  rwa [List.length_map, List.length_range, Nat.zero_add] at hlast

theorem runWithSnapshot_passing (next : Option String) (steps : List StepDefinition) :
    runWithSnapshot (passingHost next) { steps := steps } =
      (passingHost next).executeSteps { steps := steps } ⟨[], List.nodup_nil⟩
        (passingHost next).startRun := rfl

/-- **Disabled steps count as executed.**  A definition that is accepted, with one enabled step
after 100 disabled ones: nothing redirects or disturbs the run, and it executes no step. -/
theorem disabled_steps_count :
    Monitors.validateDefinition Decoding.anyScript (actionsDocument (lastEnabled 100)) = [] ∧
      Decoding.resolveDefinition .decimal (actionsDocument (lastEnabled 100)) =
        .ok { steps := (lastEnabled 100).map actionDefinition } ∧
      (passingHost none).NeverRedirects ∧
      ¬ AllStepsRun { steps := (lastEnabled 100).map actionDefinition }
        (runWithSnapshot (passingHost none)
          { steps := (lastEnabled 100).map actionDefinition }) := by
  have hnever : (passingHost none).NeverRedirects := fun _ _ _ => ⟨rfl, rfl⟩
  have hsteps : lastEnabled 100 ≠ [] := by simp [lastEnabled]
  refine ⟨accepted_lastEnabled _ 100, resolveDefinition_actions _ hsteps, hnever, fun hall => ?_⟩
  rw [runWithSnapshot_passing, executeSteps_iff hnever status_startRun (sound_startRun _).2] at hall
  exact absurd (lt_of_lasts hall.2) (Nat.lt_irrefl _)

end Rhythm.Runs.StepLoop
