import Rhythm.Runs.StepLoop

/-!
# Rhythm.Runs.RunsEnd

Does every run end, with its events numbered without a gap?  Scripts may jump to any step, again and
again; the loop counts its turns, and every event is numbered by those that are there already.

`Appends` is what every function that records an event does to a run, `Run.Sound` what a turn keeps;
`runWithSnapshot_ends` follows by induction over what is left of the limit.
-/

namespace Rhythm.Runs.StepLoop

open Decoding (StepDefinition Definition)

/-! ## Numbered events -/

def Numbered (run : Run) : Prop :=
  run.events.map RunEvent.sequence = List.range' 1 run.events.length

/-- Events are added, and nothing else is written. -/
structure Appends (run run' : Run) : Prop where
  eq : run' = { run with events := run'.events }
  numbered : Numbered run → Numbered run'

def Appender.Sound (append : Appender) : Prop :=
  ∀ run type status message category, Appends run (append run type status message category)

section Appends

variable {run run' run'' : Run} {step : StepRun} {append : Appender}

theorem Appends.refl (run : Run) : Appends run run := ⟨rfl, id⟩

theorem Appends.trans (h : Appends run run') (h' : Appends run' run'') : Appends run run'' where
  eq := by
    rw [h'.eq, h.eq]
  numbered hrun := h'.numbered (h.numbered hrun)

theorem Appends.steps_eq (h : Appends run run') : run'.steps = run.steps := by rw [h.eq]

theorem Appends.status_eq (h : Appends run run') : run'.status = run.status := by rw [h.eq]

theorem appends_event {event : RunEvent} (h : event.sequence = run.events.length + 1) :
    Appends run { run with events := run.events ++ [event] } where
  eq := rfl
  numbered hrun := by
    have hevents : run.events.map RunEvent.sequence = List.range' 1 run.events.length := hrun
    rw [Numbered, List.map_append, hevents, List.length_append, List.map_singleton, h,
      List.length_singleton, List.range'_concat, Nat.one_mul, Nat.add_comm 1]

theorem sound_appendRunEvent : Appender.Sound appendRunEvent := fun _ _ _ _ _ => appends_event rfl

theorem sound_appendStepEvent (step : StepRun) : Appender.Sound (appendStepEvent step) :=
  fun _ _ _ _ _ => appends_event rfl

theorem appends_appendAttemptEvent (attempt : AttemptRun) :
    Appends run (appendAttemptEvent step run attempt) := appends_event rfl

theorem appends_foldl {α : Type} {f : Run → α → Run} (h : ∀ run a, Appends run (f run a))
    (items : List α) (run : Run) : Appends run (items.foldl f run) := by
  induction items generalizing run with
  | nil => exact .refl run
  | cons item items ih => exact (h run item).trans (ih (f run item))

theorem appends_appendAuxiliaryRequestEvents (h : append.Sound) (requests : List AuxiliaryRequest) :
    Appends run (appendAuxiliaryRequestEvents append run requests) := by
  refine appends_foldl (fun run (request, index) => ?_) _ run
  dsimp only
  split <;> exact h ..

theorem appends_appendScriptEvents (h : append.Sound) {type message : String} {status : Status}
    (script : ScriptResult) :
    Appends run (appendScriptEvents append type message status run script) := by
  unfold appendScriptEvents
  refine Appends.trans ?_ (appends_appendAuxiliaryRequestEvents h _)
  split <;> exact h ..

theorem Appends.ite {p : Prop} [Decidable p] (h : Appends run run') :
    Appends run (if p then run' else run) := by
  split
  · exact h
  · exact .refl run

theorem appends_appendScriptsStarted (step : StepDefinition) :
    Appends run (appendScriptsStarted run step) := by
  unfold appendScriptsStarted
  dsimp only
  refine Appends.trans ?_ (sound_appendRunEvent ..).ite
  exact (sound_appendRunEvent ..).ite

theorem appends_appendStarted (step : StepDefinition) (holds : Bool) :
    Appends run (appendStarted run step holds) := by
  unfold appendStarted
  dsimp only
  refine Appends.trans ?_ (appends_appendScriptsStarted step).ite
  exact sound_appendRunEvent ..

theorem appends_appendEvaluated (h : append.Sound) {type message category : String}
    {status : Status} {passed : List Bool} :
    Appends run (appendEvaluated append type message category status run passed) := by
  unfold appendEvaluated
  split
  · exact .refl run
  · exact h ..

theorem appends_appendStepEvents (step : StepRun) : Appends run (appendStepEvents run step) := by
  have happend := sound_appendStepEvent step
  unfold appendStepEvents
  dsimp only
  -- from the last event back to the first
  refine Appends.trans ?_ (sound_appendRunEvent ..)
  refine Appends.trans ?_ (appends_appendEvaluated happend)
  refine Appends.trans ?_ (appends_appendEvaluated happend)
  refine Appends.trans ?_ (appends_foldl (fun _ => appends_appendAttemptEvent) _ _)
  refine Appends.trans ?_ (happend ..).ite
  refine Appends.trans ?_ (appends_foldl (fun _ => appends_appendScriptEvents happend) _ _)
  exact appends_foldl (fun _ => appends_appendScriptEvents happend) _ _

end Appends

/-! ## What a turn keeps -/

/-- A run in the middle of an execution, or at its end. -/
structure Run.Sound (run : Run) : Prop where
  numbered : Numbered run
  status : run.status = .running ∨ run.status.isTerminal = true

section Sound

variable {h : Host} {d : Definition} {number index : Nat} {step : StepDefinition}
  {values : ValueMap} {run run' : Run} {result : StepRun}

theorem Run.Sound.appends (hrun : run.Sound) (happends : Appends run run') : run'.Sound where
  numbered := happends.numbered hrun.numbered
  status := by
    rw [happends.status_eq]
    exact hrun.status

theorem Run.Sound.fail (hrun : run.Sound) {status : Status} {category reason stepID : String}
    (hstatus : status.isTerminal = true) : (run.fail status category reason stepID).Sound where
  numbered := hrun.numbered
  status := .inr hstatus

theorem Run.Sound.afterStep (hrun : run.Sound) (step : StepDefinition) (holds : Bool)
    (result : StepRun) : (run.afterStep step holds result).Sound := by
  have hstarted := hrun.appends (appends_appendStarted step holds)
  have hstep : Run.Sound { appendStarted run step holds with
      steps := (appendStarted run step holds).steps ++ [result] } :=
    ⟨hstarted.numbered, hstarted.status⟩
  exact hstep.appends (appends_appendStepEvents result)

theorem afterStep_eq (run : Run) (step : StepDefinition) (holds : Bool) (result : StepRun) :
    (run.afterStep step holds result).steps = run.steps ++ [result] ∧
      (run.afterStep step holds result).status = run.status := by
  unfold Run.afterStep
  dsimp only
  rw [(appends_appendStepEvents result).steps_eq, (appends_appendStepEvents result).status_eq]
  rw [(appends_appendStarted step holds).steps_eq]
  exact ⟨rfl, (appends_appendStarted step holds).status_eq⟩

theorem stepRun_status_eq (h : Host) (number index : Nat) (step : StepDefinition)
    (outcome : Outcome) :
    (h.stepRun number index step outcome).status = .cancelled ∨
      (h.stepRun number index step outcome).status ∈ finishStatuses := by
  unfold Host.stepRun
  dsimp only
  split
  · exact .inl rfl
  · exact .inr outcome.finished

theorem isTerminal_of_not_passes {outcome : Outcome}
    (hpasses : (h.stepRun number index step outcome).passes = false) :
    (h.stepRun number index step outcome).status.isTerminal = true := by
  unfold StepRun.passes at hpasses
  obtain hstatus | hstatus := stepRun_status_eq h number index step outcome
  · rw [hstatus]
    rfl
  · revert hpasses hstatus
    generalize (h.stepRun number index step outcome).status = status
    cases status <;> decide

/-! ## One turn -/

/-- What a turn leaves is sound, and has at most so many steps. -/
def Turn.Sound (bound : Nat) : Turn → Prop
  | .stops run | .goesOn _ _ run => run.Sound ∧ run.steps.length ≤ bound
  | .fails _ => True

theorem sound_navigate (hrun : run.Sound) :
    Turn.Sound run.steps.length (h.navigate d index step result values run) := by
  have hevent := hrun.appends (sound_appendStepEvent result run "SCRIPT_WORKFLOW_NAVIGATION"
    result.status "JavaScript selected the next workflow step." "")
  unfold Host.navigate
  split
  · exact ⟨hrun, le_rfl⟩
  · dsimp only
    split
    · exact ⟨hevent, le_rfl⟩
    · split
      · exact ⟨hevent, le_rfl⟩
      · exact ⟨hevent.fail rfl, le_rfl⟩

theorem sound_visit (hrun : run.Sound) :
    Turn.Sound (run.steps.length + 1) (h.visit d number index step values run) := by
  unfold Host.visit
  dsimp only
  generalize hresult : h.stepRun number index step (h.executeStep number step values) = result
  have hsound := hrun.afterStep step (h.conditionHolds step values) result
  have hlength : (run.afterStep step (h.conditionHolds step values) result).steps.length =
      run.steps.length + 1 := by
    rw [(afterStep_eq run step _ result).1, List.length_append, List.length_singleton]
  split
  · exact ⟨hsound.fail rfl, hlength.le⟩
  · split
    · rename_i hpasses
      refine ⟨hsound.fail ?_, hlength.le⟩
      rw [← hresult] at hpasses ⊢
      exact isTerminal_of_not_passes hpasses
    · split
      · trivial
      · rw [← hlength]
        exact sound_navigate hsound

/-- **A turn keeps a run sound**, and adds one step at most. -/
theorem sound_turn (h : Host) (d : Definition) (number index : Nat) (step : StepDefinition)
    (values : ValueMap) (hrun : run.Sound) :
    Turn.Sound (run.steps.length + 1) (h.turn d number index step values run) := by
  unfold Host.turn
  split
  · exact ⟨hrun, Nat.le_succ _⟩
  · split
    · exact ⟨hrun.fail rfl, Nat.le_succ _⟩
    · split
      · exact ⟨hrun, Nat.le_succ _⟩
      · exact sound_visit hrun

theorem navigate_ne_fails {error : String} :
    h.navigate d index step result values run ≠ .fails error := by
  unfold Host.navigate
  split
  · exact nofun
  · dsimp only
    split
    · exact nofun
    · split <;> exact nofun

theorem save_of_turn_fails {error : String}
    (hturn : h.turn d number index step values run = .fails error) :
    h.save (.turn number) = some error := by
  grind [Host.turn, Host.visit, Turn.fails.inj, navigate_ne_fails]

/-! ## All turns -/

/-- **The loop keeps a run sound**, and adds no more steps than are left of the limit. -/
theorem sound_stepLoop (d : Definition) (hsaves : ∀ point, h.save point = none)
    (remaining number index : Nat) (values : ValueMap) (hrun : run.Sound) :
    ∃ run', stepLoop h d remaining number index values run = .ok run' ∧ run'.Sound ∧
      run'.steps.length ≤ run.steps.length + remaining := by
  induction remaining generalizing number index values run with
  | zero =>
    refine ⟨_, rfl, ?_, ?_⟩
    · split
      · exact hrun.fail rfl
      · exact hrun
    · split <;> exact le_rfl
  | succ remaining ih =>
    rw [stepLoop]
    cases d.steps[index]? with
    | none => exact ⟨run, rfl, hrun, Nat.le_add_right ..⟩
    | some step =>
      have hsound := sound_turn h d number index step values hrun
      dsimp only
      cases hturn : h.turn d number index step values run with
      | stops run' =>
        rw [hturn] at hsound
        exact ⟨run', rfl, hsound.1, hsound.2.trans (by omega)⟩
      | fails error =>
        have hsave := save_of_turn_fails hturn
        rw [hsaves] at hsave
        contradiction
      | goesOn index' values' run' =>
        rw [hturn] at hsound
        obtain ⟨last, hloop, hlast, hlength⟩ := ih (number + 1) index' values' hsound.1
        have hbound := hsound.2
        exact ⟨last, hloop, hlast, by omega⟩

/-! ## The whole run -/

theorem sound_startRun (h : Host) : h.startRun.Sound ∧ h.startRun.steps = [] := by
  have hempty : Run.Sound ⟨.running, "", "", "", h.started, none, none, [], []⟩ :=
    ⟨rfl, .inl rfl⟩
  have happends : Appends ⟨.running, "", "", "", h.started, none, none, [], []⟩ h.startRun := by
    unfold Host.startRun
    dsimp only
    refine Appends.trans ?_ (sound_appendRunEvent ..)
    exact (sound_appendRunEvent ..).ite
  exact ⟨hempty.appends happends, happends.steps_eq⟩

theorem appends_scriptEnded {type message category : String} {status : Status}
    (requests : List AuxiliaryRequest) :
    Appends run (appendAuxiliaryRequestEvents appendRunEvent
      (appendRunEvent run type status message category) requests) :=
  (sound_appendRunEvent ..).trans (appends_appendAuxiliaryRequestEvents sound_appendRunEvent _)

theorem sound_afterSetup (hrun : run.Sound) (script : ScriptResult) :
    (run.afterSetup script).Sound ∧ (run.afterSetup script).steps = run.steps := by
  have happends : Appends run (appendRunEvent run "PRE_REQUEST_SCRIPT_STARTED" .running
      "Monitor setup script started." "") := sound_appendRunEvent ..
  have hstarted : Run.Sound { appendRunEvent run "PRE_REQUEST_SCRIPT_STARTED" .running
      "Monitor setup script started." "" with setupScript := some script } :=
    ⟨(hrun.appends happends).numbered, (hrun.appends happends).status⟩
  unfold Run.afterSetup
  dsimp only
  split
  · exact ⟨hstarted.appends (appends_scriptEnded _), (appends_scriptEnded _).steps_eq⟩
  · exact ⟨(hstarted.fail rfl).appends (appends_scriptEnded _), (appends_scriptEnded _).steps_eq⟩

theorem sound_setUp (h : Host) (d : Definition) (values : ValueMap) (hrun : run.Sound) :
    (h.setUp d values run).2.Sound ∧ (h.setUp d values run).2.steps = run.steps := by
  unfold Host.setUp
  split
  · exact ⟨hrun, rfl⟩
  · exact sound_afterSetup hrun _

end Sound

/-- A run that has ended: its status is final, and it has at most as many steps as the limit. -/
structure Run.Ended (run : Run) : Prop where
  steps : run.steps.length ≤ stepLimit
  status : run.status.isTerminal = true
  endedAt : run.endedAt.isSome = true
  numbered : Numbered run

theorem ended_unprepared (h : Host) (category reason : String) :
    (h.unprepared h.startRun category reason).Ended := by
  obtain ⟨hsound, hsteps⟩ := sound_startRun h
  have happends := sound_appendRunEvent (h.startRun.fail .failed category reason
    h.startRun.failedStepID) "RUN_FAILED" .failed reason category
  refine ⟨?_, rfl, rfl, happends.numbered hsound.numbered⟩
  change h.startRun.steps.length ≤ stepLimit
  rw [hsteps]
  exact Nat.zero_le _

theorem ended_completed (h : Host) {run : Run} (hrun : run.Sound)
    (hsteps : run.steps.length ≤ stepLimit) : (h.completed run).Ended := by
  have hsettled : run.settled.status.isTerminal = true ∧ run.settled.steps = run.steps ∧
      Numbered run.settled := by
    unfold Run.settled
    split
    · exact ⟨rfl, rfl, hrun.numbered⟩
    · rename_i hrunning
      exact ⟨hrun.status.resolve_left hrunning, rfl, hrun.numbered⟩
  obtain ⟨hstatus, hsame, hnumbered⟩ := hsettled
  have happends := sound_appendRunEvent { run.settled with endedAt := some h.ended }
    "RUN_COMPLETED" run.settled.status "Execution reached a terminal state."
    run.settled.failureCategory
  refine ⟨?_, hstatus, rfl, happends.numbered hnumbered⟩
  change run.settled.steps.length ≤ stepLimit
  rw [hsame]
  exact hsteps

/-- **Every run ends**, whatever the steps leave and wherever the scripts jump: after at most 100
steps, with a final status and an end, and with its events numbered from 1 on. -/
theorem runWithSnapshot_ends (h : Host) (d : Definition) (hsaves : ∀ point, h.save point = none) :
    ∃ run, runWithSnapshot h d = .ok run ∧ run.Ended := by
  unfold runWithSnapshot
  rw [hsaves]
  dsimp only
  split
  · exact ⟨_, rfl, ended_unprepared h _ _⟩
  · split
    · exact ⟨_, rfl, ended_unprepared h _ _⟩
    · rename_i values _
      obtain ⟨hstart, hnone⟩ := sound_startRun h
      obtain ⟨hsetup, hsteps⟩ := sound_setUp h d values hstart
      obtain ⟨last, hloop, hlast, hlength⟩ :=
        sound_stepLoop d hsaves stepLimit 0 0 (h.setUp d values h.startRun).1 hsetup
      refine ⟨h.completed last, ?_, ended_completed h hlast ?_⟩
      · unfold Host.executeSteps
        rw [hloop, hsaves]
      · rw [hsteps, hnone] at hlength
        simpa using hlength

/-! ## A step that jumps to itself -/

/-- Everything is there, every save commits, and every step passes, with the same target. -/
def passingHost (next : Option String) : Host where
  floats := Preview.noFloats
  quote := fun text => "\"" ++ text ++ "\""
  started := 0
  ended := 1
  queued := false
  save := fun _ => none
  environment := some ⟨[], List.nodup_nil⟩
  resolveSecrets := some
  executeSetupScript := fun values => (⟨true, "", "", []⟩, values)
  cancelledBefore := fun _ => false
  cancelledDuring := fun _ => false
  execute := fun _ _ values =>
    { executed := { unexecuted .success "" "" with testNext := next }
      finished := (by decide : .success ∈ finishStatuses)
      produced := []
      values := values }

theorem runWithSnapshot_ends_jump :
    ∃ run, runWithSnapshot (passingHost (some "poll"))
      { steps := [{ id := "poll", type := "HTTP_REQUEST", enabled := true }] } = .ok run ∧
        run.Ended :=
  runWithSnapshot_ends _ _ fun _ => rfl

end Rhythm.Runs.StepLoop
