import Rhythm.Runs.ScriptRuns
import Rhythm.Scripts.Hiding

/-!
# Rhythm.Runs.ScriptEvidence

The results of the scripts of a run.  The secrets that a result masks are put together for each
event: a setup script and a pre-request script mask what their own code reads from the vault, a
Tests script also the private outputs of its step.

The results are kept with the run, so a result is to hide every sensitive value of the run, those of
other scripts and of later steps included (`scriptEvidence_along`).
-/

namespace Rhythm.Runs

open Text Scripts

/-! ## Scripts -/

/-- An execution of the script runtime. -/
structure ScriptExecution where
  /-- The aliases that `resolveScriptSecrets` finds in the code, with their values. -/
  resolved : Values
  /-- The secrets in the order in which a mask visits them. -/
  order : List String
  input : Evidence.Input
  behaviour : Evidence.Behaviour
  /-- The request that the step goes on with. -/
  request : Option RequestText
  requestSkipped : Bool

/-- `secretValues`, in some order. -/
def secretValues (secrets : Values) : List String :=
  (secrets.map Prod.snd).filter fun value => value ≠ ""

namespace ScriptExecution

variable (number : Rat → String) (x : ScriptExecution)

def result : Evidence.Result := Evidence.execute number x.order x.input x.behaviour

def succeeded : Bool := (x.result number).status = "SUCCESS"

/-- The stores that the step goes on with: those that the script left, or the public ones when it
has failed. -/
def stores : Evidence.Store → Values :=
  match x.behaviour with
  | .finished _ _ state _ =>
    if x.succeeded number then state.stores else (x.result number).stores
  | _ => (x.result number).stores

def scriptResult : ScriptResult where
  variableStore := x.stores number .variables
  environment := x.stores number .environment
  service := x.stores number .service
  application := x.stores number .application
  collection := x.stores number .collection
  globals := x.stores number .globals
  masked := (((x.result number).stores .variables).filter fun entry => entry.2 = "MASKED").map
    Prod.fst
  request := x.request
  requestSkipped := x.requestSkipped
  secrets := x.resolved.map Prod.snd

def scriptEnd : Option ScriptEnd :=
  if hmaps : ∀ scope ∈ Scope.all, (((x.scriptResult number).stores scope).map Prod.fst).Nodup then
    some ⟨x.scriptResult number, fun scope => hmaps scope (Scope.mem_all scope)⟩
  else none

/-- What is shown keeps the value back, when `given` are the secrets of the script. -/
def KeepsBack (given : Values) (value : String) : Prop :=
  ∀ one ∈ x.behaviour.shown number x.input,
    one.KeepsBack x.order value (value ∈ secretValues given)

end ScriptExecution

/-- `ExecuteSetupScript`: the runtime may be missing or a secret may not be resolved. -/
inductive SetupScript where
  | refused (category message : String)
  | executed (execution : ScriptExecution)

def ScriptResult.setupWrites (result : ScriptResult) : List (String × String) :=
  (result.variableStore.flatMap fun entry =>
      [(entry.1, entry.2), ("variables." ++ entry.1, entry.2)]) ++
    bareWrites "collection." result.collection ++ bareWrites "environment." result.environment ++
    scopedWrites "service." result.service ++ scopedWrites "application." result.application ++
    scopedWrites "globals." result.globals

/-! ## Runs -/

/-- A run whose scripts are executed. -/
structure EvidenceState where
  step : StepState
  /-- The results that are kept with the run. -/
  results : List Evidence.Result

def EvidenceState.initial (values : Values) : EvidenceState := ⟨.initial values, []⟩

inductive EvidencePhase where
  | setupScript (script : SetupScript)
  /-- The actions before a request, with the values that they leave. -/
  | actions (actions : List ActionConfig) (outputs : Values)
  | preRequestScript (script : ScriptExecution)
  /-- The request is built. -/
  | request
  | extractors (extracted : List (ExtractorConfig × String))
  | testScript (script : ScriptExecution)
  /-- The outputs of a step are published, with the status code of its response. -/
  | publish (stepID : String) (statusCode : Option String)
  /-- A step of type `ACTION`. -/
  | actionStep (stepID : String) (actions : List ActionConfig) (outputs : Values)
  /-- A step of type `METRIC_VALIDATION`, with its value. -/
  | metric (stepID : String) (value : Option String)

/-- The outputs of a step of type `ACTION`. -/
def actionOutputs (actions : List ActionConfig) (outputs : Values) :
    List (ActionConfig × String) :=
  producedOutputs (actions.filter fun action => action.enabled && action.output ≠ "") outputs

def EvidencePhase.sensitive : EvidencePhase → List String
  | .setupScript (.refused _ _) => []
  | .setupScript (.executed x) | .preRequestScript x | .testScript x => x.resolved.map Prod.snd
  | .actions configs outputs =>
    (sensitiveOutputs (producedOutputs (configs.filter ActionConfig.used) outputs)).map Prod.snd
  | .extractors extracted => (StepState.sensitiveValues extracted).map Prod.snd
  | .actionStep _ configs outputs =>
    (sensitiveOutputs (actionOutputs configs outputs)).map Prod.snd
  | .request | .publish _ _ | .metric _ _ => []

/-- The sensitive values of a run that do not occur in the text of the mask: the secrets of the
definition and those of the phases. -/
def sensitiveOf (values : Values) (phases : List EvidencePhase) : List String :=
  ((values.filter fun entry => hasPrefix entry.1 "secrets.").map Prod.snd ++
    phases.flatMap EvidencePhase.sensitive).filter fun value => !contains Evidence.masked value

namespace EvidenceState

variable (lib : RequestLibrary) (number : Rat → String) (s : EvidenceState)

def testSecrets (x : ScriptExecution) : Values :=
  x.resolved.writeAll ((s.step.privateOutputs.filter fun output => output.2 ≠ "").map
    fun output => ("response." ++ output.1, output.2))

def goOn (phase : StepPhase) : EvidenceState := { s with step := s.step.after lib phase }

/-- An execution of the runtime, when its secrets are those that it is given: the result is kept,
and the run goes on with what the script leaves. -/
def record (x : ScriptExecution) (given : Values) (after : ScriptEnd → StepState) :
    Option EvidenceState :=
  if x.order.Perm (secretValues given) then
    (x.scriptEnd number).map fun script => ⟨after script, s.results ++ [x.result number]⟩
  else none

end EvidenceState

/-- **One phase.** -/
def evidencePhase (lib : RequestLibrary) (number : Rat → String) (s : EvidenceState) :
    EvidencePhase → Option EvidenceState
  | .setupScript (.refused category message) =>
    some { s with results := s.results ++ [Evidence.failed {} category message] }
  | .setupScript (.executed x) =>
    s.record number x x.resolved fun script =>
      if x.succeeded number then
        { s.step with values := s.step.values.writeAll script.result.setupWrites }
      else s.step
  | .actions actions outputs => some (s.goOn lib (.actions actions outputs))
  | .preRequestScript x =>
    s.record number x x.resolved fun script =>
      s.step.after lib (.preRequestScript script (x.succeeded number))
  | .request => some (s.goOn lib .request)
  | .extractors extracted => some (s.goOn lib (.extractors extracted))
  | .testScript x =>
    s.record number x (s.testSecrets x) fun script =>
      if x.succeeded number then s.step.after lib (.testScript script) else s.step
  | .publish stepID statusCode => some (s.goOn lib (.publish stepID statusCode))
  | .actionStep stepID actions outputs =>
    some (s.goOn lib (.produce stepID ((actionOutputs actions outputs).map fun output =>
      (output.1.output, output.2))))
  | .metric stepID value =>
    some (s.goOn lib (.produce stepID (value.toList.map fun value => ("value", value))))

/-! ## What a run hides -/

def Hides (sensitive : List String) (result : Evidence.Result) : Prop :=
  ∀ value ∈ sensitive, ∀ text ∈ result.strings, contains text value = false

/-- The condition on a phase: what a script shows keeps the sensitive values back. -/
def KeepsSensitive (number : Rat → String) (sensitive : List String) (s : EvidenceState)
    (phase : EvidencePhase) (_ : EvidenceState) : Prop :=
  match phase with
  | .setupScript (.refused category message) =>
    ∀ value ∈ sensitive, ∀ one ∈ Evidence.endShown "FAILED" category (.asIs message),
      one.KeepsBack [] value False
  | .setupScript (.executed x) | .preRequestScript x =>
    ∀ value ∈ sensitive, x.KeepsBack number x.resolved value
  | .testScript x => ∀ value ∈ sensitive, x.KeepsBack number (s.testSecrets x) value
  | _ => True

instance (sensitive : List String) (result : Evidence.Result) :
    Decidable (Hides sensitive result) :=
  inferInstanceAs (Decidable (∀ value ∈ sensitive, _))

instance (number : Rat → String) (x : ScriptExecution) (given : Values) (value : String) :
    Decidable (x.KeepsBack number given value) :=
  inferInstanceAs (Decidable (∀ one ∈ x.behaviour.shown number x.input, _))

instance (number : Rat → String) (sensitive : List String) (s : EvidenceState)
    (phase : EvidencePhase) (s' : EvidenceState) :
    Decidable (KeepsSensitive number sensitive s phase s') :=
  match phase with
  | .setupScript (.refused _ _) | .setupScript (.executed _) | .preRequestScript _
  | .testScript _ => inferInstanceAs (Decidable (∀ value ∈ sensitive, _))
  | .actions _ _ | .request | .extractors _ | .publish _ _ | .actionStep _ _ _ | .metric _ _ =>
    isTrue trivial

section Along

variable {lib : RequestLibrary} {number : Rat → String} {sensitive : List String}
  {s s' : EvidenceState} {x : ScriptExecution} {given : Values}

theorem ScriptExecution.hides (horder : x.order.Perm (secretValues given))
    (hmasked : ∀ value ∈ sensitive, contains Evidence.masked value = false)
    (hkeeps : ∀ value ∈ sensitive, x.KeepsBack number given value) :
    Hides sensitive (x.result number) := fun value hvalue =>
  Evidence.hides_execute (hmasked value hvalue) horder.mem_iff.mpr (hkeeps value hvalue)

variable {after : ScriptEnd → StepState}

theorem record_eq_some (h : s.record number x given after = some s') :
    x.order.Perm (secretValues given) ∧ s'.results = s.results ++ [x.result number] := by
  rw [EvidenceState.record, Option.ite_none_right_eq_some] at h
  obtain ⟨horder, hend⟩ := h
  obtain ⟨script, -, rfl⟩ := Option.map_eq_some_iff.mp hend
  exact ⟨horder, rfl⟩

theorem hides_record (hmasked : ∀ value ∈ sensitive, contains Evidence.masked value = false)
    (hresults : ∀ result ∈ s.results, Hides sensitive result)
    (hkeeps : ∀ value ∈ sensitive, x.KeepsBack number given value)
    (h : s.record number x given after = some s') :
    ∀ result ∈ s'.results, Hides sensitive result := by
  obtain ⟨horder, hrecorded⟩ := record_eq_some h
  rw [hrecorded, List.forall_mem_append, List.forall_mem_singleton]
  exact ⟨hresults, x.hides horder hmasked hkeeps⟩

/-- **One phase.** -/
theorem hides_phase {phase : EvidencePhase}
    (hmasked : ∀ value ∈ sensitive, contains Evidence.masked value = false)
    (hresults : ∀ result ∈ s.results, Hides sensitive result)
    (hkeeps : KeepsSensitive number sensitive s phase s')
    (h : evidencePhase lib number s phase = some s') :
    ∀ result ∈ s'.results, Hides sensitive result := by
  cases phase with
  | setupScript script =>
    cases script with
    | refused category message =>
      cases h
      rw [List.forall_mem_append, List.forall_mem_singleton]
      refine ⟨hresults, fun value hvalue text htext => ?_⟩
      exact (Evidence.shows_failed htext).hides (hmasked value hvalue) False.elim
        (hkeeps value hvalue)
    | executed x => exact hides_record hmasked hresults hkeeps h
  | preRequestScript x | testScript x => exact hides_record hmasked hresults hkeeps h
  | actions _ _ | request | extractors _ | publish _ _ | actionStep _ _ _ | metric _ _ =>
    cases h
    exact hresults

end Along

/-- **Script evidence shows no sensitive value.**  Along every run whose scripts show nothing that
does not keep the sensitive values of the run back, no string of a result that is kept contains
one. -/
theorem scriptEvidence_along (lib : RequestLibrary) (number : Rat → String) (values : Values)
    (phases : List EvidencePhase)
    (h : Along (evidencePhase lib number) (KeepsSensitive number (sensitiveOf values phases))
      (.initial values) phases) :
    Along (evidencePhase lib number)
      (fun _ _ s' => ∀ result ∈ s'.results, Hides (sensitiveOf values phases) result)
      (.initial values) phases := by
  have hmasked : ∀ value ∈ sensitiveOf values phases,
      contains Evidence.masked value = false := fun value hvalue => by
    simpa using List.of_mem_filter hvalue
  refine Along.of_guard
    (I := fun s => ∀ result ∈ s.results, Hides (sensitiveOf values phases) result)
    (fun s phase s' hs hstep hkeeps => ?_) (fun result h => absurd h List.not_mem_nil) h
  have hresults := hides_phase hmasked hs hkeeps hstep
  exact ⟨hresults, hresults⟩

def secretScript (order : List String) (message testName value : String) : ScriptExecution where
  resolved := [("key", "k1")]
  order := order
  input := ⟨fun _ => [], none⟩
  behaviour := .finished ⟨[], [], [("log", message)], []⟩ [⟨testName, true, false, ""⟩]
    { stores := fun store => if store = .variables then [("session", value)] else []
      state := []
      request := none
      visualizer := none
      nextRequest := "" } false
  request := none
  requestSkipped := false

/-- The log and the variable of a Tests script are masked. -/
theorem scriptEvidence_along_log :
    Along (evidencePhase sampleLibrary fun _ => "0")
      (fun _ _ s' => ∀ result ∈ s'.results,
        Hides (sensitiveOf []
          [.extractors [(⟨true, "session", true⟩, "q7")],
            .testScript (secretScript ["q7", "k1"] "signed with k1" "status is 200" "q7")]) result)
      (.initial [])
      [.extractors [(⟨true, "session", true⟩, "q7")],
        .testScript (secretScript ["q7", "k1"] "signed with k1" "status is 200" "q7")] :=
  scriptEvidence_along sampleLibrary (fun _ => "0") [] _ (by decide +kernel)

/-- The name of a test is not masked. -/
theorem test_name_shown :
    ¬ ∀ lib number values phases,
      Along (evidencePhase lib number)
        (fun _ _ s' => ∀ result ∈ s'.results, Hides (sensitiveOf values phases) result)
        (.initial values) phases := by
  intro h
  have hrun := h sampleLibrary (fun _ => "0") []
    [.setupScript (.executed (secretScript ["k1"] "" "signed with k1" "eu"))]
  revert hrun
  decide +kernel

end Rhythm.Runs
