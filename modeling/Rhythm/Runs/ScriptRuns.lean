import Rhythm.Runs.RequestEvidence
import Rhythm.Runs.ScriptWrites

/-!
# Rhythm.Runs.ScriptRuns

The promises of the scripts, over a run.  The execution of a step is taken apart into phases —
the actions, the scripts, the request, the publication of the outputs — and `runActions_phases` puts
them together again.  A promise made in one phase is followed through the later ones, of the
same step and of the later steps: it stands until an action, an extractor or a script
writes its name.

Two things break it.  The stores may be written back so that the names do not give what the script
left; and a step publishes the copy of a sensitive variable that it took before the script
wrote it.
-/

namespace Rhythm.Runs

open Text Network

/-! ## Phases -/

/-- What a script leaves, when the step goes on: its stores are maps. -/
structure ScriptEnd where
  result : ScriptResult
  maps : ∀ scope, ((result.stores scope).map Prod.fst).Nodup

/-- The variables while a step is executed. -/
structure StepState where
  /-- The variables of the run. -/
  values : Values
  /-- The variables that the request is rendered with. -/
  outputs : Values
  privateOutputs : Values
  /-- The values of the extractors. -/
  extracted : List (ExtractorConfig × String)

def StepState.initial (values : Values) : StepState := ⟨values, [], [], []⟩

inductive StepPhase where
  /-- The actions before the request, with the values that they leave. -/
  | actions (actions : List ActionConfig) (outputs : Values)
  /-- A script that fails may let the step go on; then its public stores are written back. -/
  | preRequestScript (script : ScriptEnd) (succeeded : Bool)
  /-- The request is built. -/
  | request
  | extractors (extracted : List (ExtractorConfig × String))
  | testScript (script : ScriptEnd)
  /-- The outputs of the step are published, with the status code of its response. -/
  | publish (stepID : String) (statusCode : Option String)
  /-- The outputs of a step without a request. -/
  | produce (stepID : String) (produced : Values)

def actionWrites (actions : List ActionConfig) (outputs : Values) : Values :=
  (producedOutputs (actions.filter ActionConfig.used) outputs).flatMap fun output =>
    [(output.1.output, output.2), ("variables." ++ output.1.output, output.2)]

namespace StepState

variable (lib : RequestLibrary) (s : StepState)

def publicValues : Values :=
  (s.extracted.filter fun result => !result.1.sensitive).map fun result =>
    (result.1.variableName, result.2)

def sensitiveValues (extracted : List (ExtractorConfig × String)) : Values :=
  (extracted.filter fun result => result.1.sensitive).map fun result =>
    (result.1.variableName, result.2)

def statusWrites (stepID : String) (statusCode : Option String) : Values :=
  statusCode.toList.map fun statusCode => ("steps." ++ stepID ++ ".response.statusCode", statusCode)

def publishWrites (stepID : String) (statusCode : Option String) : Values :=
  (s.publicValues ++ lib.walk "" s.privateOutputs).flatMap (publish stepID) ++
    statusWrites stepID statusCode

def after : StepPhase → StepState
  | .actions actions outputs =>
    let values := s.values.writeAll (actionWrites actions outputs)
    { values := values
      outputs := outputs ++ values.filter fun entry => (outputs.lookup entry.1).isNone
      privateOutputs := Values.writeAll []
        (sensitiveOutputs (producedOutputs (actions.filter ActionConfig.used) outputs))
      extracted := [] }
  | .preRequestScript script _ =>
    { s with
      values := s.values.writeAll script.result.preRequestWrites
      outputs := s.outputs.writeAll script.result.variableStore
      privateOutputs := s.privateOutputs.writeAll script.result.privateWrites }
  | .request =>
    { s with
      privateOutputs :=
        s.privateOutputs.writeAll (s.outputs.filter fun entry => knownKey entry.1) }
  | .extractors extracted =>
    { s with
      privateOutputs := s.privateOutputs.writeAll (sensitiveValues extracted)
      extracted := extracted }
  | .testScript script =>
    { s with
      values := s.values.writeAll script.result.testWrites
      privateOutputs := s.privateOutputs.writeAll script.result.privateWrites }
  | .publish stepID statusCode =>
    { s with values := s.values.writeAll (s.publishWrites lib stepID statusCode) }
  | .produce stepID produced =>
    { s with values := s.values.writeAll (produced.flatMap (publish stepID)) }

end StepState

def stepPhase (lib : RequestLibrary) (s : StepState) (phase : StepPhase) : Option StepState :=
  some (s.after lib phase)

/-! ## Steps as phases -/

/-- What happens while an HTTP step is executed, with the scripts that are run; that before the
request may have failed. -/
structure ScriptedOutcome where
  outputs : Option Values
  preRequestScript : Option (ScriptEnd × Bool)
  answer : Answer
  response : Option StepResponse
  testScript : Option ScriptEnd
  succeeded : Bool

def ScriptedOutcome.outcome (o : ScriptedOutcome) : HTTPOutcome where
  outputs := o.outputs
  preRequestScript := (o.preRequestScript.map fun script => script.1.result).getD .nothing
  answer := o.answer
  response := o.response
  testScript := (o.testScript.map ScriptEnd.result).getD .nothing
  succeeded := o.succeeded

/-- One step of the definition, with the scripts that are run. -/
inductive ScriptedStep where
  | http (step : HTTPStep) (outcome : ScriptedOutcome)
  | action (stepID : String) (actions : List ActionConfig) (outputs : Option Values)
  | metric (stepID : String) (value : Option String) (succeeded : Bool)

def ScriptedStep.phases (lib : RequestLibrary) (e : HTTPExecutor) (values : Values) :
    ScriptedStep → List StepPhase
  | .http step o =>
    match o.outputs with
    | none => []
    | some outputs =>
      .actions step.preRequest outputs ::
        ((o.preRequestScript.toList.map fun script => .preRequestScript script.1 script.2) ++
          if o.outcome.preRequestScript.requestSkipped then [.publish step.id none]
          else
            .request ::
              match requestSummary lib e step o.outcome values, o.response with
              | some _, some response =>
                .extractors (extractedValues step.extractors response.extracted) ::
                  (o.testScript.toList.map .testScript ++
                    [.publish step.id (some response.statusCode)])
              | _, _ => [.publish step.id none])
  | .action stepID actions outputs =>
    let produced := producedOutputs
      (actions.filter fun action => action.enabled && action.output ≠ "") (outputs.getD [])
    [.produce stepID (produced.map fun output => (output.1.output, output.2))]
  | .metric stepID value _ =>
    [.produce stepID (value.toList.map fun value => ("value", value))]

section Refinement

variable {lib : RequestLibrary} {e : HTTPExecutor} {s : StepState} {phases : List StepPhase}

theorem writeAll_append (values first last : Values) :
    values.writeAll (first ++ last) = (values.writeAll first).writeAll last :=
  List.foldl_append

end Refinement

/-! ## Promises over a run -/

/-- What the scripts have promised. -/
structure Ledger where
  /-- About the variables of the run. -/
  standing : List Promise
  /-- About the variables that the request is rendered with. -/
  owed : List Promise

def spared (names : List String) (promises : List Promise) : List Promise :=
  promises.filter fun promise => ∀ key ∈ readKeys promise.1, key ∉ names

/-- New promises, in the place of those of the same names. -/
def supersede (made promises : List Promise) : List Promise :=
  made ++ promises.filter fun promise => promise.1 ∉ made.map Prod.fst

/-- The names that a publication gives new values: those of the extractors, and the status code. -/
def StepState.publishedNames (s : StepState) (stepID : String) (statusCode : Option String) :
    List String :=
  ((s.publicValues ++ StepState.sensitiveValues s.extracted).flatMap (publish stepID) ++
    StepState.statusWrites stepID statusCode).map Prod.fst

def StepState.stores (s : StepState) (event : ScriptEvent) : Stores :=
  event.stores fun _ => s.values

/-- A script promises its keys; an action and an extractor take a promise back when they write its
name. -/
def Ledger.record (s : StepState) (phase : StepPhase) (_ : StepState) (ledger : Ledger) : Ledger :=
  match phase with
  | .actions actions outputs =>
    let standing := spared ((actionWrites actions outputs).map Prod.fst) ledger.standing
    { standing := standing
      owed := standing.filter fun promise =>
        ∀ key ∈ readKeys promise.1, outputs.lookup key = s.values.lookup key }
  | .preRequestScript script succeeded =>
    if succeeded then
      let made := promises (s.stores .preRequest) script.result.stores
      { standing := supersede made ledger.standing
        owed := supersede made ledger.owed }
    else ledger
  | .testScript script =>
    { ledger with
      standing := supersede (promises (s.stores .test) script.result.stores) ledger.standing }
  | .publish stepID statusCode =>
    { ledger with standing := spared (s.publishedNames stepID statusCode) ledger.standing }
  | .produce stepID produced =>
    { ledger with
      standing := spared ((produced.flatMap (publish stepID)).map Prod.fst) ledger.standing }
  | _ => ledger

/-- **The law of script writes.**  The names of the promises give what was promised, in the run and
in the request. -/
def ScriptWritesStand (x : StepState × Ledger) : Prop :=
  (∀ promise ∈ x.2.standing, Kept x.1.values promise) ∧
    ∀ promise ∈ x.2.owed, Kept x.1.outputs promise

/-- The stores of a pre-request script are taken by the run and by the request. -/
def TakesPreRequest (s : StepState) (script : ScriptEnd) : Prop :=
  Unspelled (s.stores .preRequest) script.result.stores ∧
    WriteBack.preRequest.Takes s.values (s.stores .preRequest) script.result.stores ∧
    WriteBack.request.Takes s.outputs (s.stores .preRequest) script.result.stores

def TakesTest (s : StepState) (script : ScriptEnd) : Prop :=
  Unspelled (s.stores .test) script.result.stores ∧
    WriteBack.test.Takes s.values (s.stores .test) script.result.stores

/-- The condition on a phase: the stores of a script are taken; what a failed script leaves and what
is published besides the values of the extractors repeats the promised values. -/
def TakesWrites (lib : RequestLibrary) (x : StepState × Ledger) (phase : StepPhase)
    (_ : StepState × Ledger) : Prop :=
  match phase with
  | .preRequestScript script succeeded =>
    if succeeded then TakesPreRequest x.1 script
    else
      (∀ promise ∈ x.2.standing, Repeats x.1.values script.result.preRequestWrites promise) ∧
        ∀ promise ∈ x.2.owed, Repeats x.1.outputs script.result.variableStore promise
  | .testScript script => TakesTest x.1 script
  | .publish stepID statusCode =>
    ∀ promise ∈ spared (x.1.publishedNames stepID statusCode) x.2.standing,
      Repeats x.1.values ((lib.walk "" x.1.privateOutputs).flatMap (publish stepID)) promise
  | _ => True

instance (x : StepState × Ledger) : Decidable (ScriptWritesStand x) :=
  inferInstanceAs (Decidable (_ ∧ _))

instance (s : StepState) (script : ScriptEnd) : Decidable (TakesPreRequest s script) :=
  inferInstanceAs (Decidable (_ ∧ _ ∧ _))

instance (s : StepState) (script : ScriptEnd) : Decidable (TakesTest s script) :=
  inferInstanceAs (Decidable (_ ∧ _))

instance (lib : RequestLibrary) (x : StepState × Ledger) (phase : StepPhase)
    (x' : StepState × Ledger) : Decidable (TakesWrites lib x phase x') :=
  match phase with
  | .preRequestScript _ _ => inferInstanceAs (Decidable (ite _ _ _))
  | .testScript _ => inferInstanceAs (Decidable (TakesTest _ _))
  | .publish _ _ => inferInstanceAs (Decidable (∀ promise ∈ spared _ _, _))
  | .actions _ _ | .request | .extractors _ | .produce _ _ => isTrue trivial

section Along

variable {lib : RequestLibrary} {s : StepState} {ledger : Ledger} {promises' : List Promise}
  {promise : Promise} {values writes : Values} {first last : Stores}

theorem mem_spared {names : List String} :
    promise ∈ spared names promises' ↔
      promise ∈ promises' ∧ ∀ key ∈ readKeys promise.1, key ∉ names := by
  rw [spared, List.mem_filter, decide_eq_true_iff]

theorem mem_supersede {made : List Promise} :
    promise ∈ supersede made promises' ↔
      promise ∈ made ∨ promise ∈ promises' ∧ promise.1 ∉ made.map Prod.fst := by
  rw [supersede, List.mem_append, List.mem_filter, decide_eq_true_iff]

theorem kept_of_spared (hkept : ∀ promise ∈ promises', Kept values promise)
    (h : promise ∈ spared (writes.map Prod.fst) promises') :
    Kept (values.writeAll writes) promise := by
  obtain ⟨hmem, hspared⟩ := mem_spared.mp h
  refine (hkept promise hmem).of_not_written fun entry hentry hread => ?_
  exact hspared entry.1 hread (List.mem_map_of_mem hentry)

theorem kept_of_supersede {back : WriteBack} (hun : Unspelled first last)
    (htakes : back.Takes values first last)
    (hwrites : back.Writes values (values.writeAll writes) first last)
    (hwritten : ∀ key value, (key, value) ∈ writes → WrittenBy last key)
    (hpromisable : ∀ promise ∈ promises', Promisable promise.1)
    (hkept : ∀ promise ∈ promises', Kept values promise)
    (h : promise ∈ supersede (promises first last) promises') :
    Kept (values.writeAll writes) promise := by
  obtain hmade | ⟨hold, hnamed⟩ := mem_supersede.mp h
  · exact htakes.kept hwrites hmade
  · refine (hkept promise hold).of_not_written fun entry hentry hread => ?_
    exact not_writtenBy hun (hpromisable promise hold) hnamed hread
      (hwritten entry.1 entry.2 hentry)

theorem promisable_of_supersede (hun : Unspelled first last)
    (hpromisable : ∀ promise ∈ promises', Promisable promise.1)
    (h : promise ∈ supersede (promises first last) promises') : Promisable promise.1 := by
  obtain hmade | ⟨hold, -⟩ := mem_supersede.mp h
  · exact promisable_of_mem hmade hun
  · exact hpromisable promise hold

theorem kept_outputs (lib : RequestLibrary) {actions : List ActionConfig} {outputs : Values}
    (hkept : ∀ promise ∈ ledger.standing, Kept s.values promise)
    (h : promise ∈ (Ledger.record s (.actions actions outputs) s ledger).owed) :
    Kept (s.after lib (.actions actions outputs)).outputs promise := by
  obtain ⟨hspared, hsame⟩ := List.mem_filter.mp h
  obtain ⟨hstanding, hnames⟩ := mem_spared.mp hspared
  rw [decide_eq_true_iff] at hsame
  have hread : ∀ key ∈ readKeys promise.1,
      (s.after lib (.actions actions outputs)).outputs.lookup key = s.values.lookup key := by
    intro key hkey
    show (outputs ++ _).lookup key = _
    rw [List.lookup_append, hsame key hkey]
    cases hvalue : s.values.lookup key with
    | some value => rfl
    | none =>
      have hafter : (s.values.writeAll (actionWrites actions outputs)).lookup key = none := by
        grind [Values.lookup_writeAll, Values.lookup_reverse_eq_none, List.mem_map_of_mem]
      rw [Option.none_or, Values.lookup_eq_none]
      intro value hmem
      exact Values.lookup_eq_none.mp hafter value (List.mem_of_mem_filter hmem)
  rw [Kept, resolves_congr hread, hkept promise hstanding]

theorem repeats_publishWrites {stepID : String} {statusCode : Option String}
    (hspared : promise ∈ spared (s.publishedNames stepID statusCode) promises')
    (hprivate :
      Repeats s.values ((lib.walk "" s.privateOutputs).flatMap (publish stepID)) promise) :
    Repeats s.values (s.publishWrites lib stepID statusCode) promise := by
  intro entry hentry hread
  have hnames := (mem_spared.mp hspared).2 entry.1 hread
  rw [StepState.publishedNames, List.flatMap_append, List.map_append, List.map_append,
    List.mem_append, List.mem_append] at hnames
  rw [StepState.publishWrites, List.flatMap_append, List.mem_append, List.mem_append] at hentry
  rcases hentry with (hentry | hentry) | hentry
  · exact absurd (.inl (.inl (List.mem_map_of_mem hentry))) hnames
  · exact hprivate entry hentry hread
  · exact absurd (.inr (List.mem_map_of_mem hentry)) hnames

/-- The law, for promises that can be made. -/
structure ScriptInvariant (x : StepState × Ledger) : Prop where
  stand : ScriptWritesStand x
  standing : ∀ promise ∈ x.2.standing, Promisable promise.1
  owed : ∀ promise ∈ x.2.owed, Promisable promise.1

theorem ScriptInvariant.preRequest {script : ScriptEnd} (h : ScriptInvariant (s, ledger))
    (htakes : TakesPreRequest s script) :
    ScriptInvariant (s.after lib (.preRequestScript script true),
      Ledger.record s (.preRequestScript script true) s ledger) := by
  obtain ⟨hun, hrun, hrequest⟩ := htakes
  constructor
  · constructor
    · intro promise hpromise
      exact kept_of_supersede hun hrun (writes_preRequest script.maps hun)
        (fun key value => writtenBy_preRequestWrites) h.standing h.stand.1 hpromise
    · intro promise hpromise
      exact kept_of_supersede hun hrequest (writes_request script.maps hun)
        (fun key value hmem => .inl ⟨.variableStore, value, hmem⟩) h.owed h.stand.2 hpromise
  · exact fun promise => promisable_of_supersede hun h.standing
  · exact fun promise => promisable_of_supersede hun h.owed

theorem ScriptInvariant.test {script : ScriptEnd} (h : ScriptInvariant (s, ledger))
    (htakes : TakesTest s script) :
    ScriptInvariant (s.after lib (.testScript script),
      Ledger.record s (.testScript script) s ledger) := by
  obtain ⟨hun, hrun⟩ := htakes
  constructor
  · constructor
    · intro promise hpromise
      exact kept_of_supersede hun hrun (writes_test script.maps hun)
        (fun key value => writtenBy_testWrites) h.standing h.stand.1 hpromise
    · exact h.stand.2
  · exact fun promise => promisable_of_supersede hun h.standing
  · exact h.owed

theorem promisable_of_spared {names : List String}
    (hpromisable : ∀ promise ∈ promises', Promisable promise.1) :
    ∀ promise ∈ spared names promises', Promisable promise.1 :=
  fun promise h => hpromisable promise (mem_spared.mp h).1

/-- **One phase.** -/
theorem scriptInvariant_step {phase : StepPhase} {x x' : StepState × Ledger}
    (h : ScriptInvariant x) (hstep : recording (stepPhase lib) Ledger.record x phase = some x')
    (hcondition : TakesWrites lib x phase x') : ScriptInvariant x' := by
  obtain ⟨s, ledger⟩ := x
  cases hstep
  obtain ⟨⟨hstand, howed⟩, hstanding, hpromisable⟩ := h
  cases phase with
  | actions actions outputs =>
    refine ⟨⟨fun promise => kept_of_spared hstand, fun promise => kept_outputs lib hstand⟩,
      promisable_of_spared hstanding, fun promise hpromise => ?_⟩
    exact promisable_of_spared hstanding promise (List.mem_of_mem_filter hpromise)
  | preRequestScript script succeeded =>
    cases succeeded with
    | true => exact ScriptInvariant.preRequest ⟨⟨hstand, howed⟩, hstanding, hpromisable⟩ hcondition
    | false =>
      obtain ⟨hrun, hrequest⟩ := hcondition
      refine ⟨⟨fun promise hpromise => ?_, fun promise hpromise => ?_⟩, hstanding, hpromisable⟩
      · exact (hstand promise hpromise).of_repeats (hrun promise hpromise)
      · exact (howed promise hpromise).of_repeats (hrequest promise hpromise)
  | request | extractors extracted => exact ⟨⟨hstand, howed⟩, hstanding, hpromisable⟩
  | testScript script =>
    exact ScriptInvariant.test ⟨⟨hstand, howed⟩, hstanding, hpromisable⟩ hcondition
  | publish stepID statusCode =>
    refine ⟨⟨fun promise hpromise => ?_, howed⟩, promisable_of_spared hstanding, hpromisable⟩
    have hkept := hstand promise (mem_spared.mp hpromise).1
    exact hkept.of_repeats (repeats_publishWrites hpromise (hcondition promise hpromise))
  | produce stepID produced =>
    exact ⟨⟨fun promise => kept_of_spared hstand, howed⟩, promisable_of_spared hstanding,
      hpromisable⟩

end Along

def Ledger.empty : Ledger := ⟨[], []⟩

/-- **Script writes stand.**  Along every run whose phases meet the condition, every name that a
script promises gives what the script left: in the request of its step, in the run, and in the
requests of the later steps. -/
theorem scriptWrites_along (lib : RequestLibrary) (values : Values) (phases : List StepPhase)
    (h : Along (recording (stepPhase lib) Ledger.record) (TakesWrites lib)
      (.initial values, .empty) phases) :
    Along (recording (stepPhase lib) Ledger.record) (fun _ _ x' => ScriptWritesStand x')
      (.initial values, .empty) phases := by
  refine Along.of_guard (I := ScriptInvariant) (fun x phase x' hx hstep hcondition => ?_) ?_ h
  · have hinvariant := scriptInvariant_step hx hstep hcondition
    exact ⟨hinvariant, hinvariant.stand⟩
  · exact ⟨⟨fun _ h => absurd h List.not_mem_nil, fun _ h => absurd h List.not_mem_nil⟩,
      fun _ h => absurd h List.not_mem_nil, fun _ h => absurd h List.not_mem_nil⟩

def scriptedStep (values : Values) (preRequestScript testScript : Option ScriptEnd) :
    ScriptedStep :=
  .http sampleStep
    { outputs := some values
      preRequestScript := preRequestScript.map fun script => (script, true)
      answer := none
      response := some ⟨"200", []⟩
      testScript := testScript
      succeeded := true }

def variableScript : ScriptEnd :=
  ⟨{ ScriptResult.nothing with variableStore := [("region", "eu")] }, by
    intro scope
    cases scope <;> decide⟩

/-- A Tests script that sets a variable. -/
theorem scriptWrites_along_variable :
    Along (recording (stepPhase sampleLibrary) Ledger.record) (fun _ _ x' => ScriptWritesStand x')
      (.initial [("secrets.key", "k1")], .empty)
      ((scriptedStep [("secrets.key", "k1")] none (some variableScript)).phases sampleLibrary
        sampleExecutor [("secrets.key", "k1")]) :=
  scriptWrites_along sampleLibrary [("secrets.key", "k1")] _ (by decide +kernel)

def environmentScript : ScriptEnd :=
  ⟨{ ScriptResult.nothing with environment := [("region", "eu")] }, by
    intro scope
    cases scope <;> decide⟩

/-- The request of the step is rendered with the old value. -/
theorem environment_write_not_rendered :
    ¬ ∀ lib values phases,
      Along (recording (stepPhase lib) Ledger.record) (fun _ _ x' => ScriptWritesStand x')
        (.initial values, .empty) phases := by
  intro h
  have hrun := h sampleLibrary [("environment.region", "us"), ("secrets.key", "k1")]
    ((scriptedStep [("environment.region", "us"), ("secrets.key", "k1")]
      (some environmentScript) none).phases sampleLibrary sampleExecutor
        [("environment.region", "us"), ("secrets.key", "k1")])
  revert hrun
  decide +kernel

end Rhythm.Runs
