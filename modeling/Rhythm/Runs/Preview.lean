import Rhythm.Runs.Conditions
import Rhythm.Runs.Domain
import Rhythm.Runs.Workflow

/-!
# Rhythm.Runs.Preview

Does a preview agree with a run?  The loop over the steps of a workflow is written twice, in
`PreviewDefinition` and in `runWithSnapshot`.  The run publishes two things that the preview does
not: the value of a metric, and the status code of a response.  The preview goes on after a step
with warnings, and after a failed one it goes on through the loop without executing anything, so
that the limit of 100 steps and a navigation may still change the result.

`sameExecution_iff` says that nothing else differs.  What a step, or the setup script, does is a
parameter; both loops are given the same one.  The run is not cancelled from outside, and its saves
commit.
-/

namespace Rhythm.Runs.Preview

/-! ## Variables -/

section Keys

variable {values writes : Values} {key value : String}

theorem keys_write :
    (values.write key value).map Prod.fst =
      if (values.lookup key).isSome then values.map Prod.fst else values.map Prod.fst ++ [key] := by
  grind [Values.write, Unmarshal.setKey, List.map_map, List.map_congr_left]

theorem nodup_write (h : (values.map Prod.fst).Nodup) :
    ((values.write key value).map Prod.fst).Nodup := by
  rw [keys_write]
  split
  · exact h
  · rename_i hnone
    rw [Option.not_isSome_iff_eq_none, Values.lookup_eq_none] at hnone
    refine List.nodup_append.mpr ⟨h, List.nodup_singleton key, fun name hname other hother => ?_⟩
    obtain ⟨entry, hentry, rfl⟩ := List.mem_map.mp hname
    rw [List.mem_singleton.mp hother]
    rintro rfl
    exact hnone entry.2 hentry

theorem nodup_writeAll (h : (values.map Prod.fst).Nodup) :
    ((values.writeAll writes).map Prod.fst).Nodup := by
  induction writes generalizing values with
  | nil => exact h
  | cons entry writes ih => exact ih (nodup_write h)

end Keys

def writeAll (values : ValueMap) (writes : List (String × String)) : ValueMap :=
  ⟨values.entries.writeAll writes, nodup_writeAll values.nodup⟩

def SameVariables (values values' : ValueMap) : Prop :=
  ∀ key, values.entries.lookup key = values'.entries.lookup key

/-! ## The workflow -/

inductive StepType where
  | action | httpRequest | metricValidation
  | other (name : String)
  deriving DecidableEq

/-- A step of the definition. -/
structure Step where
  id : String
  name : String
  type : StepType
  enabled : Bool
  condition : String

structure Definition where
  steps : List Step
  /-- The code of the setup script. -/
  setupCode : String

/-- The result of one extractor; its value is rendered. -/
structure ExtractorResult where
  variableName : String
  value : String
  success : Bool
  sensitive : Bool

/-- What the loops read of a `StepRun`. -/
structure StepRun where
  status : Status
  failureCategory : String
  extractors : List ExtractorResult
  privateOutputs : List (String × String)
  /-- `Outputs["value"]`, rendered. -/
  value : Option String
  /-- `ResponseSummary["status"]`, rendered. -/
  responseStatus : Option String
  /-- The targets that the two scripts of the step have set by `setNextRequest`. -/
  preRequestNext : Option String
  testNext : Option String

/-- What executing a step gives: its result, what its actions have produced, and the variables as
the executor leaves them. -/
structure Outcome where
  result : StepRun
  produced : List (String × String)
  values : ValueMap

/-- A step that is executed, by its index, and the variables that it sees. -/
structure Visit where
  index : Nat
  values : ValueMap

/-- The result of the setup script. -/
structure SetupResult where
  succeeded : Bool
  errorCategory : String
  values : ValueMap

/-- The executor.  What a step does may depend on the steps executed before it. -/
structure Executor where
  setup : ValueMap → SetupResult
  execute : List Visit → Nat → Step → ValueMap → Outcome

def unsupported : StepRun :=
  ⟨.failed, "CONFIGURATION_ERROR", [], [], none, none, none, none⟩

/-- The `switch` over the types. -/
def Executor.executeStep (e : Executor) (visits : List Visit) (index : Nat) (step : Step)
    (values : ValueMap) : Outcome :=
  match step.type with
  | .action => e.execute visits index step values
  | .httpRequest | .metricValidation => { e.execute visits index step values with produced := [] }
  | .other _ => ⟨unsupported, [], values⟩

def Outcome.published (outcome : Outcome) (stepID : String) : List (String × String) :=
  outcome.produced.flatMap (publish stepID) ++
    (outcome.result.extractors.filter fun extractor =>
      extractor.success && !extractor.sensitive).flatMap (fun extractor =>
        publish stepID (extractor.variableName, extractor.value)) ++
    outcome.result.privateOutputs.flatMap (publish stepID)

/-- What `runWithSnapshot` publishes besides: the value of a metric, and the status code. -/
def StepRun.telemetry (result : StepRun) (step : Step) : List (String × String) :=
  (if step.type = .metricValidation then
    result.value.toList.flatMap fun value => publish step.id ("value", value) else []) ++
  result.responseStatus.toList.map fun status =>
    ("steps." ++ step.id ++ ".response.statusCode", status)

/-- Where the loop goes after a step. -/
inductive Navigation where
  | goesTo (index : Nat)
  | stops
  | misses

/-- `setNextRequest`: the Tests script has the last word. -/
def navigate (steps : List Step) (index : Nat) (result : StepRun) : Navigation :=
  match result.testNext.or result.preRequestNext with
  | none => .goesTo (index + 1)
  | some target =>
    if target = "" then .stops
    else
      match steps.findIdx? fun candidate => candidate.id = target ∨ candidate.name = target with
      | some next => .goesTo next
      | none => .misses

/-! ## The two loops -/

/-- The status and the category of a run or a preview. -/
structure Ending where
  status : Status
  failureCategory : String
  deriving DecidableEq

def policyViolation : Ending := ⟨.failed, "SCRIPT_POLICY_VIOLATION"⟩

def conditionFailure : Ending := ⟨.failed, "CONDITION_EVALUATION_FAILURE"⟩

/-- The steps that were executed, and the end. -/
structure Execution where
  visits : List Visit
  ending : Ending

section Loops

variable (floats : FloatLibrary) (d : Definition) (e : Executor)

def StepRun.previewed (result : StepRun) (preview : Ending) : Ending :=
  if result.status ≠ .success ∧ result.status ≠ .successWithWarnings ∧
      result.status ≠ .skippedCondition then ⟨result.status, result.failureCategory⟩
  else preview

/-- **The loop of `PreviewDefinition`**, with what is left of the 100 steps. -/
def previewLoop : Nat → Nat → List Visit → ValueMap → Ending → Execution
  | 0, index, visits, _, preview =>
    if index < d.steps.length then ⟨visits, policyViolation⟩ else ⟨visits, preview⟩
  | remaining + 1, index, visits, values, preview =>
    match d.steps[index]? with
    | none => ⟨visits, preview⟩
    | some step =>
      if preview.status ≠ .success ∨ step.enabled = false then
        previewLoop remaining (index + 1) visits values preview
      else
        match evaluateCondition floats step.condition values.entries with
        | .error _ => ⟨visits, conditionFailure⟩
        | .ok false => previewLoop remaining (index + 1) visits values preview
        | .ok true =>
          let outcome := e.executeStep visits index step values
          let visits := visits ++ [⟨index, values⟩]
          let values := writeAll outcome.values (outcome.published step.id)
          let preview := outcome.result.previewed preview
          match navigate d.steps index outcome.result with
          | .stops => ⟨visits, preview⟩
          | .misses => ⟨visits, policyViolation⟩
          | .goesTo next => previewLoop remaining next visits values preview

/-- **The loop of `runWithSnapshot`.** -/
def runLoop : Nat → Nat → List Visit → ValueMap → Ending → Execution
  | 0, index, visits, _, run =>
    if index < d.steps.length then ⟨visits, policyViolation⟩ else ⟨visits, run⟩
  | remaining + 1, index, visits, values, run =>
    match d.steps[index]? with
    | none => ⟨visits, run⟩
    | some step =>
      if run.status ≠ .running then ⟨visits, run⟩
      else if step.enabled = false then runLoop remaining (index + 1) visits values run
      else
        match evaluateCondition floats step.condition values.entries with
        | .error _ => ⟨visits, conditionFailure⟩
        | .ok false => runLoop remaining (index + 1) visits values run
        | .ok true =>
          let outcome := e.executeStep visits index step values
          let visits := visits ++ [⟨index, values⟩]
          let values := writeAll (writeAll outcome.values (outcome.published step.id))
            (outcome.result.telemetry step)
          if outcome.result.status = .cancelled then ⟨visits, ⟨.cancelled, "RUN_CANCELLED"⟩⟩
          else if outcome.result.status ≠ .success ∧ outcome.result.status ≠ .skippedCondition then
            ⟨visits, ⟨outcome.result.status, outcome.result.failureCategory⟩⟩
          else
            match navigate d.steps index outcome.result with
            | .stops => ⟨visits, run⟩
            | .misses => ⟨visits, policyViolation⟩
            | .goesTo next => runLoop remaining next visits values run

def Ending.settled (run : Ending) : Ending :=
  if run.status = .running then { run with status := .success } else run

def Execution.settled (run : Execution) : Execution := { run with ending := run.ending.settled }

def setUp (values : ValueMap) : Option SetupResult :=
  if Text.trimSpace d.setupCode = "" then none else some (e.setup values)

def stepLimit : Nat := 100

/-- `PreviewDefinition`, once the variables are loaded. -/
def previewDefinition (values : ValueMap) : Option Execution :=
  if d.steps = [] then none
  else
    match setUp d e values with
    | none => some (previewLoop floats d e stepLimit 0 [] values ⟨.success, ""⟩)
    | some result =>
      let preview : Ending :=
        if result.succeeded then ⟨.success, ""⟩ else ⟨.failed, result.errorCategory⟩
      some (previewLoop floats d e stepLimit 0 [] result.values preview)

/-- `runWithSnapshot`, once the variables are loaded. -/
def runWithSnapshot (values : ValueMap) : Option Execution :=
  if d.steps = [] then none
  else
    match setUp d e values with
    | none => some (runLoop floats d e stepLimit 0 [] values ⟨.running, ""⟩).settled
    | some result =>
      let run : Ending :=
        if result.succeeded then ⟨.running, ""⟩ else ⟨.failed, result.errorCategory⟩
      some (runLoop floats d e stepLimit 0 [] result.values run).settled

/-- The loop goes on for more steps than are left, or to a target that is not there. -/
def Overruns (remaining : Nat) : Navigation → Prop
  | .goesTo next => next + remaining < d.steps.length
  | .stops => False
  | .misses => True

instance (remaining : Nat) : DecidablePred (Overruns d remaining)
  | .goesTo _ => inferInstanceAs (Decidable (_ < _))
  | .stops => isFalse id
  | .misses => isTrue trivial

def EndsAlike (remaining : Nat) (navigation : Navigation) (result : StepRun) : Prop :=
  match result.status with
  | .success | .skippedCondition => True
  | .successWithWarnings | .running => False
  | .cancelled => result.failureCategory = "RUN_CANCELLED" ∧ ¬ Overruns d remaining navigation
  | _ => Overruns d remaining navigation →
    ⟨result.status, result.failureCategory⟩ = policyViolation

/-- What the loops meet next. -/
inductive Ahead where
  | visit (index : Nat)
  | ends (ending : Ending)

/-- The steps that are disabled or whose condition is false are passed over. -/
def ahead : Nat → Nat → ValueMap → Ahead
  | 0, index, _ =>
    .ends (if index < d.steps.length then policyViolation else ⟨.success, ""⟩)
  | remaining + 1, index, values =>
    match d.steps[index]? with
    | none => .ends ⟨.success, ""⟩
    | some step =>
      if step.enabled = false then ahead remaining (index + 1) values
      else
        match evaluateCondition floats step.condition values.entries with
        | .error _ => .ends conditionFailure
        | .ok false => ahead remaining (index + 1) values
        | .ok true => .visit index

/-- No step is executed any more, and both loops end alike. -/
def QuietAlike (remaining index : Nat) (values values' : ValueMap) : Prop :=
  ∃ ending, ahead floats d remaining index values = .ends ending ∧
    ahead floats d remaining index values' = .ends ending

/-- **The condition on a workflow**, step by step: a result that ends the run ends a preview alike;
and what only a run publishes is there already, or no step is executed after it. -/
def Faithful : Nat → Nat → List Visit → ValueMap → Prop
  | 0, _, _, _ => True
  | remaining + 1, index, visits, values =>
    match d.steps[index]? with
    | none => True
    | some step =>
      if step.enabled = false then Faithful remaining (index + 1) visits values
      else
        match evaluateCondition floats step.condition values.entries with
        | .error _ => True
        | .ok false => Faithful remaining (index + 1) visits values
        | .ok true =>
          let outcome := e.executeStep visits index step values
          let navigation := navigate d.steps index outcome.result
          let previewed := writeAll outcome.values (outcome.published step.id)
          let run := writeAll previewed (outcome.result.telemetry step)
          EndsAlike d remaining navigation outcome.result ∧
            ((outcome.result.status = .success ∨ outcome.result.status = .skippedCondition) →
              match navigation with
              | .stops | .misses => True
              | .goesTo next =>
                SameVariables previewed run ∧
                  Faithful remaining next (visits ++ [⟨index, values⟩]) previewed ∨
                QuietAlike floats d remaining next previewed run)

/-- The condition on a definition, with its variables: and a setup script fails only when the steps
are within the limit. -/
def FaithfulDefinition (values : ValueMap) : Prop :=
  match setUp d e values with
  | none => Faithful floats d e stepLimit 0 [] values
  | some result =>
    if result.succeeded then Faithful floats d e stepLimit 0 [] result.values
    else d.steps.length ≤ stepLimit ∨ result.errorCategory = "SCRIPT_POLICY_VIOLATION"

/-! ## The claim -/

/-- The same steps are executed, each with the same variables, and the end is the same. -/
def SameExecution (preview run : Execution) : Prop :=
  List.Forall₂ (fun a b => a.index = b.index ∧ SameVariables a.values b.values) preview.visits
      run.visits ∧
    preview.ending = run.ending

/-- Both calls reject the definition, or both execute it alike. -/
def Agrees (preview run : Option Execution) : Prop :=
  match preview, run with
  | none, none => True
  | some preview, some run => SameExecution preview run
  | _, _ => False

end Loops

/-! ## Maps with the same variables -/

section Variables

variable {values values' : ValueMap} {writes : List (String × String)}

theorem SameVariables.refl (values : ValueMap) : SameVariables values values := fun _ => rfl

theorem eq_of_lookup {a b : Values} (hkeys : a.map Prod.fst = b.map Prod.fst)
    (hnodup : (a.map Prod.fst).Nodup) (h : ∀ key, a.lookup key = b.lookup key) : a = b := by
  refine List.ext_getElem (by simpa using congrArg List.length hkeys) fun i hi hi' => ?_
  have hkey : (a[i]).1 = (b[i]).1 := by
    have hget := congrArg (fun keys => keys[i]?) hkeys
    simpa [hi, hi'] using hget
  refine Prod.ext hkey ?_
  have ha : a.lookup (a[i]).1 = some (a[i]).2 := Values.lookup_of_mem hnodup (List.getElem_mem hi)
  have hb : b.lookup (b[i]).1 = some (b[i]).2 :=
    Values.lookup_of_mem (hkeys ▸ hnodup) (List.getElem_mem hi')
  rw [h, hkey, hb, Option.some.injEq] at ha
  exact ha.symm

theorem isSome_lookup_iff {values : Values} {key : String} :
    (values.lookup key).isSome = true ↔ key ∈ values.map Prod.fst := by
  grind [Option.ne_none_iff_isSome, Values.lookup_eq_none]

theorem keys_writeAll {values : Values} (h : ∀ entry ∈ writes, entry.1 ∈ values.map Prod.fst) :
    (values.writeAll writes).map Prod.fst = values.map Prod.fst := by
  induction writes generalizing values with
  | nil => rfl
  | cons entry writes ih =>
    have hkeys : (values.write entry.1 entry.2).map Prod.fst = values.map Prod.fst := by
      rw [keys_write, if_pos (isSome_lookup_iff.mpr (h entry List.mem_cons_self))]
    have hrest : ∀ other ∈ writes,
        other.1 ∈ (values.write entry.1 entry.2).map Prod.fst := fun other hother => by
      rw [hkeys]
      exact h other (List.mem_cons_of_mem _ hother)
    exact (ih hrest).trans hkeys

theorem isSome_lookup_of_written {values : Values} {entry : String × String}
    (h : entry ∈ writes) : ((values.writeAll writes).lookup entry.1).isSome = true := by
  have hwritten : (writes.reverse.lookup entry.1).isSome = true :=
    isSome_lookup_iff.mpr (List.mem_map_of_mem (List.mem_reverse.mpr h))
  rw [Values.lookup_writeAll, Option.isSome_or, hwritten, Bool.true_or]

/-- **Writes that change no variable leave the map as it is.** -/
theorem writeAll_of_sameVariables (h : SameVariables values (writeAll values writes)) :
    writeAll values writes = values := by
  have hthere : ∀ entry ∈ writes, entry.1 ∈ values.entries.map Prod.fst := by
    intro entry hentry
    rw [← isSome_lookup_iff, h entry.1]
    exact isSome_lookup_of_written hentry
  have hentries : values.entries.writeAll writes = values.entries :=
    (eq_of_lookup (keys_writeAll hthere).symm values.nodup h).symm
  cases values
  exact (ValueMap.mk.injEq ..).mpr hentries

end Variables

/-! ## The loops -/

section Agreement

variable {floats : FloatLibrary} {d : Definition} {e : Executor} {remaining index : Nat}
  {visits : List Visit} {values values' : ValueMap} {preview run : Ending}

theorem previewLoop_failed (h : preview.status ≠ .success) :
    previewLoop floats d e remaining index visits values preview =
      ⟨visits, if index + remaining < d.steps.length then policyViolation else preview⟩ := by
  induction remaining generalizing index with
  | zero =>
    rw [previewLoop, Nat.add_zero]
    split <;> rfl
  | succ remaining ih =>
    grind [previewLoop, List.getElem?_eq_none_iff]

theorem previewLoop_visits : ∃ more,
    (previewLoop floats d e remaining index visits values preview).visits = visits ++ more := by
  induction remaining generalizing index visits values preview with
  | zero =>
    rw [previewLoop]
    split <;> exact ⟨[], (List.append_nil _).symm⟩
  | succ remaining ih =>
    rw [previewLoop]
    split
    · exact ⟨[], (List.append_nil _).symm⟩
    · split
      · exact ih
      · split
        · exact ⟨[], (List.append_nil _).symm⟩
        · exact ih
        · dsimp only
          split
          · exact ⟨_, rfl⟩
          · exact ⟨_, rfl⟩
          · obtain ⟨more, hmore⟩ := ih
            exact ⟨_, hmore.trans (List.append_assoc ..)⟩

theorem runLoop_visits : ∃ more,
    (runLoop floats d e remaining index visits values run).visits = visits ++ more := by
  induction remaining generalizing index visits values run with
  | zero =>
    rw [runLoop]
    split <;> exact ⟨[], (List.append_nil _).symm⟩
  | succ remaining ih =>
    rw [runLoop]
    split
    · exact ⟨[], (List.append_nil _).symm⟩
    · split
      · exact ⟨[], (List.append_nil _).symm⟩
      · split
        · exact ih
        · split
          · exact ⟨[], (List.append_nil _).symm⟩
          · exact ih
          · dsimp only
            split
            · exact ⟨_, rfl⟩
            · split
              · exact ⟨_, rfl⟩
              · split
                · exact ⟨_, rfl⟩
                · exact ⟨_, rfl⟩
                · obtain ⟨more, hmore⟩ := ih
                  exact ⟨_, hmore.trans (List.append_assoc ..)⟩

/-- A disabled step is met like one whose condition is false. -/
def Step.meets (step : Step) (floats : FloatLibrary) (values : ValueMap) :
    Except ConditionError Bool :=
  if step.enabled = false then .ok false
  else evaluateCondition floats step.condition values.entries

theorem previewLoop_succ :
    previewLoop floats d e (remaining + 1) index visits values ⟨.success, ""⟩ =
      match d.steps[index]? with
      | none => ⟨visits, ⟨.success, ""⟩⟩
      | some step =>
        match step.meets floats values with
        | .error _ => ⟨visits, conditionFailure⟩
        | .ok false => previewLoop floats d e remaining (index + 1) visits values ⟨.success, ""⟩
        | .ok true =>
          let outcome := e.executeStep visits index step values
          let visits := visits ++ [⟨index, values⟩]
          let values := writeAll outcome.values (outcome.published step.id)
          let preview := outcome.result.previewed ⟨.success, ""⟩
          match navigate d.steps index outcome.result with
          | .stops => ⟨visits, preview⟩
          | .misses => ⟨visits, policyViolation⟩
          | .goesTo next => previewLoop floats d e remaining next visits values preview := by
  rw [previewLoop]
  cases d.steps[index]? with
  | none => rfl
  | some step => cases henabled : step.enabled <;> simp [Step.meets, henabled]

theorem runLoop_succ :
    runLoop floats d e (remaining + 1) index visits values ⟨.running, ""⟩ =
      match d.steps[index]? with
      | none => ⟨visits, ⟨.running, ""⟩⟩
      | some step =>
        match step.meets floats values with
        | .error _ => ⟨visits, conditionFailure⟩
        | .ok false => runLoop floats d e remaining (index + 1) visits values ⟨.running, ""⟩
        | .ok true =>
          let outcome := e.executeStep visits index step values
          let visits := visits ++ [⟨index, values⟩]
          let values := writeAll (writeAll outcome.values (outcome.published step.id))
            (outcome.result.telemetry step)
          if outcome.result.status = .cancelled then ⟨visits, ⟨.cancelled, "RUN_CANCELLED"⟩⟩
          else if outcome.result.status ≠ .success ∧ outcome.result.status ≠ .skippedCondition then
            ⟨visits, ⟨outcome.result.status, outcome.result.failureCategory⟩⟩
          else
            match navigate d.steps index outcome.result with
            | .stops => ⟨visits, ⟨.running, ""⟩⟩
            | .misses => ⟨visits, policyViolation⟩
            | .goesTo next => runLoop floats d e remaining next visits values ⟨.running, ""⟩ := by
  rw [runLoop]
  cases d.steps[index]? with
  | none => rfl
  | some step => cases henabled : step.enabled <;> simp [Step.meets, henabled]

theorem ahead_succ :
    ahead floats d (remaining + 1) index values =
      match d.steps[index]? with
      | none => .ends ⟨.success, ""⟩
      | some step =>
        match step.meets floats values with
        | .error _ => .ends conditionFailure
        | .ok false => ahead floats d remaining (index + 1) values
        | .ok true => .visit index := by
  rw [ahead]
  cases d.steps[index]? with
  | none => rfl
  | some step => cases henabled : step.enabled <;> simp [Step.meets, henabled]

theorem faithful_succ :
    Faithful floats d e (remaining + 1) index visits values ↔
      match d.steps[index]? with
      | none => True
      | some step =>
        match step.meets floats values with
        | .error _ => True
        | .ok false => Faithful floats d e remaining (index + 1) visits values
        | .ok true =>
          let outcome := e.executeStep visits index step values
          let navigation := navigate d.steps index outcome.result
          let previewed := writeAll outcome.values (outcome.published step.id)
          let run := writeAll previewed (outcome.result.telemetry step)
          EndsAlike d remaining navigation outcome.result ∧
            ((outcome.result.status = .success ∨ outcome.result.status = .skippedCondition) →
              match navigation with
              | .stops | .misses => True
              | .goesTo next =>
                SameVariables previewed run ∧
                  Faithful floats d e remaining next (visits ++ [⟨index, values⟩]) previewed ∨
                QuietAlike floats d remaining next previewed run) := by
  rw [Faithful]
  cases d.steps[index]? with
  | none => rfl
  | some step => cases henabled : step.enabled <;> simp [Step.meets, henabled]

/-- What a loop does, as far as the next step that it executes. -/
def Follows (next : Ahead) (visits : List Visit) (values : ValueMap) (execution : Execution) :
    Prop :=
  match next with
  | .ends ending => execution = ⟨visits, ending⟩
  | .visit index => ∃ more, execution.visits = visits ++ ⟨index, values⟩ :: more

theorem previewLoop_follows :
    Follows (ahead floats d remaining index values) visits values
      (previewLoop floats d e remaining index visits values ⟨.success, ""⟩) := by
  induction remaining generalizing index with
  | zero =>
    rw [ahead, previewLoop]
    split <;> rfl
  | succ remaining ih =>
    rw [ahead_succ, previewLoop_succ]
    cases d.steps[index]? with
    | none => rfl
    | some step =>
      dsimp only
      cases step.meets floats values with
      | error message => rfl
      | ok holds =>
        cases holds with
        | false => exact ih
        | true =>
          dsimp only
          split
          · exact ⟨[], rfl⟩
          · exact ⟨[], rfl⟩
          · obtain ⟨more, hmore⟩ := previewLoop_visits
            exact ⟨more, hmore.trans (List.append_assoc ..)⟩

theorem runLoop_follows :
    Follows (ahead floats d remaining index values) visits values
      (runLoop floats d e remaining index visits values ⟨.running, ""⟩).settled := by
  induction remaining generalizing index with
  | zero =>
    rw [ahead, runLoop]
    split <;> rfl
  | succ remaining ih =>
    rw [ahead_succ, runLoop_succ]
    cases d.steps[index]? with
    | none => rfl
    | some step =>
      dsimp only
      cases step.meets floats values with
      | error message => rfl
      | ok holds =>
        cases holds with
        | false => exact ih
        | true =>
          dsimp only
          split
          · exact ⟨[], rfl⟩
          · split
            · exact ⟨[], rfl⟩
            · split
              · exact ⟨[], rfl⟩
              · exact ⟨[], rfl⟩
              · obtain ⟨more, hmore⟩ := runLoop_visits
                exact ⟨more, hmore.trans (List.append_assoc ..)⟩

section Same

variable {a b : Execution}

theorem sameVisits_refl (visits : List Visit) :
    List.Forall₂ (fun a b => a.index = b.index ∧ SameVariables a.values b.values) visits visits :=
  List.forall₂_same.mpr fun visit _ => ⟨rfl, .refl visit.values⟩

theorem sameVariables_of_visits {index index' : Nat} {more more' : List Visit}
    (h : List.Forall₂ (fun a b => a.index = b.index ∧ SameVariables a.values b.values)
      (visits ++ ⟨index, values⟩ :: more) (visits ++ ⟨index', values'⟩ :: more')) :
    SameVariables values values' := by
  have hrest := List.forall₂_drop visits.length h
  rw [List.drop_left, List.drop_left] at hrest
  cases hrest with
  | cons hhead _ => exact hhead.2

theorem quiet_of_sameExecution {next next' : Ahead} (ha : Follows next visits values a)
    (hb : Follows next' visits values' b) (h : SameExecution a b)
    (hdiff : ¬ SameVariables values values') :
    ∃ ending, next = .ends ending ∧ next' = .ends ending := by
  obtain ⟨hvisits, hending⟩ := h
  cases next with
  | ends ending =>
    cases next' with
    | ends ending' =>
      obtain rfl : a = ⟨visits, ending⟩ := ha
      obtain rfl : b = ⟨visits, ending'⟩ := hb
      exact ⟨ending, rfl, congrArg Ahead.ends hending.symm⟩
    | visit index =>
      obtain rfl : a = ⟨visits, ending⟩ := ha
      obtain ⟨more, hb⟩ := hb
      have hlength := hvisits.length_eq
      simp [hb] at hlength
  | visit index =>
    obtain ⟨more, ha⟩ := ha
    cases next' with
    | ends ending' =>
      obtain rfl : b = ⟨visits, ending'⟩ := hb
      have hlength := hvisits.length_eq
      simp [ha] at hlength
    | visit index' =>
      obtain ⟨more', hb⟩ := hb
      rw [ha, hb] at hvisits
      exact absurd (sameVariables_of_visits hvisits) hdiff

end Same

variable {writes : List (String × String)}

/-- Both loops go on after a step, with variables that what only a run publishes may have
changed. -/
theorem sameExecution_goesTo_iff {run : ValueMap}
    (hrun : run = writeAll values writes) {visits' : List Visit}
    (ih : SameExecution
        (previewLoop floats d e remaining index visits' values ⟨.success, ""⟩)
        (runLoop floats d e remaining index visits' values ⟨.running, ""⟩).settled ↔
      Faithful floats d e remaining index visits' values) :
    SameExecution
        (previewLoop floats d e remaining index visits' values ⟨.success, ""⟩)
        (runLoop floats d e remaining index visits' run ⟨.running, ""⟩).settled ↔
      SameVariables values run ∧ Faithful floats d e remaining index visits' values ∨
        QuietAlike floats d remaining index values run := by
  have hpreview : Follows (ahead floats d remaining index values) visits' values
      (previewLoop floats d e remaining index visits' values ⟨.success, ""⟩) :=
    previewLoop_follows
  have hfollows : Follows (ahead floats d remaining index run) visits' run
      (runLoop floats d e remaining index visits' run ⟨.running, ""⟩).settled :=
    runLoop_follows
  have hquiet : QuietAlike floats d remaining index values run → SameExecution
      (previewLoop floats d e remaining index visits' values ⟨.success, ""⟩)
      (runLoop floats d e remaining index visits' run ⟨.running, ""⟩).settled := by
    rintro ⟨ending, hends, hends'⟩
    rw [hends] at hpreview
    rw [hends'] at hfollows
    rw [show previewLoop floats d e remaining index visits' values ⟨.success, ""⟩ = _ from hpreview,
      show (runLoop floats d e remaining index visits' run ⟨.running, ""⟩).settled = _ from
        hfollows]
    exact ⟨sameVisits_refl visits', rfl⟩
  by_cases hsame : SameVariables values run
  · grind [writeAll_of_sameVariables]
  · constructor
    · exact fun h => .inr (quiet_of_sameExecution hpreview hfollows h hsame)
    · rintro (⟨hsame', -⟩ | hends)
      · exact absurd hsame' hsame
      · exact hquiet hends

theorem sameExecution_ending_iff {a b : Ending} :
    SameExecution ⟨visits, a⟩ ⟨visits, b⟩ ↔ a = b :=
  and_iff_right (sameVisits_refl visits)

theorem previewAfter_failed (h : preview.status ≠ .success) (navigation : Navigation) :
    (match navigation with
      | .stops => ⟨visits, preview⟩
      | .misses => ⟨visits, policyViolation⟩
      | .goesTo next => previewLoop floats d e remaining next visits values preview) =
      (⟨visits, if Overruns d remaining navigation then policyViolation else preview⟩ :
        Execution) := by
  cases navigation with
  | stops | misses => rfl
  | goesTo next => exact previewLoop_failed h

variable {result : StepRun}

theorem previewed_ne (h : preview.status ≠ .successWithWarnings) :
    (result.previewed preview).status ≠ .successWithWarnings := by
  rw [StepRun.previewed]
  split
  · rename_i hfails
    exact hfails.2.1
  · exact h

theorem previewLoop_ending_ne (h : preview.status ≠ .successWithWarnings) :
    (previewLoop floats d e remaining index visits values preview).ending.status ≠
      .successWithWarnings := by
  induction remaining generalizing index visits values preview with
  | zero =>
    rw [previewLoop]
    split
    · exact nofun
    · exact h
  | succ remaining ih =>
    rw [previewLoop]
    split
    · exact h
    · split
      · exact ih h
      · split
        · exact nofun
        · exact ih h
        · dsimp only
          split
          · exact previewed_ne h
          · exact nofun
          · exact ih (previewed_ne h)

theorem sameExecution_failed_iff {navigation : Navigation} {goesOn : Execution}
    (hfails : ¬ (result.status = .success ∨ result.status = .skippedCondition)) :
    SameExecution
        (match navigation with
        | .stops => ⟨visits, result.previewed ⟨.success, ""⟩⟩
        | .misses => ⟨visits, policyViolation⟩
        | .goesTo next =>
          previewLoop floats d e remaining next visits values (result.previewed ⟨.success, ""⟩))
        (if result.status = .cancelled then ⟨visits, ⟨.cancelled, "RUN_CANCELLED"⟩⟩
        else if result.status ≠ .success ∧ result.status ≠ .skippedCondition then
          ⟨visits, ⟨result.status, result.failureCategory⟩⟩
        else goesOn : Execution).settled ↔
      EndsAlike d remaining navigation result := by
  have hstops : result.status ≠ .success ∧ result.status ≠ .skippedCondition :=
    not_or.mp hfails
  by_cases hwarnings : result.status = .successWithWarnings
  · have hpreviewed : result.previewed ⟨.success, ""⟩ = ⟨.success, ""⟩ := by
      simp [StepRun.previewed, hwarnings]
    rw [hpreviewed, if_neg (by simp [hwarnings]), if_pos hstops]
    refine iff_of_false (fun h => ?_) (by simp [EndsAlike, hwarnings])
    have hending := congrArg Ending.status h.2
    have hrun :
        (Execution.settled ⟨visits, ⟨result.status, result.failureCategory⟩⟩).ending.status =
          .successWithWarnings := by simp [Execution.settled, Ending.settled, hwarnings]
    rw [hrun] at hending
    cases navigation with
    | stops | misses => contradiction
    | goesTo next => exact previewLoop_ending_ne (by simp) hending
  · have hpreviewed : result.previewed ⟨.success, ""⟩ =
        ⟨result.status, result.failureCategory⟩ := if_pos ⟨hstops.1, hwarnings, hstops.2⟩
    rw [hpreviewed, previewAfter_failed hstops.1]
    by_cases hcancelled : result.status = .cancelled
    · rw [if_pos hcancelled]
      refine sameExecution_ending_iff.trans ?_
      by_cases hoverruns : Overruns d remaining navigation
      · simp [EndsAlike, hcancelled, hoverruns, policyViolation, Ending.settled]
      · simp [EndsAlike, hcancelled, hoverruns, Ending.settled]
    · rw [if_neg hcancelled, if_pos hstops]
      refine sameExecution_ending_iff.trans ?_
      by_cases hrunning : result.status = .running
      · grind [EndsAlike, Ending.settled, policyViolation]
      · grind [EndsAlike, Overruns, policyViolation, Ending.settled]

/-- **The two loops after a step.** -/
theorem sameExecution_after_iff {navigation : Navigation} {run : ValueMap}
    (hrun : run = writeAll values writes) (ih : ∀ next, SameExecution
        (previewLoop floats d e remaining next visits values ⟨.success, ""⟩)
        (runLoop floats d e remaining next visits values ⟨.running, ""⟩).settled ↔
      Faithful floats d e remaining next visits values) :
    SameExecution
        (match navigation with
        | .stops => ⟨visits, result.previewed ⟨.success, ""⟩⟩
        | .misses => ⟨visits, policyViolation⟩
        | .goesTo next =>
          previewLoop floats d e remaining next visits values (result.previewed ⟨.success, ""⟩))
        (if result.status = .cancelled then ⟨visits, ⟨.cancelled, "RUN_CANCELLED"⟩⟩
        else if result.status ≠ .success ∧ result.status ≠ .skippedCondition then
          ⟨visits, ⟨result.status, result.failureCategory⟩⟩
        else
          match navigation with
          | .stops => ⟨visits, ⟨.running, ""⟩⟩
          | .misses => ⟨visits, policyViolation⟩
          | .goesTo next => runLoop floats d e remaining next visits run ⟨.running, ""⟩ :
          Execution).settled ↔
      EndsAlike d remaining navigation result ∧
        ((result.status = .success ∨ result.status = .skippedCondition) →
          match navigation with
          | .stops | .misses => True
          | .goesTo next =>
            SameVariables values run ∧ Faithful floats d e remaining next visits values ∨
              QuietAlike floats d remaining next values run) := by
  by_cases hpasses : result.status = .success ∨ result.status = .skippedCondition
  · have hpreviewed : result.previewed ⟨.success, ""⟩ = ⟨.success, ""⟩ := by
      obtain hstatus | hstatus := hpasses <;> simp [StepRun.previewed, hstatus]
    have hcancelled : result.status ≠ .cancelled := by
      obtain hstatus | hstatus := hpasses <;> simp [hstatus]
    have hstops : ¬ (result.status ≠ .success ∧ result.status ≠ .skippedCondition) := by
      obtain hstatus | hstatus := hpasses <;> simp [hstatus]
    have halike : EndsAlike d remaining navigation result := by
      obtain hstatus | hstatus := hpasses <;> simp [EndsAlike, hstatus]
    rw [hpreviewed, if_neg hcancelled, if_neg hstops, and_iff_right halike,
      forall_prop_of_true hpasses]
    cases navigation with
    | stops | misses => exact iff_of_true ⟨sameVisits_refl visits, rfl⟩ trivial
    | goesTo next => exact sameExecution_goesTo_iff hrun (ih next)
  · rw [and_iff_left fun h => absurd h hpasses]
    exact sameExecution_failed_iff hpasses

/-- **The two loops agree exactly when the rest of the workflow is faithful.** -/
theorem sameExecution_loop_iff :
    SameExecution (previewLoop floats d e remaining index visits values ⟨.success, ""⟩)
        (runLoop floats d e remaining index visits values ⟨.running, ""⟩).settled ↔
      Faithful floats d e remaining index visits values := by
  induction remaining generalizing index visits values with
  | zero =>
    rw [previewLoop, runLoop]
    refine iff_of_true ?_ trivial
    split <;> exact ⟨sameVisits_refl visits, rfl⟩
  | succ remaining ih =>
    rw [previewLoop_succ, runLoop_succ, faithful_succ]
    cases d.steps[index]? with
    | none => exact iff_of_true ⟨sameVisits_refl visits, rfl⟩ trivial
    | some step =>
      dsimp only
      cases step.meets floats values with
      | error message => exact iff_of_true ⟨sameVisits_refl visits, rfl⟩ trivial
      | ok holds =>
        cases holds with
        | false => exact ih
        | true => exact sameExecution_after_iff rfl fun next => ih

end Agreement

theorem sameExecution_setup_iff {floats : FloatLibrary} {d : Definition} {e : Executor}
    {values : ValueMap} {category : String} (hsteps : d.steps ≠ []) :
    SameExecution (previewLoop floats d e stepLimit 0 [] values ⟨.failed, category⟩)
        (runLoop floats d e stepLimit 0 [] values ⟨.failed, category⟩).settled ↔
      d.steps.length ≤ stepLimit ∨ category = "SCRIPT_POLICY_VIOLATION" := by
  have hrun : runLoop floats d e stepLimit 0 [] values ⟨.failed, category⟩ =
      ⟨[], ⟨.failed, category⟩⟩ := by
    obtain ⟨step, steps, hcons⟩ := List.exists_cons_of_ne_nil hsteps
    have hstep : d.steps[0]? = some step := by rw [hcons]; rfl
    rw [stepLimit, runLoop, hstep]
    exact if_pos nofun
  have hfailed : Ending.status ⟨.failed, category⟩ ≠ .success := nofun
  rw [hrun, previewLoop_failed hfailed, Nat.zero_add]
  refine sameExecution_ending_iff.trans ?_
  have hsettled : Ending.settled ⟨.failed, category⟩ = ⟨.failed, category⟩ := if_neg nofun
  rw [hsettled]
  by_cases hlimit : stepLimit < d.steps.length
  · have hover : ¬ d.steps.length ≤ stepLimit := Nat.not_le.mpr hlimit
    simp [hlimit, hover, policyViolation, eq_comm]
  · simp [hlimit, Nat.not_lt.mp hlimit]

/-- **A preview agrees with a run**: the same steps see the same variables, and the status and the
category are the same, exactly for the faithful definitions. -/
theorem agrees_iff (floats : FloatLibrary) (d : Definition) (e : Executor) (values : ValueMap) :
    Agrees (previewDefinition floats d e values) (runWithSnapshot floats d e values) ↔
      FaithfulDefinition floats d e values := by
  unfold previewDefinition runWithSnapshot FaithfulDefinition
  by_cases hsteps : d.steps = []
  · rw [if_pos hsteps, if_pos hsteps]
    refine iff_of_true trivial ?_
    have hfaithful : ∀ values, Faithful floats d e stepLimit 0 [] values := by
      intro values
      rw [stepLimit, faithful_succ, hsteps]
      trivial
    split
    · exact hfaithful _
    · split
      · exact hfaithful _
      · exact .inl (by simp [hsteps])
  · rw [if_neg hsteps, if_neg hsteps]
    split
    · exact sameExecution_loop_iff
    · split
      · exact sameExecution_loop_iff
      · exact sameExecution_setup_iff hsteps

theorem Agrees.ending_eq {preview run : Option Execution} (h : Agrees preview run) :
    preview.map Execution.ending = run.map Execution.ending := by
  cases preview with
  | none =>
    cases run with
    | none => rfl
    | some run => exact h.elim
  | some preview =>
    cases run with
    | none => exact h.elim
    | some run => exact congrArg some h.2

/-! ## A condition on a status code -/

def noFloats : FloatLibrary := ⟨Unit, fun _ => none, fun _ _ _ => false⟩

/-- Two requests, the second only when the first has answered `OK`. -/
def statusDefinition : Definition where
  steps := [⟨"login", "login", .httpRequest, true, ""⟩,
    ⟨"search", "search", .httpRequest, true, "steps.login.response.statusCode == \"OK\""⟩]
  setupCode := ""

/-- Every request succeeds with the status `OK`. -/
def okExecutor : Executor where
  setup := fun values => ⟨true, "", values⟩
  execute := fun _ _ _ values =>
    ⟨⟨.success, "", [], [], none, some "OK", none, none⟩, [], values⟩

/-- **A preview fails on a condition that holds in the run.** -/
theorem preview_misses_status :
    ¬ ∀ floats d e values,
      Agrees (previewDefinition floats d e values) (runWithSnapshot floats d e values) := by
  intro h
  have hending := (h noFloats statusDefinition okExecutor ⟨[], List.nodup_nil⟩).ending_eq
  revert hending
  decide

end Rhythm.Runs.Preview
