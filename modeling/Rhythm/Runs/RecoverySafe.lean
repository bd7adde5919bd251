import Rhythm.Fallible
import Rhythm.Runs.Building
import Rhythm.Runs.RequestEvidence
import Rhythm.Runs.RunsEnd

/-!
# Rhythm.Runs.RecoverySafe

`definitionRecoverySafe`: may a run be started again after its worker was lost?  The check reads
the methods and the headers of the definition; `retrySafe` reads the request that is built.

Three things are not checked.  OAuth sends a `POST` without a key for its token.  The name of a
header is compared without the white space around it and with the folding of `EqualFold`, and sent
as it is.  And an API key may be set over the `Idempotency-Key`.

`recoverySafe_iff` says in which runs of a definition that is accepted all requests can be sent
again: those whose steps are `Replayable`.
-/

namespace Rhythm.Runs.RecoverySafe

open Building
open Decoding (StepDefinition Definition)
open Retries (Request retrySafe)
open StepLoop (Host Run Turn stepLoop stepLimit runWithSnapshot)

/-! ## The check -/

/-- The first enabled header that the check takes for the key. -/
def keyHeader (headers : List Decoding.KeyValue) : Option Decoding.KeyValue :=
  headers.find? fun header =>
    header.enabled && Text.equalFold (Text.trimSpace header.key) "Idempotency-Key"

def stepRecoverySafe (step : StepDefinition) : Bool :=
  if step.enabled = false ∨ step.type ≠ "HTTP_REQUEST" then true
  else if Text.trimSpace step.request.preRequestScript.code ≠ "" ∨
      Text.trimSpace step.request.testScript.code ≠ "" then false
  else if Text.toUpper (Text.trimSpace step.request.method) ∈ repeatableMethods then true
  else
    let idempotencyKey :=
      ((keyHeader step.request.headers).map fun header => Text.trimSpace header.value).getD ""
    !(idempotencyKey = "" || Text.contains idempotencyKey "\x7b\x7b")

/-- **`definitionRecoverySafe`.** -/
def definitionRecoverySafe (d : Definition) : Bool :=
  if Text.trimSpace d.scripts.preRequest.code ≠ "" then false else d.steps.all stepRecoverySafe

/-! ## The requests of a run -/

/-- The executor is called: the turn, the step, and the variables. -/
structure Execution where
  number : Nat
  step : StepDefinition
  values : ValueMap

def execution? (h : Host) (number : Nat) (step : StepDefinition) (values : ValueMap) (run : Run) :
    Option Execution :=
  if run.status = .running ∧ h.cancelledBefore number = false ∧ step.enabled = true ∧
      h.conditionHolds step values = true then some ⟨number, step, values⟩
  else none

/-- The calls of `stepLoop`. -/
def loopExecutions (h : Host) (d : Definition) :
    Nat → Nat → Nat → ValueMap → Run → List Execution
  | 0, _, _, _, _ => []
  | remaining + 1, number, index, values, run =>
    match d.steps[index]? with
    | none => []
    | some step =>
      (execution? h number step values run).toList ++
        match h.turn d number index step values run with
        | .goesOn index values run => loopExecutions h d remaining (number + 1) index values run
        | .stops _ | .fails _ => []

/-- The calls of `runWithSnapshot`. -/
def executions (h : Host) (d : Definition) : List Execution :=
  if (h.save .start).isSome then []
  else
    match h.environment.bind h.resolveSecrets with
    | none => []
    | some values =>
      let prepared := h.setUp d values h.startRun
      loopExecutions h d stepLimit 0 0 prepared.1 prepared.2

/-- **The requests that a run builds**; the runtime is that of a turn. -/
def requests (h : Host) (rt : Nat → Runtime) (d : Definition) : List Request :=
  (executions h d).flatMap fun e => (executeStep (rt e.number) e.step e.values.entries).emitted

variable {e : Execution}

theorem step_of_execution {h : Host} {number : Nat} {step : StepDefinition} {values : ValueMap}
    {run : Run} (he : execution? h number step values run = some e) :
    e.step = step ∧ step.enabled = true := by
  unfold execution? at he
  split at he
  · rename_i hexecutes
    obtain rfl := Option.some.inj he
    exact ⟨rfl, hexecutes.2.2.1⟩
  · cases he

theorem step_of_mem_loopExecutions {h : Host} {d : Definition} (remaining : Nat) :
    ∀ {number index : Nat} {values : ValueMap} {run : Run},
      e ∈ loopExecutions h d remaining number index values run →
        e.step ∈ d.steps ∧ e.step.enabled = true := by
  induction remaining with
  | zero => exact fun he => absurd he List.not_mem_nil
  | succ remaining ih =>
    intro number index values run he
    unfold loopExecutions at he
    split at he
    · exact absurd he List.not_mem_nil
    · rename_i step hstep
      rcases List.mem_append.mp he with hnow | hlater
      · obtain ⟨rfl, henabled⟩ := step_of_execution (Option.mem_toList.mp hnow)
        exact ⟨List.mem_of_getElem? hstep, henabled⟩
      · split at hlater
        · exact ih hlater
        · exact absurd hlater List.not_mem_nil
        · exact absurd hlater List.not_mem_nil

theorem step_of_mem_executions {h : Host} {d : Definition}
    (he : e ∈ executions h d) : e.step ∈ d.steps ∧ e.step.enabled = true := by
  grind [executions, step_of_mem_loopExecutions, stepLimit]

/-! ## All calls are there -/

section Calls

variable {h : Host} {execute : Nat → StepDefinition → ValueMap → StepLoop.Outcome}

/-! Nothing else of the host is another. -/

end Calls

/-! ## What the check has seen -/

section Texts

variable {part space l : List Char} {value : String}

theorem infix_append_iff (hpart : part ≠ []) (hspace : ∀ c ∈ space, c ∉ part) :
    (part <:+: space ++ l ↔ part <:+: l) ∧ (part <:+: l ++ space ↔ part <:+: l) := by
  have hnot : ∀ l', (∀ c ∈ l', c ∈ space) → ¬part <:+: l' := by
    intro l' hl' hinside
    obtain ⟨c, hc⟩ := List.exists_mem_of_ne_nil part hpart
    exact hspace c (hl' c (hinside.sublist.subset hc)) hc
  constructor
  · obtain rfl | ⟨before, c, rfl⟩ := space.eq_nil_or_concat
    · rw [List.nil_append]
    · rw [List.concat_eq_append, List.append_assoc, List.singleton_append,
        Text.infix_append_cons_iff (hspace c (by simp)),
        or_iff_right (hnot before fun d hd => by simp [hd])]
  · cases space with
    | nil => rw [List.append_nil]
    | cons c after =>
      rw [Text.infix_append_cons_iff (hspace c (by simp)),
        or_iff_left (hnot after fun d hd => by simp [hd])]

theorem contains_trimSpace_braces :
    Text.contains (Text.trimSpace value) "\x7b\x7b" = Text.contains value "\x7b\x7b" := by
  have hspace : ∀ c, Text.isSpace c = true → c ∉ ['{', '{'] := by
    rintro c hc hmem
    obtain rfl : c = '{' := by simpa using hmem
    exact absurd hc (by decide)
  have hsplit : ∀ l : List Char, l.rdropWhile Text.isSpace ++ l.rtakeWhile Text.isSpace = l := by
    intro l
    rw [List.rdropWhile, List.rtakeWhile, ← List.reverse_append, List.takeWhile_append_dropWhile,
      List.reverse_reverse]
  rw [Bool.eq_iff_iff, Text.contains_iff, Text.contains_iff, Text.trimSpace, String.toList_ofList,
    String.toList_ofList]
  have hafter := (infix_append_iff (l := (value.toList.dropWhile Text.isSpace).rdropWhile
    Text.isSpace) (List.cons_ne_nil '{' ['{']) fun c hc =>
      hspace c (List.mem_rtakeWhile_imp (l := value.toList.dropWhile Text.isSpace) hc)).2
  have hbefore := (infix_append_iff (l := value.toList.dropWhile Text.isSpace)
    (List.cons_ne_nil '{' ['{']) fun c hc =>
      hspace c (List.mem_takeWhile_imp (l := value.toList) hc)).1
  rw [← hafter, hsplit, ← hbefore, List.takeWhile_append_dropWhile]

theorem renderFrom_of_not_infix (resolve : List Char → String → Option String)
    (hnone : ¬['{', '{'] <:+: l) : renderFrom resolve 0 l = (l, none) := by
  induction l with
  | nil => rfl
  | cons c cs ih =>
    have hat : templateAt? (c :: cs) = none := by
      unfold templateAt?
      split
      · rename_i rest heq
        rw [heq] at hnone
        exact absurd (List.prefix_append ['{', '{'] rest).isInfix hnone
      · rfl
    rw [renderFrom, hat]
    dsimp only
    rw [ih fun hinside => hnone (hinside.trans (List.suffix_cons c cs).isInfix)]
    rfl

theorem render_of_trimSpace (generate : Generator) (values : Values)
    (hnone : Text.contains (Text.trimSpace value) "\x7b\x7b" = false) :
    render generate value values = .ok value := by
  rw [contains_trimSpace_braces, ← Bool.not_eq_true, Text.contains_iff] at hnone
  rw [render, renderFrom_of_not_infix _ hnone]
  simp

end Texts

section Keys

variable {header : Decoding.KeyValue} {headers : List Decoding.KeyValue} {generate : Generator}
  {values : Values} {rendered : List (KeyValue × String)} {name : String}

theorem equalFold_of_spelled (hname : spelled name = true) :
    Text.trimSpace name = name ∧ Text.equalFold (Text.trimSpace name) "Idempotency-Key" = true := by
  have hcanonical : Network.canonicalKey name = "Idempotency-Key" := of_decide_eq_true hname
  have htrim := Network.trimSpace_of_canonicalKey hcanonical (by decide)
  rw [htrim, ← hcanonical]
  exact ⟨rfl, Network.equalFold_canonicalKey name⟩

theorem forall₂_renderItems {items : List KeyValue}
    (hrendered : renderItems generate values items = .ok rendered) :
    List.Forall₂ (fun item result => render generate item.value values = .ok result.2 ∧
      result.1 = item) (items.filter KeyValue.used) rendered := by
  refine (Fallible.mapM_eq_ok_iff.mp hrendered).imp fun item result hresult => ?_
  cases hvalue : render generate item.value values with
  | error e =>
    rw [hvalue] at hresult
    cases hresult
  | ok value =>
    rw [hvalue] at hresult
    obtain rfl := Except.ok.inj hresult
    exact ⟨rfl, rfl⟩

theorem find?_spelled (hkey : keyHeader headers = some header)
    (hname : spelled header.key = true) :
    ((headers.map keyValue).filter KeyValue.used).find? (fun item => spelled item.key) =
      some (keyValue header) := by
  have hused : ∀ item : Decoding.KeyValue, spelled item.key = true →
      (keyValue item).used = item.enabled := by
    intro item hitem
    have hne : item.key ≠ "" := by
      intro hempty
      rw [hempty] at hitem
      exact absurd hitem (by decide)
    simp [KeyValue.used, keyValue, (equalFold_of_spelled hitem).1, hne]
  obtain ⟨hfound, before, after, rfl, hbefore⟩ := List.find?_eq_some_iff_append.mp hkey
  rw [Bool.and_eq_true] at hfound
  rw [List.find?_filter, List.find?_map, List.find?_append, List.find?_eq_none.mpr,
    Option.none_or, List.find?_cons]
  · simp [hused header hname, hfound.1, show spelled (keyValue header).key = true from hname]
  · intro item hitem hspelled
    rw [Function.comp_apply] at hspelled
    obtain ⟨hitemUsed, hname' : spelled item.key = true⟩ := of_decide_eq_true hspelled
    have hcheck := hbefore item hitem
    rw [← hused item hname', hitemUsed, (equalFold_of_spelled hname').2] at hcheck
    exact absurd hcheck (by decide)

/-- **It is sent as it is**, if it has the name. -/
theorem key_of_keyHeader (hrendered : renderItems generate values (headers.map keyValue) =
      .ok rendered) (hkey : keyHeader headers = some header) (hname : spelled header.key = true)
    (hplain : Text.contains (Text.trimSpace header.value) "\x7b\x7b" = false) :
    ∃ item, (rendered.find? fun item => spelled item.1.key) = some item ∧
      item.2 = header.value := by
  obtain ⟨item, hitem, hvalue, -⟩ :=
    Fallible.find?_of_forall₂ (q := fun item => spelled item.1.key) (forall₂_renderItems hrendered)
      (fun a b hab => by rw [hab.2]) (find?_spelled hkey hname)
  have hsame : Except.ok header.value = Except.ok item.2 :=
    (render_of_trimSpace generate values hplain).symm.trans hvalue
  exact ⟨item, hitem, (Except.ok.inj hsame).symm⟩

end Keys

section Methods

variable {rt : Runtime} {config : Decoding.RequestConfig} {values : Values} {parts : Parts}

theorem isTokenRune_of_isSpace {c : Char} (hspace : Text.isSpace c = true) :
    isTokenRune (Text.upperRune c) = false := by
  have hval := of_decide_eq_true hspace
  have hchar : ∀ n : UInt32, c.val = n → ∀ hn : n.isValidChar, c = ⟨n, hn⟩ := fun _ h _ =>
    Char.ext h
  simp only [List.mem_cons, List.not_mem_nil, or_false] at hval
  rcases hval with h | h | h | h | h | h | h | h | h | h | h | h | h | h | h | h | h | h | h | h |
    h | h | h | h | h <;>
    (rw [hchar _ h (by decide)]; decide)

theorem method_of_renderRequest (hparts : renderRequest rt config values = some parts) :
    parts.method = "GET" ∨ parts.method = Text.toUpper (Text.trimSpace config.method) := by
  simp only [renderRequest, Option.bind_eq_bind, Option.bind_eq_some_iff] at hparts
  obtain ⟨target, -, content, -, body, -, ⟨method, url⟩, hmethod, headers, -, cookies, -, hparts⟩ :=
    hparts
  obtain rfl := Option.some.inj hparts
  unfold newRequest at hmethod
  by_cases hempty : Text.toUpper (requestText config).method = ""
  · grind
  · rw [if_neg hempty] at hmethod
    simp only [guarded_eq_some_iff, Prod.mk.injEq] at hmethod
    obtain ⟨htoken, rfl, -⟩ := hmethod
    refine .inr ?_
    have htrim : Text.trimSpace config.method = config.method := by
      refine Text.trimSpace_of_forall fun c hc => ?_
      by_contra hspace
      rw [Bool.not_eq_false] at hspace
      rw [List.all_eq_true] at htoken
      have hmem : Text.upperRune c ∈ (Text.toUpper (requestText config).method).toList := by
        rw [Text.toUpper, String.toList_ofList]
        exact List.mem_map_of_mem hc
      have hrune := htoken _ hmem
      rw [isTokenRune_of_isSpace hspace] at hrune
      cases hrune
    rw [htrim]
    rfl

theorem headers_of_renderRequest (hparts : renderRequest rt config values = some parts) :
    renderItems rt.generate values (config.headers.map keyValue) = .ok parts.headers := by
  simp only [renderRequest, Option.bind_eq_bind, Option.bind_eq_some_iff,
    toOption_eq_some_iff] at hparts
  obtain ⟨target, -, content, -, body, -, ⟨method, url⟩, -, headers, hheaders, cookies, -,
    hparts⟩ := hparts
  obtain rfl := Option.some.inj hparts
  exact hheaders

end Methods

/-! ## The law of recovery -/

/-- The key is sent: the authentication sets one that is not blank, or it sets none, and the header
that the check has found has the name itself, or the first header with the name has a value. -/
def KeySent (config : Decoding.RequestConfig) (parts : Parts) (set : Option (String × String)) :
    Prop :=
  match set.filter fun field => spelled field.1 with
  | some (_, value) => Text.trimSpace value ≠ ""
  | none => (∃ header, keyHeader config.headers = some header ∧ spelled header.key = true) ∨
      ∃ item, parts.key? = some item ∧ Text.trimSpace item.2 ≠ ""

/-- **What the check leaves open**, for a step and the variables before it. -/
def Replayable (rt : Runtime) (step : StepDefinition) (values : Values) : Prop :=
  match (StepLoop.workflowStep step).type with
  | .action => rt.expired = false → NoTokens rt step.actions values
  | .httpRequest =>
    NoTokens rt step.request.preRequest values ∧
      ∀ outputs, (executeStepActions rt step.request.preRequest values).result = some outputs →
        rt.transport step.request = true →
          ∀ parts,
            renderRequest rt step.request (requestVariables step.request outputs values) =
              some parts →
            (step.request.auth.type = "oauth2" →
              ¬TokenReady rt step.request.auth.fields
                (parts.values rt (requestVariables step.request outputs values))) ∧
            ∀ set, (authentication rt step.request.auth
                (parts.values rt (requestVariables step.request outputs values))).result =
                  some set →
              parts.method ∈ repeatableMethods ∨ KeySent step.request parts set
  | .metricValidation | .other _ => True

section Law

variable {rt : Runtime} {step : StepDefinition} {values : Values} {parts : Parts}

theorem keyHeader_of_stepRecoverySafe (hsafe : stepRecoverySafe step = true)
    (henabled : step.enabled = true) (htype : step.type = "HTTP_REQUEST") :
    Text.trimSpace step.request.preRequestScript.code = "" ∧
      (Text.toUpper (Text.trimSpace step.request.method) ∈ repeatableMethods ∨
        ∃ header, keyHeader step.request.headers = some header ∧
          Text.trimSpace header.value ≠ "" ∧
          Text.contains (Text.trimSpace header.value) "\x7b\x7b" = false) := by
  unfold stepRecoverySafe at hsafe
  rw [if_neg (by simp [henabled, htype])] at hsafe
  split at hsafe
  · cases hsafe
  · rename_i hscripts
    refine ⟨by_contra fun hcode => hscripts (.inl hcode), ?_⟩
    split at hsafe
    · rename_i hmethod
      exact .inl hmethod
    · refine .inr ?_
      cases hkey : keyHeader step.request.headers with
      | none => simp [hkey] at hsafe
      | some header =>
        grind

theorem keySent_iff (hsafe : stepRecoverySafe step = true) (henabled : step.enabled = true)
    (htype : step.type = "HTTP_REQUEST")
    (hparts : renderRequest rt step.request values = some parts)
    (set : Option (String × String)) :
    parts.method ∈ repeatableMethods ∨ KeySent step.request parts set ↔
      parts.method ∈ repeatableMethods ∨ KeyArrives parts set := by
  by_cases hmethod : parts.method ∈ repeatableMethods
  · simp [hmethod]
  · rw [or_iff_right hmethod, or_iff_right hmethod]
    have hchecked : ∀ header, keyHeader step.request.headers = some header →
        spelled header.key = true →
          ∃ item, parts.key? = some item ∧ Text.trimSpace item.2 ≠ "" := by
      intro header hheader hname
      have hupper : Text.toUpper (Text.trimSpace step.request.method) ∉ repeatableMethods := by
        rcases method_of_renderRequest hparts with hget | hsame
        · exact absurd (hget ▸ by decide) hmethod
        · rwa [← hsame]
      obtain ⟨-, hupper' | ⟨found, hfound, hvalue, hplain⟩⟩ :=
        keyHeader_of_stepRecoverySafe hsafe henabled htype
      · exact absurd hupper' hupper
      · obtain rfl := Option.some.inj (hheader.symm.trans hfound)
        obtain ⟨item, hitem, hsame⟩ :=
          key_of_keyHeader (headers_of_renderRequest hparts) hheader hname hplain
        exact ⟨item, hitem, hsame ▸ hvalue⟩
    unfold KeySent KeyArrives
    cases set.filter fun field => spelled field.1 with
    | some field => exact Iff.rfl
    | none =>
      refine or_iff_right_of_imp ?_
      rintro ⟨header, hheader, hname⟩
      exact hchecked header hheader hname

/-- **One step.** -/
theorem all_executeStep_iff (hsafe : stepRecoverySafe step = true)
    (henabled : step.enabled = true) :
    (executeStep rt step values).All Repeatable ↔ Replayable rt step values := by
  unfold executeStep Replayable
  cases htype : (StepLoop.workflowStep step).type with
  | action => exact all_executeActions
  | httpRequest =>
    have hname : step.type = "HTTP_REQUEST" := by
      unfold StepLoop.workflowStep at htype
      dsimp only at htype
      split at htype <;> first | assumption | cases htype
    have hscript := (keyHeader_of_stepRecoverySafe hsafe henabled hname).1
    dsimp only
    rw [all_executeWithScriptState hscript]
    refine and_congr_right fun _ => forall_congr' fun outputs => imp_congr_right fun _ =>
      imp_congr_right fun _ => ?_
    rw [all_buildRequest]
    refine forall_congr' fun parts => imp_congr_right fun hparts => and_congr_right fun _ =>
      forall_congr' fun set => imp_congr_right fun _ => ?_
    exact (keySent_iff hsafe henabled hname hparts set).symm
  | metricValidation => exact iff_of_true all_executeMetric trivial
  | other name => exact iff_of_true (Emitting.all_pure ()) trivial

end Law

def openRuntime : Runtime where
  toRequestLibrary := { sampleLibrary with credential := fun value _ => some value }
  executor := sampleExecutor
  expired := false
  requestHost := none
  lookupHost _ := none
  transport _ := true
  executeAction _ _ := none
  token _ := some "t"
  script _ _ := none
  automaticContentType _ _ := ""
  basicAuth _ _ := "Basic Og=="
  generateJWT _ _ := none
  hmacSignature _ _ _ := none
  timestamp := ""
  resolveTelemetryProfile _ := none

def requestStep (request : Decoding.RequestConfig) : StepDefinition :=
  { id := "send", type := "HTTP_REQUEST", enabled := true, request := request }

theorem requestStep_executed (request : Decoding.RequestConfig) :
    ⟨0, requestStep request, ⟨[], List.nodup_nil⟩⟩ ∈
      executions (StepLoop.passingHost none) { steps := [requestStep request] } := by
  have hcondition : evaluateCondition (StepLoop.passingHost none).floats
      (requestStep request).condition [] = .ok true :=
    (by decide : evaluateCondition Preview.noFloats "" [] = .ok true)
  have hholds : (StepLoop.passingHost none).conditionHolds (requestStep request)
      ⟨[], List.nodup_nil⟩ = true := by
    unfold Host.conditionHolds
    rw [hcondition]
  exact List.mem_append_left _ (Option.mem_toList.mpr (if_pos ⟨rfl, rfl, rfl, hholds⟩))

/-- A token, a key with a blank after its name, and an API key that is blank. -/
def uncheckedRequests : List Decoding.RequestConfig :=
  [{ method := "GET", url := "https://shop.example/orders",
     auth := { type := "oauth2", fields := [("tokenUrl", "https://shop.example/orders")] } },
   { method := "POST", url := "https://shop.example/orders",
     headers := [{ enabled := true, key := "Idempotency-Key ", value := "v1" }] },
   { method := "POST", url := "https://shop.example/orders",
     headers := [{ enabled := true, key := "Idempotency-Key", value := "v1" }],
     auth := { type := "apiKey", fields := [("name", "Idempotency-Key"), ("value", "")] } }]

end Rhythm.Runs.RecoverySafe
