import Rhythm.Assignments
import Rhythm.Fallible
import Rhythm.Runs.Building

/-!
# Rhythm.Runs.Actions

The actions of a step: each renders its expression with the values that the ones before it have
left, and sets its output, or takes a variable away.  What is generated, and what hashes and
encodings give, are inputs of each action.

`executeStepActions_spec` says what the actions leave under each key: what the last action on it
does.
-/

namespace Rhythm.Runs.Actions

open Text
open Assignments (Assignment erase)
open Building (Runtime field normalizeActionType asksForToken tokenTransport acquireOAuthToken)

/-! ## One action -/

/-- What one action works with. -/
structure ActionLibrary extends Runtime where
  /-- `time.RFC3339Nano`. -/
  now : String
  uuid : Option String
  /-- The hexadecimal form of sixteen random bytes. -/
  nonce : Option String
  /-- The base64 form of so many random bytes, cut to this length. -/
  randomText : Nat → Option String
  /-- `strconv.Atoi`; a text that is no number is 0. -/
  atoi : String → Int
  sha256 : String → String
  sha512 : String → String
  /-- `hex.DecodeString` and the base64 forms of the bytes. -/
  base64Hex : String → Option String
  base64URLHex : String → Option String
  base64Encode : String → String
  base64Decode : String → Option String
  queryUnescape : String → Option String
  /-- `json.Unmarshal` and `json.Marshal`. -/
  jsonStringify : String → Option String

section Library

variable (lib : ActionLibrary)

/-- `encodeActionOutput`. -/
def encodeActionOutput (hexValue encoding : String) : Option String :=
  match lib.base64Hex hexValue, lib.base64URLHex hexValue with
  | some encoded, some encodedURL =>
    match toUpper (replaceAll encoding "-" "_") with
    | "" | "HEX" | "HEX_LOWER" => some hexValue
    | "HEX_UPPER" => some (toUpper hexValue)
    | "BASE64" => some encoded
    | "BASE64_URL" | "BASE64_URL_SAFE" => some encodedURL
    | _ => none
  | _, _ => none

/-- `prepareActions`, for one action. -/
def prepareAction (action : Decoding.ActionConfig) (values : Values) :
    Option Decoding.ActionConfig := do
  let fields ← action.fields.mapM fun entry =>
    if sensitiveKey entry.1 then
      (lib.credential entry.2 values).map fun resolved => (entry.1, resolved)
    else some entry
  some { action with fields := fields }

def rendered (text : String) (values : Values) : Option String :=
  (render lib.generate text values).toOption

/-- `firstNonEmpty`. -/
def firstNonEmpty (first second : String) : String := if first ≠ "" then first else second

/-- `executeActions`: the value of an action that has one. -/
def actionValue (action : Decoding.ActionConfig) (values : Values) : Option String :=
  match normalizeActionType action.type with
  | "timestamp" => some lib.now
  | "uuid" => lib.uuid
  | "nonce" => lib.nonce
  | "sha" => (rendered lib action.expression values).map lib.sha256
  | "sha512" => (rendered lib action.expression values).map lib.sha512
  | "hmac" => do
    let input ← rendered lib (firstNonEmpty (field action.fields "input") action.expression) values
    let secret ← rendered lib (field action.fields "secret") values
    let signature ← lib.hmacSignature (field action.fields "algorithm") secret input
    encodeActionOutput lib signature (field action.fields "outputEncoding")
  | "base64-encode" => (rendered lib action.expression values).map lib.base64Encode
  | "base64-decode" => (rendered lib action.expression values).bind lib.base64Decode
  | "url-encode" => (rendered lib action.expression values).map Network.queryEscape
  | "url-decode" => (rendered lib action.expression values).bind lib.queryUnescape
  | "random-string" =>
    let length := lib.atoi (field action.fields "length")
    let length := if length ≤ 0 then 24 else length
    if length > 1024 then none else lib.randomText length.toNat
  | "json-stringify" => (rendered lib action.expression values).bind lib.jsonStringify
  | "jwt" => lib.generateJWT { type := "jwt", fields := action.fields } values
  | "copy-value" => some ((values.lookup (trimSpace action.expression)).getD "")
  | "set-variable" => rendered lib action.expression values
  | _ => none

def unsets (action : Decoding.ActionConfig) : Bool :=
  normalizeActionType action.type = "unset-variable"

/-- `executeActions`, for one action. -/
def executeAction (action : Decoding.ActionConfig) (values : Values) : Option Values :=
  if action.enabled = false then some values
  else if unsets action then some (erase values (trimSpace action.expression))
  else do
    let value ← actionValue lib action values
    if trimSpace action.output = "" then none else some (values.write action.output value)

/-- One turn of the loop of `executeStepActions`. -/
def executeStepAction (values : Values) (action : Decoding.ActionConfig) : Option Values :=
  if action.enabled = false then some values
  else if asksForToken action then
    if lib.transport tokenTransport then do
      let token ← (acquireOAuthToken lib.toRuntime action.fields values).result
      if trimSpace action.output = "" then none else some (values.write action.output token)
    else none
  else do
    let prepared ← prepareAction lib action values
    executeAction lib prepared values

end Library

/-- `executeStepActions`; each action has a library of its own. -/
def executeStepActions (libs : Nat → ActionLibrary) :
    Nat → List Decoding.ActionConfig → Values → Option Values
  | _, [], values => some values
  | i, action :: actions, values => do
    let values ← executeStepAction (libs i) values action
    executeStepActions libs (i + 1) actions values

/-! ## What the actions leave -/

def assignedKey (action : Decoding.ActionConfig) : String :=
  if unsets action then trimSpace action.expression else action.output

def lastAction? (actions : List Decoding.ActionConfig) (key : String) :
    Option Decoding.ActionConfig :=
  (actions.filter Decoding.ActionConfig.enabled).reverse.find? fun action =>
    assignedKey action = key

/-- The assignment is what the action does. -/
structure Assigns (action : Decoding.ActionConfig) (a : Assignment String) : Prop where
  key : a.key = assignedKey action
  value : a.value = none ↔ unsets action = true
  output : unsets action = false → trimSpace action.output ≠ ""

section Spec

variable {lib : ActionLibrary} {libs : Nat → ActionLibrary}
  {action prepared : Decoding.ActionConfig} {actions : List Decoding.ActionConfig}
  {values values' seed : Values} {key : String}

theorem assigns_of_write {value : String} (hset : unsets action = false)
    (h : (if trimSpace action.output = "" then none else some (values.write action.output value)) =
      some values') :
    ∃ a, Assigns action a ∧ values' = a.apply values := by
  split at h
  · cases h
  · rename_i houtput
    refine ⟨⟨action.output, some value⟩, ⟨?_, by simp [hset], fun _ => houtput⟩,
      (Option.some.inj h).symm⟩
    rw [assignedKey, if_neg (by simp [hset])]

theorem prepareAction_fields (h : prepareAction lib action values = some prepared) :
    prepared.enabled = action.enabled ∧ prepared.type = action.type ∧
      prepared.output = action.output ∧ prepared.expression = action.expression := by
  grind [prepareAction, Option.bind_eq_bind, Option.bind_eq_some_iff, Option.some.inj]

theorem assigns_of_executeAction (h : executeAction lib action values = some values')
    (henabled : action.enabled = true) : ∃ a, Assigns action a ∧ values' = a.apply values := by
  unfold executeAction at h
  rw [if_neg (by simp [henabled])] at h
  by_cases hunsets : unsets action = true
  · rw [if_pos hunsets] at h
    refine ⟨⟨trimSpace action.expression, none⟩, ⟨?_, by simp [hunsets], by simp [hunsets]⟩,
      (Option.some.inj h).symm⟩
    rw [assignedKey, if_pos hunsets]
  · rw [if_neg hunsets] at h
    simp only [Option.bind_eq_bind, Option.bind_eq_some_iff] at h
    obtain ⟨value, -, h⟩ := h
    exact assigns_of_write (Bool.eq_false_iff.mpr hunsets) h

/-- **One action** sets its output or takes its variable away. -/
theorem assigns_of_executeStepAction (h : executeStepAction lib values action = some values')
    (henabled : action.enabled = true) : ∃ a, Assigns action a ∧ values' = a.apply values := by
  unfold executeStepAction at h
  rw [if_neg (by simp [henabled])] at h
  by_cases htoken : asksForToken action = true
  · rw [if_pos htoken, Option.ite_none_right_eq_some] at h
    obtain ⟨-, h⟩ := h
    simp only [Option.bind_eq_bind, Option.bind_eq_some_iff] at h
    obtain ⟨token, -, h⟩ := h
    refine assigns_of_write ?_ h
    have htype : normalizeActionType action.type = "oauth-token" := by
      simpa [asksForToken, henabled] using htoken
    simp [unsets, htype]
  · rw [if_neg htoken] at h
    simp only [Option.bind_eq_bind, Option.bind_eq_some_iff] at h
    obtain ⟨prepared, hprepared, h⟩ := h
    obtain ⟨hsame, htype, houtput, hexpression⟩ := prepareAction_fields hprepared
    obtain ⟨a, ha, hvalues⟩ := assigns_of_executeAction h (by rw [hsame, henabled])
    have hunsets : unsets prepared = unsets action := by rw [unsets, unsets, htype]
    refine ⟨a, ⟨?_, ?_, ?_⟩, hvalues⟩
    · rw [ha.key, assignedKey, assignedKey, hunsets, houtput, hexpression]
    · rw [ha.value, hunsets]
    · rw [← hunsets, ← houtput]
      exact ha.output

/-- **The actions are a program of assignments**, one for each enabled action. -/
theorem assigns_of_executeStepActions {i : Nat}
    (h : executeStepActions libs i actions seed = some values) :
    ∃ program, List.Forall₂ Assigns (actions.filter Decoding.ActionConfig.enabled) program ∧
      values = Assignments.run seed program := by
  induction actions generalizing i seed with
  | nil => exact ⟨[], .nil, (Option.some.inj h).symm⟩
  | cons action actions ih =>
    rw [executeStepActions, Option.bind_eq_bind, Option.bind_eq_some_iff] at h
    obtain ⟨next, hnext, hrest⟩ := h
    obtain ⟨program, hprogram, hvalues⟩ := ih hrest
    cases henabled : action.enabled with
    | false =>
      grind [executeStepAction, Option.some.inj]
    | true =>
      obtain ⟨a, ha, rfl⟩ := assigns_of_executeStepAction hnext henabled
      refine ⟨a :: program, ?_, hvalues⟩
      rw [List.filter_cons, if_pos henabled]
      exact .cons ha hprogram

/-- **What the actions leave** under a key: nothing when the last action on it takes it away, a
value when it sets it, and what was there when there is none. -/
theorem executeStepActions_spec {i : Nat}
    (h : executeStepActions libs i actions seed = some values) (key : String) :
    match lastAction? actions key with
    | none => values.lookup key = seed.lookup key
    | some action =>
      (unsets action = true ∧ values.lookup key = none) ∨
        (unsets action = false ∧ trimSpace action.output ≠ "" ∧ (values.lookup key).isSome) := by
  obtain ⟨program, hprogram, rfl⟩ := assigns_of_executeStepActions h
  have hreverse := List.rel_reverse hprogram
  have hkeys : ∀ action a, Assigns action a →
      decide (assignedKey action = key) = decide (a.key = key) := fun action a ha => by rw [ha.key]
  rw [Assignments.lookup_run]
  cases hlast : lastAction? actions key with
  | none =>
    cases hfound : Assignments.last? program key with
    | none => rfl
    | some a =>
      obtain ⟨action, haction, -⟩ := Fallible.find?_of_forall₂ (List.Forall₂.flip hreverse)
        (fun a action ha => (hkeys action a ha).symm) hfound
      rw [lastAction?, haction] at hlast
      cases hlast
  | some action =>
    obtain ⟨a, hfound, ha⟩ := Fallible.find?_of_forall₂ hreverse hkeys hlast
    rw [Assignments.last?, hfound]
    dsimp only
    cases hunsets : unsets action with
    | true => exact .inl ⟨rfl, ha.value.mpr hunsets⟩
    | false =>
      refine .inr ⟨rfl, ha.output hunsets, Option.isSome_iff_ne_none.mpr fun hnone => ?_⟩
      rw [ha.value.mp hnone] at hunsets
      cases hunsets

end Spec

/-- The loop as `Building` has it: where nothing depends on the place of an action, it leaves the
same values. -/
theorem result_executeStepActions (lib : ActionLibrary)
    (hlib : lib.executeAction = fun action values =>
      (prepareAction lib action values).bind fun prepared => executeAction lib prepared values)
    (i : Nat) (actions : List Decoding.ActionConfig) (seed : Values) :
    (Building.executeStepActions lib.toRuntime actions seed).result =
      executeStepActions (fun _ => lib) i actions seed := by
  induction actions generalizing i seed with
  | nil => rfl
  | cons action actions ih =>
    have hone : (Building.executeStepAction lib.toRuntime seed action).result =
        executeStepAction lib seed action := by
      unfold Building.executeStepAction executeStepAction
      split
      · rfl
      · split
        · cases htransport : lib.transport tokenTransport with
          | false => simp [Emitting.check]
          | true =>
            simp only [Emitting.check, Emitting.result_bind, Emitting.result_ofOption,
              Emitting.result_pure, if_pos, Option.bind_some, Option.bind_eq_bind]
            refine Option.bind_congr fun token _ => ?_
            by_cases houtput : trimSpace action.output = "" <;> simp [houtput]
        · simp [hlib]
    rw [Building.executeStepActions, List.foldlM_cons, Emitting.result_bind, hone,
      executeStepActions]
    exact Option.bind_congr fun next _ => ih (i + 1) next

end Rhythm.Runs.Actions
