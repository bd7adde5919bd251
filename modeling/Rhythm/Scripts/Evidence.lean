import Mathlib.Data.List.Dedup
import Rhythm.Scripts.Masking

/-!
# Rhythm.Scripts.Evidence

The result of a script (`Execute`).  What the script does is arbitrary: its logs, its tests, its
errors, its auxiliary requests and the stores that it leaves are inputs of the model.

A result carries what happened until the script ended (`traced`) and, when it has left a state,
the tests and the state (`completed`).
-/

namespace Rhythm.Scripts.Evidence

open Text

structure Visualizer where
  template : String
  data : Members
  options : Members

/-- `maskedVisualizer`. -/
def maskedVisualizer (secrets : List String) (input : Visualizer) : Visualizer where
  template := mask secrets input.template
  data := maskedObject secrets false input.data
  options := maskedObject secrets false input.options

/-! ## Changes -/

structure Change where
  scope : String
  key : String
  operation : String
  before : String
  after : String
  state : String

def diffKey (secrets : List String) (scope : String) (before after : Values) (key : String) :
    Option Change :=
  let old := before.lookup key
  let next := after.lookup key
  if old.isSome && next.isSome && old == next then none
  else
    let oldSafe := mask secrets (old.getD "")
    let nextSafe := mask secrets (next.getD "")
    let operation := if next.isNone then "removed" else if old.isNone then "added" else "updated"
    if sensitiveRequestKey key || oldSafe != old.getD "" || nextSafe != next.getD "" then
      some ⟨scope, key, operation, masked, masked, masked⟩
    else some ⟨scope, key, operation, oldSafe, nextSafe, "CAPTURED"⟩

/-- `diffMap`. -/
def diffMap (secrets : List String) (scope : String) (before after : Values) : List Change :=
  ((((before ++ after).map Prod.fst).dedup).insertionSort (· ≤ ·)).filterMap
    (diffKey secrets scope before after)

/-- `diffRequest`; `number` is how a number is written in JSON. -/
def diffRequest (number : Rat → String) (secrets : List String) :
    Option Request → Option Request → List Change
  | some before, some after =>
    if marshal number before = marshal number after then []
    else
      let left := marshal number (maskedRequest secrets before)
      let right := marshal number (maskedRequest secrets after)
      let state :=
        if left != marshal number before || right != marshal number after then masked
        else "CAPTURED"
      [⟨"request", "renderedRequest", "updated", left, right, state⟩]
  | _, _ => []

/-! ## Results -/

structure Log where
  level : String
  message : String

structure Test where
  name : String
  passed : Bool
  skipped : Bool
  error : String

structure AuxiliaryRequest where
  source : String
  method : String
  url : String
  error : String

structure PackageImport where
  specifier : String
  registry : String
  version : String

structure Problem where
  severity : String
  message : String
  code : String

/-- The stores of a script. -/
inductive Store where
  | variables | service | application | environment | collection | globals | cookies
  deriving DecidableEq

def Store.all : List Store :=
  [.variables, .service, .application, .environment, .collection, .globals, .cookies]

def Store.name : Store → String
  | .variables => "variables"
  | .service => "service"
  | .application => "application"
  | .environment => "environment"
  | .collection => "collection"
  | .globals => "globals"
  | .cookies => "cookies"

/-- `Result`, without its `Internal` fields. -/
structure Result where
  status : String := "SUCCESS"
  runtimeVersion : String := "rhythm-js-2"
  logs : List Log := []
  tests : List Test := []
  variableChanges : List Change := []
  requestChanges : List Change := []
  auxiliaryRequests : List AuxiliaryRequest := []
  packageImports : List PackageImport := []
  stores : Store → Values := fun _ => []
  request : Option Request := none
  state : Members := []
  visualizer : Option Visualizer := none
  nextRequest : String := ""
  problems : List Problem := []
  errorCategory : String := ""
  errorMessage : String := ""
  safeStack : String := ""

/-! ## What a script does -/

/-- What has happened until the script ends. -/
structure Trace where
  problems : List Problem
  packageImports : List PackageImport
  /-- The calls of `console`: their level, and their arguments as one text. -/
  logs : List (String × String)
  auxiliaryRequests : List AuxiliaryRequest

/-- What the script leaves. -/
structure FinalState where
  stores : Store → Values
  state : Members
  request : Option Request
  visualizer : Option Visualizer
  nextRequest : String

/-- How an execution ends. -/
inductive Behaviour where
  | unsupportedVersion
  | invalid (first : Problem) (rest : List Problem)
  | inputTooLarge (problems : List Problem)
  | packageError (problems : List Problem) (packageImports : List PackageImport) (message : String)
  | pending (trace : Trace)
  | runtimeError (trace : Trace) (timedOut : Bool) (message : String)
  | stateError (trace : Trace) (tests : List Test) (message : String)
  | notSerializable (trace : Trace) (tests : List Test)
  | finished (trace : Trace) (tests : List Test) (state : FinalState) (tooLarge : Bool)

/-- What a script is given, apart from its secrets. -/
structure Input where
  stores : Store → Values
  request : Option Request

/-! ## Execute -/

/-- The start of a text that fits into the bytes; of a character that is cut in two, the bytes that
are left are no character. -/
def takeBytes : Nat → List Char → List Char
  | _, [] => []
  | size, c :: cs => if c.utf8Size ≤ size then c :: takeBytes (size - c.utf8Size) cs else []

def cut (size : Nat) (value : String) : String := String.ofList (takeBytes size value.toList)

/-- `safeError`. -/
def safeError (secrets : List String) (value : String) : String := cut 2048 (mask secrets value)

def takeLines : Nat → List Char → List Char
  | _, [] => []
  | 0, _ => []
  | count + 1, c :: cs =>
    if c = '\n' then if count = 0 then [] else c :: takeLines count cs
    else c :: takeLines (count + 1) cs

/-- `safeStack`: the first eight lines. -/
def safeStack (value : String) : String := String.ofList (takeLines 8 value.toList)

def maxLogs : Nat := 200

def maxLogBytes : Nat := 65536

/-- `hostLog`, with the bytes that the logs have so far. -/
def hostLog (secrets : List String) (logs : List Log × Nat) (call : String × String) :
    List Log × Nat :=
  if maxLogs ≤ logs.1.length ∨ maxLogBytes ≤ logs.2 then logs
  else
    let message := mask secrets call.2
    let remaining := maxLogBytes - logs.2
    (logs.1 ++ [⟨call.1, cut remaining message⟩], logs.2 + min message.utf8ByteSize remaining)

/-- The result as far as it is filled while the script is running. -/
def traced (secrets : List String) (trace : Trace) : Result where
  problems := trace.problems
  packageImports := trace.packageImports
  logs := (trace.logs.foldl (hostLog secrets) ([], 0)).1
  auxiliaryRequests := trace.auxiliaryRequests.map fun request =>
    { request with url := mask secrets request.url }

/-- `failed`. -/
def failed (result : Result) (category message : String) : Result :=
  { result with
    status := "FAILED"
    errorCategory := category
    errorMessage := message }

def completed (number : Rat → String) (secrets : List String) (input : Input) (trace : Trace)
    (tests : List Test) (state : FinalState) : Result :=
  { traced secrets trace with
    tests := tests
    state := maskedObject secrets false state.state
    visualizer := state.visualizer.map (maskedVisualizer secrets)
    nextRequest := state.nextRequest
    stores := fun store => maskedMap secrets (state.stores store)
    request := state.request.map (maskedRequest secrets)
    variableChanges := Store.all.flatMap fun store =>
      diffMap secrets store.name (input.stores store) (state.stores store)
    requestChanges := diffRequest number secrets input.request state.request }

/-- `Execute`. -/
def execute (number : Rat → String) (secrets : List String) (input : Input) :
    Behaviour → Result
  | .unsupportedVersion =>
    failed {} "SCRIPT_POLICY_VIOLATION" "Unsupported JavaScript runtime version."
  | .invalid first rest =>
    failed { problems := first :: rest } "SCRIPT_SYNTAX_ERROR" first.message
  | .inputTooLarge problems =>
    failed { problems := problems } "SCRIPT_OUTPUT_LIMIT" "Script input exceeds the 1 MB limit."
  | .packageError problems packageImports message =>
    failed { problems := problems, packageImports := packageImports } "SCRIPT_PACKAGE_ERROR"
      (safeError [] message)
  | .pending trace =>
    failed (traced secrets trace) "SCRIPT_TIMEOUT"
      "JavaScript did not settle before the deterministic event queue completed."
  | .runtimeError trace timedOut message =>
    let category := if timedOut then "SCRIPT_TIMEOUT" else "SCRIPT_RUNTIME_ERROR"
    let message :=
      if timedOut then "Pre-request script exceeded execution timeout."
      else safeError secrets message
    failed { traced secrets trace with safeStack := safeStack message } category message
  | .stateError trace tests message =>
    failed { traced secrets trace with tests := tests } "SCRIPT_RUNTIME_ERROR"
      (safeError secrets message)
  | .notSerializable trace tests =>
    failed { traced secrets trace with tests := tests } "SCRIPT_OUTPUT_LIMIT"
      "Script produced values that cannot be serialized."
  | .finished trace tests state tooLarge =>
    let result := completed number secrets input trace tests state
    if tests.any fun test => !test.passed && !test.skipped then
      failed result "SCRIPT_ASSERTION_FAILURE" "A JavaScript test failed."
    else if tooLarge then
      failed result "SCRIPT_OUTPUT_LIMIT" "Script evidence exceeds the 256 KB output limit."
    else result

end Rhythm.Scripts.Evidence
