import Rhythm.Scripts.Evidence

/-!
# Rhythm.Scripts.Shown

Which texts the result of a script is made of.  `Behaviour.shown` lists the texts of an execution by
what is made of them: stored as they are, masked in place, masked together, or written into the
JSON of a request.  `Shown.KeepsBack` is what it takes for a value to be in none of them.
-/

namespace Rhythm.Scripts.Evidence

open Text

/-! ## The strings of a result -/

/-- The strings of a value, the keys of its objects included. -/
def jsonStrings : Json → List String
  | .str value => [value]
  | .arr items => itemStrings items
  | .obj fields => memberStrings fields
  | _ => []
where
  itemStrings : List Json → List String
    | [] => []
    | item :: items => jsonStrings item ++ itemStrings items
  memberStrings : Members → List String
    | [] => []
    | (key, value) :: fields => key :: (jsonStrings value ++ memberStrings fields)

def Entry.strings (entry : Entry) : List String := [entry.key, entry.value]

def Request.strings (request : Request) : List String :=
  [request.method, request.url] ++ (request.headers.getD []).flatMap Entry.strings ++
    (request.query.getD []).flatMap Entry.strings ++
    jsonStrings (.obj (request.body.getD [])) ++ jsonStrings (.obj (request.auth.getD []))

def Visualizer.strings (visualizer : Visualizer) : List String :=
  visualizer.template ::
    (jsonStrings (.obj visualizer.data) ++ jsonStrings (.obj visualizer.options))

def Change.strings (change : Change) : List String :=
  [change.scope, change.key, change.operation, change.before, change.after, change.state]

def Log.strings (log : Log) : List String := [log.level, log.message]

def Test.strings (test : Test) : List String := [test.name, test.error]

def AuxiliaryRequest.strings (request : AuxiliaryRequest) : List String :=
  [request.source, request.method, request.url, request.error]

def PackageImport.strings (package : PackageImport) : List String :=
  [package.specifier, package.registry, package.version]

def Problem.strings (problem : Problem) : List String :=
  [problem.severity, problem.message, problem.code]

def valueStrings (values : Values) : List String :=
  values.flatMap fun entry => [entry.1, entry.2]

namespace Result

variable (result : Result)

def endStrings : List String :=
  [result.status, result.runtimeVersion, result.errorCategory, result.errorMessage,
    result.safeStack]

def traceStrings : List String :=
  result.problems.flatMap Problem.strings ++
    result.packageImports.flatMap PackageImport.strings ++
    result.logs.flatMap Log.strings ++
    result.auxiliaryRequests.flatMap AuxiliaryRequest.strings

def stateStrings : List String :=
  result.nextRequest :: (jsonStrings (.obj result.state) ++
    result.visualizer.toList.flatMap Visualizer.strings ++
    Store.all.flatMap (fun store => valueStrings (result.stores store)) ++
    result.request.toList.flatMap Request.strings ++
    result.variableChanges.flatMap Change.strings ++
    result.requestChanges.flatMap Change.strings)

def strings : List String :=
  result.endStrings ++ result.traceStrings ++ result.tests.flatMap Test.strings ++
    result.stateStrings

end Result

/-! ## What a result shows -/

/-- What is made of a text: it is stored as it is or masked in place, texts are masked as a whole as
soon as one of them has a secret, and a request is stored as JSON with its texts masked. -/
inductive Shown where
  | asIs (text : String)
  | inPlace (text : String)
  | together (texts : List String)
  | json (pieces : List Piece)

namespace Shown

def texts (secrets : List String) : Shown → List String
  | asIs text => [text]
  | inPlace text => [mask secrets text]
  | together texts => if ∀ text ∈ texts, mask secrets text = text then texts else [masked]
  | json pieces => [written (pieces.map (Piece.mask secrets))]

def Clear (value : String) : Prop := Detached value.toList masked.toList

instance : DecidablePred Clear := fun _ => inferInstanceAs (Decidable (Detached _ _))

/-- **What keeps a value back.**  A text that is stored as it is does not contain it.  Where a text
that is masked contains it, the value is `known` to be a secret; texts that are masked together need
any secret.  A value that overlaps the text of the mask needs texts that have neither it nor a
secret. -/
def KeepsBack (secrets : List String) (value : String) (known : Prop) : Shown → Prop
  | asIs text => contains text value = false
  | inPlace text =>
    Clear value ∧ (contains text value = true → known) ∨
      mask secrets text = text ∧ contains text value = false
  | together texts =>
    (∃ text ∈ texts, contains text value = true) → ∃ text ∈ texts, mask secrets text ≠ text
  | json pieces =>
    (Clear value ∧ StandsInTexts value pieces ∧
        ∀ piece ∈ pieces, piece.Covers secrets value known) ∨
      (∀ piece ∈ pieces, piece.mask secrets = piece) ∧ contains (written pieces) value = false

variable {secrets : List String} {value : String} {known : Prop}

instance [Decidable known] (shown : Shown) : Decidable (shown.KeepsBack secrets value known) :=
  match shown with
  | asIs _ => inferInstanceAs (Decidable (_ = _))
  | inPlace _ => inferInstanceAs (Decidable (_ ∨ _))
  | together _ => inferInstanceAs (Decidable (_ → _))
  | json _ => inferInstanceAs (Decidable (_ ∨ _))

theorem KeepsBack.hides {shown : Shown} (h : shown.KeepsBack secrets value known)
    (hmasked : contains masked value = false) (hknown : known → value ∈ secrets) :
    ∀ text ∈ shown.texts secrets, contains text value = false := by
  cases shown with
  | asIs text =>
    intro text' htext
    rw [texts, List.mem_singleton] at htext
    exact htext ▸ h
  | inPlace text =>
    intro text' htext
    rw [texts, List.mem_singleton] at htext
    subst htext
    obtain ⟨hclear, hsecret⟩ | ⟨hsame, hfree⟩ := h
    · exact not_contains_mask hclear fun hcontains => hknown (hsecret hcontains)
    · rwa [hsame]
  | together all =>
    intro text htext
    rw [texts] at htext
    split at htext
    · rename_i hsame
      rw [Bool.eq_false_iff]
      intro hcontains
      obtain ⟨other, hother, hchanged⟩ := h ⟨text, htext, hcontains⟩
      exact hchanged (hsame other hother)
    · rw [List.mem_singleton] at htext
      exact htext ▸ hmasked
  | json pieces =>
    intro text htext
    rw [texts, List.mem_singleton] at htext
    subst htext
    obtain ⟨hclear, hstands, hcovers⟩ | ⟨hsame, hfree⟩ := h
    · exact not_contains_written hclear hknown hstands hcovers
    · rwa [List.map_congr_left hsame, List.map_id']

end Shown

/-! ## What an execution shows -/

def jsonShown : Json → List Shown
  | .str value => [.together [value]]
  | .arr items => itemsShown items
  | .obj fields => membersShown fields
  | _ => []
where
  itemsShown : List Json → List Shown
    | [] => []
    | item :: items => jsonShown item ++ itemsShown items
  membersShown : Members → List Shown
    | [] => []
    | (key, value) :: fields => .asIs key :: (jsonShown value ++ membersShown fields)

def Entry.shown (entry : Entry) : List Shown := [.asIs entry.key, .together [entry.value]]

def Request.shown (request : Request) : List Shown :=
  [.asIs request.method, .inPlace request.url] ++ (request.headers.getD []).flatMap Entry.shown ++
    (request.query.getD []).flatMap Entry.shown ++
    jsonShown (.obj (request.body.getD [])) ++ jsonShown (.obj (request.auth.getD []))

def Visualizer.shown (visualizer : Visualizer) : List Shown :=
  .inPlace visualizer.template ::
    (jsonShown (.obj visualizer.data) ++ jsonShown (.obj visualizer.options))

def valuesShown (values : Values) : List Shown :=
  values.flatMap fun entry => [.asIs entry.1, .together [entry.2]]

def asIs (strings : List String) : List Shown := strings.map .asIs

/-- A change of a key; both texts are masked as soon as one of them has a secret. -/
def Change.shown (change : Change) : List Shown :=
  asIs [change.scope, change.key, change.operation, change.state] ++
    [.together [change.before, change.after]]

def requestChangesShown (number : Rat → String) : Option Request → Option Request → List Shown
  | some before, some after =>
    if marshal number before = marshal number after then []
    else
      asIs ["request", "renderedRequest", "updated", "CAPTURED", masked] ++
        [.json (requestPieces number (maskedRequest [] before)),
          .json (requestPieces number (maskedRequest [] after))]
  | _, _ => []

def Trace.shown (trace : Trace) : List Shown :=
  asIs (trace.problems.flatMap Problem.strings) ++
    asIs (trace.packageImports.flatMap PackageImport.strings) ++
    trace.logs.flatMap (fun call => [.asIs call.1, .inPlace call.2]) ++
    trace.auxiliaryRequests.flatMap fun request =>
      [.asIs request.source, .asIs request.method, .inPlace request.url, .asIs request.error]

def FinalState.shown (number : Rat → String) (input : Input) (state : FinalState) : List Shown :=
  .asIs state.nextRequest :: (jsonShown (.obj (maskedObject [] false state.state)) ++
    state.visualizer.toList.flatMap (fun visualizer => (maskedVisualizer [] visualizer).shown) ++
    Store.all.flatMap (fun store => valuesShown (maskedMap [] (state.stores store))) ++
    state.request.toList.flatMap (fun request => (maskedRequest [] request).shown) ++
    Store.all.flatMap (fun store =>
      (diffMap [] store.name (input.stores store) (state.stores store)).flatMap Change.shown) ++
    requestChangesShown number input.request state.request)

def endShown (status category : String) (message : Shown) : List Shown :=
  asIs [status, "rhythm-js-2", category] ++ [message]

def Behaviour.shown (number : Rat → String) (input : Input) : Behaviour → List Shown
  | .unsupportedVersion =>
    endShown "FAILED" "SCRIPT_POLICY_VIOLATION" (.asIs "Unsupported JavaScript runtime version.")
  | .invalid first rest =>
    endShown "FAILED" "SCRIPT_SYNTAX_ERROR" (.asIs first.message) ++
      asIs ((first :: rest).flatMap Problem.strings)
  | .inputTooLarge problems =>
    endShown "FAILED" "SCRIPT_OUTPUT_LIMIT" (.asIs "Script input exceeds the 1 MB limit.") ++
      asIs (problems.flatMap Problem.strings)
  | .packageError problems packageImports message =>
    endShown "FAILED" "SCRIPT_PACKAGE_ERROR" (.asIs (cut 2048 message)) ++
      (asIs (problems.flatMap Problem.strings) ++
        asIs (packageImports.flatMap PackageImport.strings))
  | .pending trace =>
    endShown "FAILED" "SCRIPT_TIMEOUT"
      (.asIs "JavaScript did not settle before the deterministic event queue completed.") ++
      trace.shown
  | .runtimeError trace true _ =>
    endShown "FAILED" "SCRIPT_TIMEOUT" (.asIs "Pre-request script exceeded execution timeout.") ++
      trace.shown
  | .runtimeError trace false message =>
    endShown "FAILED" "SCRIPT_RUNTIME_ERROR" (.inPlace message) ++ trace.shown
  | .stateError trace tests message =>
    endShown "FAILED" "SCRIPT_RUNTIME_ERROR" (.inPlace message) ++
      (trace.shown ++ asIs (tests.flatMap Test.strings))
  | .notSerializable trace tests =>
    endShown "FAILED" "SCRIPT_OUTPUT_LIMIT"
      (.asIs "Script produced values that cannot be serialized.") ++
      (trace.shown ++ asIs (tests.flatMap Test.strings))
  | .finished trace tests state tooLarge =>
    (if tests.any fun test => !test.passed && !test.skipped then
        endShown "FAILED" "SCRIPT_ASSERTION_FAILURE" (.asIs "A JavaScript test failed.")
      else if tooLarge then
        endShown "FAILED" "SCRIPT_OUTPUT_LIMIT"
          (.asIs "Script evidence exceeds the 256 KB output limit.")
      else endShown "SUCCESS" "" (.asIs "")) ++
      (trace.shown ++ asIs (tests.flatMap Test.strings) ++ state.shown number input)

end Rhythm.Scripts.Evidence
