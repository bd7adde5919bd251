import Rhythm.Unmarshal

/-!
# Rhythm.Monitors.Definition

Monitor definitions as the API accepts them: a JSON object, checked by
`ValidateDefinition`, beside the metadata that `validateMetadata` checks.  Both
collect every fault with the path of the field it is about.

The JavaScript compiler and the formatting of a floating-point number are
parameters.
-/

namespace Rhythm.Monitors

open Text Unmarshal

/-- The members of a definition. -/
abbrev Definition := List (String × Json)

/-- A fault of a request, with the field it is about. -/
structure FieldError where
  path : String
  message : String
  deriving DecidableEq

/-- Where a script does not compile, and why. -/
structure ScriptProblem where
  line : Nat
  column : Nat
  message : String

/-- What definitions are checked with. -/
structure Library where
  /-- `compiledProgram`: what is wrong with a script. -/
  compile : String → Option ScriptProblem
  /-- `%v` of a `float64`. -/
  formatFloat : Rat → String

/-! ## Reading a decoded object -/

/-- `value.(string)`, or the empty text. -/
def text : Json → String
  | .str value => value
  | _ => ""

/-- `strings.TrimSpace(fmt.Sprint(fields[key]))`. -/
def sprintMember (lib : Library) (fields : List (String × Json)) (key : String) : String :=
  trimSpace (sprint lib.formatFloat (member fields key))

/-! ## Names -/

/-- `^[a-z0-9]+(?:-[a-z0-9]+)*$`. -/
def slugPattern (slug : String) : Bool :=
  (slug.toList.splitOn '-').all fun part =>
    part ≠ [] ∧ part.all fun c => c.isLower || c.isDigit

/-- `^@[A-Za-z0-9_.-]+/[A-Za-z0-9_.-]+$`. -/
def teamPackageNamePattern (name : String) : Bool :=
  match name.toList with
  | '@' :: rest =>
    let parts := rest.splitOn '/'
    parts.length = 2 ∧ parts.all fun part =>
      part ≠ [] ∧ part.all fun c => c.isAlphanum || c ∈ ['_', '.', '-']
  | _ => false

/-! ## Scripts -/

def maxSourceBytes : Nat := 65536

/-- `Validate`: the first problem of a script that is not valid. -/
def validateScript (lib : Library) (code : String) : Option ScriptProblem :=
  if code.utf8ByteSize > maxSourceBytes then
    some ⟨1, 1, "Script exceeds the 64 KB source limit."⟩
  else lib.compile code

/-- The fault of a script under `path`; an empty script has none. -/
def scriptErrors (lib : Library) (path code : String) : List FieldError :=
  if trimSpace code = "" then []
  else
    match validateScript lib code with
    | none => []
    | some problem =>
      [⟨path ++ ".code", "JavaScript line " ++ toString problem.line ++ ", column " ++
        toString problem.column ++ ": " ++ problem.message⟩]

/-- The loop of `validateScriptObject` over the packages, from the package at
`index` on; `names` are the names seen. -/
def packageErrors (lib : Library) (path : String) : Nat → List String → List Json → List FieldError
  | _, _, [] => []
  | index, names, .obj item :: packages =>
    let packagePath := path ++ ".packages." ++ toString index
    let name := sprintMember lib item "name"
    let packageCode := sprint lib.formatFloat (member item "code")
    (if teamPackageNamePattern name = false then
      [⟨packagePath ++ ".name", "Use a scoped package name such as @team-domain/package-name."⟩]
    else if name ∈ names then
      [⟨packagePath ++ ".name", "Package names must be unique within the script."⟩]
    else []) ++
    (if packageCode.utf8ByteSize > maxSourceBytes then
      [⟨packagePath ++ ".code", "Package source must not exceed 64 KB."⟩]
    else scriptErrors lib packagePath packageCode) ++
    packageErrors lib path (index + 1) (name :: names) packages
  | index, names, _ :: packages =>
    ⟨path ++ ".packages." ++ toString index, "Package must be an object."⟩ ::
      packageErrors lib path (index + 1) names packages

/-- `validateScriptObject`. -/
def validateScriptObject (lib : Library) (path : String) : Json → List FieldError
  | .obj value =>
    scriptErrors lib path (text (member value "code")) ++
      packageErrors lib path 0 [] ((member value "packages").items?.getD [])
  | _ => []

/-- What is wrong with the part of a step that its type is about. -/
def stepBodyErrors (lib : Library) (path : String) (step : List (String × Json)) :
    List FieldError :=
  match text (member step "type") with
  | "ACTION" =>
    if (member step "actions").items?.getD [] = [] then
      [⟨path ++ ".actions", "Action steps require at least one controlled action."⟩]
    else []
  | "METRIC_VALIDATION" =>
    match member step "metric" with
    | .obj metric =>
      if sprintMember lib metric "profileId" = "" ∨ sprintMember lib metric "metricSelector" = ""
      then
        [⟨path ++ ".metric", "Metric validation requires a provider profile and metric selector."⟩]
      else []
    | _ =>
      [⟨path ++ ".metric", "Metric validation requires a provider profile and metric selector."⟩]
  | _ =>
    match member step "request" with
    | .obj request =>
      (if trimSpace (text (member request "method")) = "" then
        [⟨path ++ ".request.method", "HTTP method is required."⟩] else []) ++
      (if trimSpace (text (member request "url")) = "" then
        [⟨path ++ ".request.url", "Request URL is required."⟩] else []) ++
      validateScriptObject lib (path ++ ".request.preRequestScript")
        (member request "preRequestScript") ++
      validateScriptObject lib (path ++ ".request.testScript") (member request "testScript")
    | _ => [⟨path ++ ".request", "Request configuration is required."⟩]

/-- The loop of `ValidateDefinition`, from the step at `index` on; `seenIDs` are
the identifiers seen. -/
def stepErrors (lib : Library) : Nat → List String → List Json → List FieldError
  | _, _, [] => []
  | index, seenIDs, .obj step :: steps =>
    let path := "definition.steps." ++ toString index
    let stepID := text (member step "id")
    let stepType := text (member step "type")
    (if trimSpace stepID = "" then [⟨path ++ ".id", "Step ID is required."⟩]
    else if stepID ∈ seenIDs then [⟨path ++ ".id", "Step IDs must be unique."⟩]
    else []) ++
    (if stepType ∈ ["HTTP_REQUEST", "ACTION", "METRIC_VALIDATION"] then []
    else [⟨path ++ ".type", "Step type must be HTTP_REQUEST, ACTION, or METRIC_VALIDATION."⟩]) ++
    stepBodyErrors lib path step ++
    stepErrors lib (index + 1) (stepID :: seenIDs) steps
  | index, seenIDs, _ :: steps =>
    ⟨"definition.steps." ++ toString index, "Step must be an object."⟩ ::
      stepErrors lib (index + 1) seenIDs steps

/-- **`ValidateDefinition`.** -/
def validateDefinition (lib : Library) (definition : Definition) : List FieldError :=
  let scripts :=
    match member definition "scripts" with
    | .obj scriptGroup =>
      validateScriptObject lib "definition.scripts.preRequest" (member scriptGroup "preRequest")
    | _ => []
  match member definition "steps" with
  | .arr (step :: steps) => scripts ++ stepErrors lib 0 [] (step :: steps)
  | _ => [⟨"definition.steps", "Add at least one workflow step."⟩]

/-! ## Script flags -/

def mapMember (key : String) (f : Json → Json) (fields : List (String × Json)) :
    List (String × Json) :=
  fields.map fun field => if field.1 = key then (field.1, f field.2) else field

def mapObject (f : List (String × Json) → List (String × Json)) : Json → Json
  | .obj fields => .obj (f fields)
  | value => value

/-- `setScriptEnabledFromCode`. -/
def setScriptEnabledFromCode : Json → Json :=
  mapObject fun value =>
    setKey value "enabled" (.bool (trimSpace (text (member value "code")) ≠ ""))

def setStepFlags : Json → Json :=
  mapObject <| mapMember "request" <| mapObject fun request =>
    mapMember "testScript" setScriptEnabledFromCode
      (mapMember "preRequestScript" setScriptEnabledFromCode request)

/-- **`normalizeScriptEnabledFlags`**: a script is enabled when it has code. -/
def normalizeScriptEnabledFlags (definition : Definition) : Definition :=
  mapMember "steps"
    (fun
      | .arr steps => .arr (steps.map setStepFlags)
      | value => value)
    (mapMember "scripts" (mapObject (mapMember "preRequest" setScriptEnabledFromCode)) definition)

theorem lookup_mapMember_of_ne {key key' : String} {f : Json → Json}
    {fields : List (String × Json)} (h : key' ≠ key) :
    (mapMember key f fields).lookup key' = fields.lookup key' := by
  have hmap : (mapMember key f fields).lookup key' = (fields.lookup key').map id := by
    refine lookup_map (fun field _ => ?_) fun value => ?_
    · split <;> rfl
    · rw [if_neg h]
      rfl
  rw [hmap, Option.map_id_fun, id]

theorem member_normalizeScriptEnabledFlags {definition : Definition} {key : String}
    (hscripts : key ≠ "scripts") (hsteps : key ≠ "steps") :
    member (normalizeScriptEnabledFlags definition) key = member definition key := by
  unfold member normalizeScriptEnabledFlags
  rw [lookup_mapMember_of_ne hsteps, lookup_mapMember_of_ne hscripts]

/-! ## Metadata -/

/-- **`validateMetadata`.** -/
def validateMetadata (name slug description ownerID : String) (tags : List String) :
    List FieldError :=
  (if name = "" then [⟨"name", "Name is required."⟩]
  else if name.utf8ByteSize > 255 then [⟨"name", "Name must be 255 characters or fewer."⟩]
  else []) ++
  (if slugPattern slug = false ∨ slug.utf8ByteSize > 255 then
    [⟨"slug",
      "Slug must contain 255 or fewer lowercase letters, numbers, and single hyphens."⟩]
  else []) ++
  (if description.utf8ByteSize > 2000 then
    [⟨"description", "Description must be 2,000 characters or fewer."⟩] else []) ++
  (if ownerID.utf8ByteSize > 255 then
    [⟨"ownerId", "Owner must be 255 characters or fewer."⟩] else []) ++
  (if tags.length > 20 then [⟨"tags", "Use no more than 20 tags."⟩] else []) ++
  (tags.zipIdx.filterMap fun (tag, index) =>
    if tag = "" ∨ tag.utf8ByteSize > 64 then
      some ⟨"tags", "Tag " ++ toString (index + 1) ++ " must contain 1 to 64 characters."⟩
    else none)

end Rhythm.Monitors
