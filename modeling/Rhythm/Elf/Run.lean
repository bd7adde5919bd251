import Mathlib.Data.List.Sort
import Rhythm.Elf.Compiler
import Rhythm.Elf.Masking
import Rhythm.Numeric
import Rhythm.Unmarshal

/-!
# Rhythm.Elf.Run

`Run`: a saved query is compiled, sent, and its response decoded, masked and judged
by the criteria of the query.  The response is decoded twice, into the fields that
Rhythm reads and into the map that it keeps as evidence.

The response of the search endpoint is an input; the scanner of `json.Unmarshal`, the
conversions of floating-point numbers, `regexp`, `filepath.Match` and SHA-256 are
parameters.
-/

namespace Rhythm.Elf

open Text Numeric Unmarshal

/-- The parts of Go's library that the service works with. -/
structure Library where
  /-- `json.Unmarshal` of an authored body. -/
  unmarshal : ByteArray → Except String (List (String × Json))
  /-- The syntax tree of a JSON text. -/
  parse : ByteArray → Option JsonText
  parseFloat : String → Option Rat
  /-- A `float64` under `%v`. -/
  formatFloat : Rat → String
  matchString : String → String → Bool
  /-- `filepath.Match`. -/
  matchPath : String → String → Bool
  hashID : String → String

/-! ## Printed values -/

section Sprint

variable (formatFloat : Rat → String)

mutual
/-- `fmt.Sprint` of a decoded value. -/
def sprint : Json → String
  | .null => "<nil>"
  | .bool value => if value then "true" else "false"
  | .num value => formatFloat value
  | .str value => value
  | .arr items => "[" ++ " ".intercalate (sprintItems items) ++ "]"
  | .obj fields =>
    "map[" ++ " ".intercalate (((sprintFields fields).insertionSort fun a b => a.1 ≤ b.1).map
      fun field => field.1 ++ ":" ++ field.2) ++ "]"

def sprintItems : List Json → List String
  | [] => []
  | item :: items => sprint item :: sprintItems items

def sprintFields : List (String × Json) → List (String × String)
  | [] => []
  | (key, value) :: fields => (key, sprint value) :: sprintFields fields
end

/-- `strings.TrimSpace(fmt.Sprint(criteria[key]))`. -/
def criterion (criteria : List (String × Json)) (key : String) : String :=
  trimSpace (sprint formatFloat ((criteria.lookup key).getD .null))

def criterionUpper (criteria : List (String × Json)) (key : String) : String :=
  toUpper (criterion formatFloat criteria key)

end Sprint

/-- `number`, on a decoded value. -/
def number : Option Json → Option Rat
  | some (.num value) => some value
  | _ => none

/-! ## Criteria -/

/-- The criteria that `SaveQuery` stores. -/
def saveCriteria (lib : Library) (criteria : List (String × Json)) :
    Except String (List (String × Json)) :=
  let operator := criterionUpper lib.formatFloat criteria "operator"
  let operator := if operator = "" then "EQ" else operator
  if operator ∉ ["LT", "LTE", "EQ", "NE", "GTE", "GT"] then
    .error "criteria.operator must be LT, LTE, EQ, NE, GTE, or GT"
  else
    match number (criteria.lookup "value") with
    | none => .error "criteria.value must be a non-negative whole number"
    | some threshold =>
      if threshold < 0 ∨ threshold ≠ truncate threshold then
        .error "criteria.value must be a non-negative whole number"
      else .ok [("operator", .str operator), ("value", .num threshold)]

/-- `isFieldCriteria`. -/
def isFieldCriteria (lib : Library) (criteria : List (String × Json)) : Bool :=
  equalFold "FIELD" (criterion lib.formatFloat criteria "kind")

/-- `fieldPathPattern.MatchString`. -/
def fieldPath (field : String) : Bool :=
  field ≠ "" && field.toList.all fun c => c.isAlphanum || c ∈ ['_', '@', '.', '-']

/-- `validateFieldCriteria`: the message of the first problem. -/
def validateFieldCriteria (lib : Library) (criteria : List (String × Json)) : Option String :=
  let operator := criterionUpper lib.formatFloat criteria "operator"
  let quantifier := criterionUpper lib.formatFloat criteria "quantifier"
  if ¬ fieldPath (criterion lib.formatFloat criteria "field") then
    some "field condition requires a valid field path"
  else if sensitiveKey (criterion lib.formatFloat criteria "field") then
    some "field conditions cannot evaluate sensitive fields"
  else if operator ∉ ["GT", "GTE", "LT", "LTE", "EQ", "NE", "CONTAINS", "EXISTS", "NOT_EXISTS"] then
    some ("field condition operator must be GT, GTE, LT, LTE, EQ, NE, CONTAINS, EXISTS, " ++
      "or NOT_EXISTS")
  else if quantifier ∉ ["", "ANY", "ALL", "NONE"] then
    some "field condition match scope must be ANY, ALL, or NONE"
  else if operator = "EXISTS" ∨ operator = "NOT_EXISTS" then none
  else
    match criteria.lookup "value" with
    | none | some .null => some "field condition requires a comparison value"
    | some value =>
      if trimSpace (sprint lib.formatFloat value) = "" then
        some "field condition requires a comparison value"
      else if operator ∈ ["GT", "GTE", "LT", "LTE"] then
        match value with
        | .num _ | .str _ => none
        | _ => some "range field conditions require a number or date value"
      else none

def fieldConditionAggregation : String := "__rhythm_field_condition"

/-- `fieldCriteriaResult`: the evidence, which is empty when there is none. -/
def fieldCriteriaResult (lib : Library) (criteria : List (String × Json)) (hits : Int)
    (aggs : List (String × Json)) : List (String × Json) :=
  if (validateFieldCriteria lib criteria).isSome then []
  else
    match aggs.lookup fieldConditionAggregation with
    | some (.obj aggregation) =>
      match number (aggregation.lookup "doc_count") with
      | none => []
      | some matchedValue =>
        let matched := truncate matchedValue
        let quantifier := criterionUpper lib.formatFloat criteria "quantifier"
        let quantifier := if quantifier = "" then "ANY" else quantifier
        let operator := criterionUpper lib.formatFloat criteria "operator"
        let passed : Bool :=
          if quantifier = "ANY" then matched > 0
          else if quantifier = "ALL" then hits > 0 ∧ matched = hits
          else quantifier = "NONE" ∧ matched = 0
        [("kind", .str "FIELD"), ("field", .str (criterion lib.formatFloat criteria "field")),
          ("operator", .str operator), ("quantifier", .str quantifier),
          ("evaluatedDocuments", .num hits), ("matchingDocuments", .num matched),
          ("passed", .bool passed)] ++
          if operator = "EXISTS" ∨ operator = "NOT_EXISTS" then []
          else [("expected", (criteria.lookup "value").getD .null)]
    | _ => []

def compareCount (operator : String) (actual expected : Rat) : Bool :=
  match operator with
  | "LT" => actual < expected
  | "LTE" | "MAX" => actual ≤ expected
  | "GT" => actual > expected
  | "GTE" | "MIN" => actual ≥ expected
  | "NE" => actual ≠ expected
  | _ => actual = expected

/-- The value at the path of an aggregation; `none` when the path leads through no object. -/
def aggregationAt : List String → Option Json → Option (Option Json)
  | [], value => some value
  | part :: parts, some (.obj fields) => aggregationAt parts (fields.lookup part)
  | _ :: _, _ => none

/-- `evaluateCriteria`. -/
def evaluateCriteria (lib : Library) (criteria : List (String × Json)) (hits : Int)
    (aggs conditionEvidence : List (String × Json)) : Bool :=
  if criteria = [] then hits = 0
  else if isFieldCriteria lib criteria then
    match conditionEvidence.lookup "passed" with
    | some (.bool passed) => passed
    | _ => false
  else
    let operator := criterionUpper lib.formatFloat criteria "operator"
    let expected := (number (criteria.lookup "value")).getD 0
    let path :=
      match criteria.lookup "aggregationPath" with
      | some (.str path) => trimSpace path
      | _ => ""
    if path = "" then compareCount operator (float64 hits) expected
    else
      match aggregationAt (split path '.') (some (.obj aggs)) with
      | none => false
      | some value =>
        let actual :=
          match value with
          | some (.obj fields) => (number (fields.lookup "value")).getD 0
          | _ => (number value).getD 0
        compareCount operator actual expected

/-! ## The response -/

structure HitTotal where
  value : Int
  relation : String

structure Hit where
  id : String
  index : String
  source : Option (List (String × Json))
  sort : List Json

structure Hits where
  total : HitTotal
  hits : List Hit

structure Response where
  took : Int
  timedOut : Bool
  shards : Option (List (String × Json))
  hits : Hits
  aggregations : Option (List (String × Json))

def Response.zero : Response := ⟨0, false, none, ⟨⟨0, ""⟩, []⟩, none⟩

def decodeTotal : Decoder HitTotal :=
  struct
    [field "value" HitTotal.value (fun value total => { total with value }) int64,
      field "relation" HitTotal.relation (fun relation total => { total with relation }) string]

def decodeHit (parseFloat : String → Option Rat) : Decoder Hit :=
  struct
    [field "_id" Hit.id (fun id hit => { hit with id }) string,
      field "_index" Hit.index (fun index hit => { hit with index }) string,
      field "_source" Hit.source (fun source hit => { hit with source }) (map parseFloat),
      field "sort" Hit.sort (fun sort hit => { hit with sort }) (slice (any parseFloat) .null)]

def decodeHits (parseFloat : String → Option Rat) : Decoder Hits :=
  struct
    [field "total" Hits.total (fun total hits => { hits with total }) decodeTotal,
      field "hits" Hits.hits (fun hits outer => { outer with hits })
        (slice (decodeHit parseFloat) ⟨"", "", none, []⟩)]

def decodeResponse (parseFloat : String → Option Rat) : Decoder Response :=
  struct
    [field "took" Response.took (fun took response => { response with took }) int64,
      field "timed_out" Response.timedOut
        (fun timedOut response => { response with timedOut }) bool,
      field "_shards" Response.shards (fun shards response => { response with shards })
        (map parseFloat),
      field "hits" Response.hits (fun hits response => { response with hits })
        (decodeHits parseFloat),
      field "aggregations" Response.aggregations
        (fun aggregations response => { response with aggregations }) (map parseFloat)]

/-! ## The search -/

/-- What the search endpoint gives: an error, or a status and a body. -/
inductive Upstream where
  | failed (deadline : Bool) (message : String) (status : Nat)
  | answered (status : Nat) (body : ByteArray)

/-- An error of `search`, with the status that came with it. -/
structure SearchError where
  deadline : Bool
  message : String
  status : Nat

/-- `search`. -/
def search : Upstream → Except SearchError ByteArray
  | .failed deadline message status => .error ⟨deadline, message, status⟩
  | .answered status body =>
    if body.size > 2 * 1024 * 1024 then
      .error ⟨false, "ELF response exceeded the 2 MB safety limit", status⟩
    else if status < 200 ∨ status ≥ 300 then
      .error ⟨false, "ELF returned HTTP " ++ toString status, status⟩
    else .ok body

/-- `categorize`. -/
def categorize (error : SearchError) : String :=
  if error.deadline ∨ contains (toLower error.message) "timeout" then "TIMEOUT"
  else if error.status = 401 then "AUTHENTICATION"
  else if error.status = 403 then "AUTHORIZATION"
  else if error.status = 404 then "INDEX_NOT_FOUND"
  else if contains error.message "2 MB" then "RESPONSE_LIMIT"
  else "CONNECTION"

/-- `safeMessage`, on an ASCII message. -/
def safeMessage (message : String) : String := String.ofList ((safeError message).toList.take 300)

/-! ## Run -/

/-- The saved query and what `Run` resolved for it. -/
structure Query where
  criteria : List (String × Json)
  gateMode : String
  searchBody : ByteArray
  timeField : String
  index : String
  allowedIndexPatterns : List String
  maskingRules : List String

/-- `RunSummary`. -/
structure RunSummary where
  status : String
  decision : String
  gateMode : String
  resolvedIndex : String
  hitCount : Int
  openSearchTookMS : Int
  shardSummary : List (String × Json)
  aggregations : List (String × Json)
  rawResponse : List (String × Json)
  samples : List (List (String × Json))
  sampleState : String
  truncated : Bool
  conditionEvidence : List (String × Json)
  failureCategory : String
  failureReason : String

/-- `IndexAllowed`. -/
def indexAllowed (lib : Library) (index : String) (allowed : List String) : Bool :=
  trimSpace index ≠ "" && !(index.toList.any fun c => c ∈ [' ', '\\', '/', '?', '#']) &&
    allowed.any fun pattern => lib.matchPath pattern index

/-- `saveFailure`. -/
def saveFailure (query : Query) (category reason : String) : RunSummary where
  status := "FAILED"
  decision := "FAIL"
  gateMode := query.gateMode
  resolvedIndex := query.index
  hitCount := 0
  openSearchTookMS := 0
  shardSummary := []
  aggregations := []
  rawResponse := []
  samples := []
  sampleState := "NOT_CAPTURED"
  truncated := false
  conditionEvidence := []
  failureCategory := category
  failureReason := reason

/-- The sample of a hit: its masked source, its hashed id and its index. -/
def sample (lib : Library) (maskingRules : List String) (hit : Hit) : List (String × Json) :=
  setKey (setKey (maskDocument lib.matchString maskingRules (hit.source.getD []))
    "_id" (.str (lib.hashID hit.id))) "_index" (.str hit.index)

def conditionEvidence (lib : Library) (criteria : List (String × Json)) (hits : Int)
    (aggs : List (String × Json)) : List (String × Json) :=
  if isFieldCriteria lib criteria then fieldCriteriaResult lib criteria hits aggs
  else
    [("kind", .str "HIT_COUNT"), ("path", .str "hits.total.value"), ("actual", .num hits),
      ("operator", .str (criterionUpper lib.formatFloat criteria "operator")),
      ("threshold", (criteria.lookup "value").getD .null)]

/-- The reason of a decision `FAIL`. -/
def failureReason (lib : Library) (criteria : List (String × Json)) (hits : Int)
    (evidence : List (String × Json)) : String :=
  let printed (fields : List (String × Json)) (key : String) :=
    sprint lib.formatFloat ((fields.lookup key).getD .null)
  if isFieldCriteria lib criteria then
    "Field condition matched " ++ printed evidence "matchingDocuments" ++ " of " ++
      printed evidence "evaluatedDocuments" ++ " documents; the " ++
        printed evidence "quantifier" ++ " match scope was not satisfied."
  else
    "hits.total.value was " ++ toString hits ++ "; expected " ++
      criterionUpper lib.formatFloat criteria "operator" ++ " " ++ printed criteria "value" ++ "."

def judge (lib : Library) (query : Query) (evaluate : Bool) (response : Response)
    (upstreamResponse : List (String × Json)) : RunSummary :=
  let hits := response.hits.total.value
  let aggs := response.aggregations.getD []
  let evidence := conditionEvidence lib query.criteria hits aggs
  let aggs :=
    if isFieldCriteria lib query.criteria then
      aggs.filter fun field => field.1 ≠ fieldConditionAggregation
    else aggs
  let passed := evaluateCriteria lib query.criteria hits aggs evidence
  let samples := (response.hits.hits.take 20).map (sample lib query.maskingRules)
  { status := "SUCCESS"
    decision := if evaluate then if passed then "PASS" else "FAIL" else "PENDING"
    gateMode := query.gateMode
    resolvedIndex := query.index
    hitCount := hits
    openSearchTookMS := response.took
    shardSummary := response.shards.getD []
    aggregations := maskDocument lib.matchString query.maskingRules aggs
    rawResponse := maskDocument lib.matchString query.maskingRules upstreamResponse
    samples
    sampleState := "CAPTURED"
    truncated := response.hits.hits.length > samples.length
    conditionEvidence := evidence
    failureCategory := if evaluate ∧ ¬ passed then "CRITERIA_FAILED" else ""
    failureReason :=
      if evaluate ∧ ¬ passed then failureReason lib query.criteria hits evidence else "" }

def decodeBody (lib : Library) (body : ByteArray) :
    Option (Response × List (String × Json)) := do
  let text ← lib.parse body
  let response ← decodeResponse lib.parseFloat text Response.zero
  let upstreamResponse ← map lib.parseFloat text none
  return (response, upstreamResponse.getD [])

/-- `Run`, over the window `gte` to `lte`. -/
def run (lib : Library) (query : Query) (gte lte : String) (size : Int) (upstream : Upstream)
    (evaluate : Bool) : RunSummary :=
  let compiled := compileSearch lib.unmarshal query.searchBody query.timeField gte lte size
  match compiled.problems with
  | problem :: _ => saveFailure query "POLICY_ERROR" problem.message
  | [] =>
    if ¬ indexAllowed lib query.index query.allowedIndexPatterns then
      saveFailure query "INDEX_POLICY_ERROR" "Resolved index is not allowed by ELF settings."
    else
      match if isFieldCriteria lib query.criteria then validateFieldCriteria lib query.criteria
        else none with
      | some message => saveFailure query "POLICY_ERROR" message
      | none =>
        match search upstream with
        | .error error => saveFailure query (categorize error) (safeMessage error.message)
        | .ok body =>
          match decodeBody lib body with
          | none =>
            saveFailure query "RESPONSE_ERROR" "ELF returned a response Rhythm could not parse."
          | some (response, upstreamResponse) =>
            judge lib query evaluate response upstreamResponse

end Rhythm.Elf
