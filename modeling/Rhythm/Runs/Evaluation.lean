import Rhythm.Printed
import Rhythm.Runs.Conditions
import Rhythm.Runs.Decoding
import Rhythm.Runs.Workflow

/-!
# Rhythm.Runs.Evaluation

Extractors and assertions: what they take from a response, and how an assertion compares it.  Both
take their values with `extractValue`, which is given the duration that the timing kinds report.
-/

namespace Rhythm.Runs.Evaluation

open Text Printed

/-! ## The response -/

/-- The certificate that the server has shown. -/
structure Peer where
  daysUntilExpiry : Int
  issuer : String
  subject : String

/-- What is read of `response.TLS`. -/
structure TLSState where
  version : String
  trusted : Bool
  peer : Option Peer

/-- What is read of a response and its body. -/
structure Response where
  statusCode : Int
  status : String
  /-- `response.Header.Get`. -/
  header : String → String
  cookies : List (String × String)
  finalURL : String
  tls : Option TLSState
  body : String
  bodyBytes : Nat
  /-- The body, if it is valid JSON. -/
  document : Option JsonText

/-- The libraries for numbers, patterns and schemas. -/
structure Library where
  /-- `strconv.ParseFloat`, for the numbers of a document. -/
  parseFloat : String → Option Float64
  /-- Numbers that are not whole, under `%v`. -/
  other : Float64 → String
  /-- `regexp.Compile`, then `FindSubmatch` on a text. -/
  findSubmatch : String → Option (String → List String)
  /-- `regexp.MatchString`. -/
  matchString : String → String → Option Bool
  /-- `strconv.ParseFloat` and comparisons. -/
  floats : FloatLibrary
  validateJSONSchema : Option JsonText → String → Except String String

/-! ## Values of a response -/

/-- The errors of `extractValue`. -/
inductive ExtractError where
  /-- `response header %q was not found` -/
  | headerNotFound (name : String)
  /-- `response cookie %q was not found` -/
  | cookieNotFound (name : String)
  /-- `invalid extractor regular expression` -/
  | invalidPattern
  /-- `regular expression did not match` -/
  | noMatch
  /-- `response body is not valid JSON` -/
  | notJSON
  /-- `JSONPath %q does not resolve to an object` -/
  | notObject (expression : String)
  /-- `JSONPath %q was not found` -/
  | notFound (expression : String)
  /-- `request did not use TLS` -/
  | noTLS
  /-- `peer certificate is unavailable` -/
  | noPeer
  | schema (message : String)
  /-- `%s evaluation is not executable yet` -/
  | notExecutable (kind : String)
deriving DecidableEq

/-- What is observed: a decoded value, a text or a flag among them, or a count. -/
inductive Observed where
  | value (v : Value)
  | int (n : Int)

/-- `fmt.Sprint`. -/
def Observed.sprint (other : Float64 → String) : Observed → String
  | .value v => v.sprint other
  | .int n => toString n

/-- The loop of `simpleJSONPath`. -/
def walkPath (expression : String) : Value → List String → Except ExtractError Value
  | current, [] => .ok current
  | .obj fields, segment :: segments =>
    match fields.lookup segment with
    | none => .error (.notFound expression)
    | some current => walkPath expression current segments
  | _, _ :: _ => .error (.notObject expression)

def simpleJSONPath (lib : Library) (body : Option JsonText) (expression : String) :
    Except ExtractError Value :=
  match body.bind (Value.decode lib.parseFloat) with
  | none => .error .notJSON
  | some value =>
    let path := trimPrefix (trimPrefix (trimSpace expression) "$") "."
    if path = "" then .ok value else walkPath expression value (split path '.')

section Extract

variable (lib : Library) (response : Response) (duration : Int)

def extractValue (kind expression : String) : Except ExtractError Observed :=
  let text (s : String) : Except ExtractError Observed := .ok (.value (.str s))
  let peer (read : Peer → Observed) : Except ExtractError Observed :=
    match response.tls.bind TLSState.peer with
    | none => .error .noPeer
    | some shown => .ok (read shown)
  if kind = "status" then .ok (.int response.statusCode)
  else if kind = "header" then
    if response.header expression = "" then .error (.headerNotFound expression)
    else text (response.header expression)
  else if kind = "cookie" then
    match response.cookies.lookup expression with
    | some value => text value
    | none => .error (.cookieNotFound expression)
  else if kind = "regex" then
    match lib.findSubmatch expression with
    | none => .error .invalidPattern
    | some find =>
      match find response.body with
      | [] => .error .noMatch
      | [whole] => text whole
      | _ :: first :: _ => text first
  else if kind = "jsonpath" then
    (simpleJSONPath lib response.document expression).map .value
  else if kind = "timing" ∨ kind = "response-time" then .ok (.int duration)
  else if kind = "body-contains" then text response.body
  else if kind = "body" ∨ kind = "body-text" then text response.body
  else if kind = "response-size" then .ok (.int response.bodyBytes)
  else if kind = "final-url" then text response.finalURL
  else if kind = "reason" then text response.status
  else if kind = "tls-version" then
    match response.tls with
    | none => .error .noTLS
    | some tls => text tls.version
  else if kind = "tls-trusted" then
    .ok (.value (.bool (response.tls.any TLSState.trusted)))
  else if kind = "tls-days-until-expiry" then peer fun shown => .int shown.daysUntilExpiry
  else if kind = "tls-issuer" then peer fun shown => .value (.str shown.issuer)
  else if kind = "tls-subject" then peer fun shown => .value (.str shown.subject)
  else if kind = "json-schema" then
    match lib.validateJSONSchema response.document expression with
    | .ok verdict => text verdict
    | .error message => .error (.schema message)
  else .error (.notExecutable kind)

/-! ## Extractors -/

/-- The result of one extractor that is used. -/
structure ExtractorResult where
  config : Decoding.ExtractorConfig
  value : Except ExtractError Observed

def evaluateExtractors (configs : List Decoding.ExtractorConfig) : List ExtractorResult :=
  (configs.filter Decoding.ExtractorConfig.enabled).map fun config =>
    ⟨config, extractValue lib response duration config.source config.expression⟩

/-- What the run publishes of the results: the texts of the values, those of the sensitive ones by
way of the private outputs. -/
def extractedTexts (results : List ExtractorResult) : List (ExtractorConfig × String) :=
  results.filterMap fun result =>
    match result.value with
    | .error _ => none
    | .ok value =>
      some (⟨result.config.enabled, result.config.variableName, result.config.sensitive⟩,
        value.sprint lib.other)

/-! ## Assertions -/

/-- `strconv.ParseInt(s, 10, 64)`. -/
def parseInt (s : String) : Option Int :=
  match s.toList with
  | '+' :: digits =>
    if digits.head? = some '-' then none else Unmarshal.parseInt64 (String.ofList digits)
  | _ => Unmarshal.parseInt64 s

def numericOperator (operator : String) : Option Comparison :=
  if operator ∈ ["greater-than", "gt", "greater_than"] then some .gt
  else if operator ∈ ["less-than", "lt", "less_than"] then some .lt
  else if operator ∈ ["gte", "greater-than-or-equal"] then some .ge
  else if operator ∈ ["lte", "less-than-or-equal"] then some .le
  else none

def compareAssertion (config : Decoding.AssertionConfig) (observed : Observed) : Bool :=
  let operator := if toLower config.operator = "" then "equals" else toLower config.operator
  let actual := observed.sprint lib.other
  if config.type = "body-contains" ∧ config.operator = "" then contains actual config.expected
  else if config.type = "response-time" ∧ config.operator = "" then
    match parseInt config.expected, observed with
    | some limit, .int n => n ≤ limit
    | _, _ => false
  else if config.type = "json-schema" then
    match observed with
    | .value (.str verdict) => verdict = "valid"
    | _ => false
  else if operator ∈ ["equals", "equal", "eq"] then actual = config.expected
  else if operator ∈ ["not-equals", "neq"] then actual ≠ config.expected
  else if operator = "exists" then
    match observed with
    | .value .null => false
    | _ => actual ≠ ""
  else if operator = "contains" then contains actual config.expected
  else if operator = "matches" then (lib.matchString config.expected actual).getD false
  else
    match numericOperator operator with
    | some comparison =>
      match lib.floats.parse actual, lib.floats.parse config.expected with
      | some a, some b => lib.floats.compare comparison a b
      | _, _ => false
    | none => actual = config.expected

/-- The result of one assertion that is used. -/
structure AssertionResult where
  config : Decoding.AssertionConfig
  observed : Except ExtractError Observed
  passed : Bool

def evaluateAssertions (configs : List Decoding.AssertionConfig) : List AssertionResult :=
  (configs.filter Decoding.AssertionConfig.enabled).map fun config =>
    let observed := extractValue lib response duration config.type config.expression
    { config, observed
      passed :=
        match observed with
        | .ok value => compareAssertion lib config value
        | .error _ => false }

end Extract

def okResponse (document : Option JsonText) : Response where
  statusCode := 200
  status := "200 OK"
  header _ := ""
  cookies := []
  finalURL := "https://shop.example/orders"
  tls := none
  body := ""
  bodyBytes := 0
  document := document

def sampleNumbers : Library where
  parseFloat literal :=
    if literal = "12" then some ⟨false, 12⟩
    else if literal = "1234567" then some ⟨false, 1234567⟩
    else none
  other _ := ""
  findSubmatch _ := none
  matchString _ _ := none
  floats := ⟨Unit, fun _ => none, fun _ _ _ => false⟩
  validateJSONSchema _ _ := .ok "valid"

end Rhythm.Runs.Evaluation
