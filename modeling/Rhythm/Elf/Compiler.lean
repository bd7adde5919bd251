import Rhythm.Json
import Rhythm.Text

/-!
# Rhythm.Elf.Compiler

`compileSearch`: the policy check of an authored search body and its compilation.
Two walkers check the body.  `validateNode` compares every key it meets with
the denied ones and hands the value of `aggs` and `aggregations` to
`validateAggregations`, which checks the kinds of the aggregations and their
sizes.

The decoder (`json.Unmarshal`) is a parameter; a Go map is visited in any order,
here in the order of the object's members.  The compiled body is the value that
is encoded, and the times of the range filter are their formatted texts.
-/

namespace Rhythm.Elf

open Text

/-! ## Policy tables -/

def allowedQueries : List String :=
  ["bool", "term", "terms", "match", "match_phrase", "exists", "range", "nested", "match_all"]

def deniedKeys : List String :=
  ["script", "script_fields", "runtime_mappings", "percolate", "wrapper", "regexp", "fuzzy",
    "wildcard", "pit", "search_after", "scroll", "ext", "profile"]

def allowedAggs : List String :=
  ["terms", "date_histogram", "histogram", "range", "filters", "missing", "avg", "min", "max",
    "sum", "value_count", "cardinality", "percentiles", "stats", "extended_stats"]

def deniedKey (key : String) : Bool :=
  let lower := toLower key
  lower ∈ deniedKeys || lower = "query_string" || lower = "simple_query_string"

/-! ## Problems -/

/-- `ValidationProblem`. -/
structure ValidationProblem where
  path : String
  code : String
  message : String
  deriving DecidableEq

/-- What the walkers collect: the clause count and the problems. -/
structure Findings where
  clauses : Nat
  problems : List ValidationProblem
  deriving DecidableEq

def Findings.report (findings : Findings) (problem : ValidationProblem) : Findings :=
  { findings with problems := findings.problems ++ [problem] }

/-! ## The walkers -/

/-- The `size` of an aggregation's options, when it is above the bucket limit. -/
def bucketLimitProblems (path : String) (options : Json) : List ValidationProblem :=
  match options with
  | .obj fields =>
    match fields.lookup "size" with
    | some (.num size) =>
      if size > 50 then
        [⟨path ++ ".size", "BUCKET_LIMIT", "Aggregation bucket size is limited to 50."⟩]
      else []
    | _ => []
  | _ => []

mutual
/-- `validateAggregations`. -/
def validateAggregations : Json → String → Nat → List ValidationProblem → List ValidationProblem
  | value, path, depth, problems =>
    if depth > 3 then
      problems ++ [⟨path, "AGGREGATION_DEPTH", "Aggregation nesting is limited to three levels."⟩]
    else
      match value with
      | .obj aggs => validateAggregationList aggs path depth problems
      | _ => problems

def validateAggregationList : List (String × Json) → String → Nat → List ValidationProblem →
    List ValidationProblem
  | [], _, _, problems => problems
  | (name, .obj definition) :: aggs, path, depth, problems =>
    validateAggregationList aggs path depth
      (validateDefinition definition (path ++ "." ++ name) depth problems)
  | (_, _) :: aggs, path, depth, problems => validateAggregationList aggs path depth problems

def validateDefinition : List (String × Json) → String → Nat → List ValidationProblem →
    List ValidationProblem
  | [], _, _, problems => problems
  | (kind, options) :: definition, path, depth, problems =>
    validateDefinition definition path depth
      (if kind = "aggs" ∨ kind = "aggregations" then
        validateAggregations options (path ++ "." ++ kind) (depth + 1) problems
      else if kind ∉ allowedAggs then
        problems ++ [⟨path ++ "." ++ kind, "AGGREGATION_NOT_ALLOWED",
          "Aggregation " ++ kind ++ " is not supported."⟩]
      else problems ++ bucketLimitProblems (path ++ "." ++ kind) options)
end

/-- The members of an object at this path are query clauses. -/
def queryPosition (path : String) : Bool :=
  path = "$.query" || hasSuffix path ".must" || hasSuffix path ".should" ||
    hasSuffix path ".filter" || hasSuffix path ".must_not"

def checkClause (path key : String) (findings : Findings) : Findings :=
  let lower := toLower key
  let findings :=
    if lower ∉ allowedQueries ∧ lower ≠ "minimum_should_match" then
      findings.report ⟨path ++ "." ++ key, "QUERY_NOT_ALLOWED",
        "Query type " ++ key ++ " is not supported."⟩
    else findings
  { findings with clauses := findings.clauses + 1 }

mutual
/-- `validateNode`. -/
def validateNode : Json → String → Nat → Findings → Findings
  | .obj fields, path, aggDepth, findings => validateFields fields path aggDepth findings
  | .arr items, path, aggDepth, findings => validateItems items 0 path aggDepth findings
  | _, _, _, findings => findings

def validateFields : List (String × Json) → String → Nat → Findings → Findings
  | [], _, _, findings => findings
  | (key, child) :: fields, path, aggDepth, findings =>
    if deniedKey key then
      validateFields fields path aggDepth
        (findings.report ⟨path ++ "." ++ key, "POLICY_DENIED",
          key ++ " is not available in governed ELF queries."⟩)
    else
      let findings := if queryPosition path then checkClause path key findings else findings
      validateFields fields path aggDepth
        (if toLower key = "aggs" ∨ toLower key = "aggregations" then
          { findings with
            problems :=
              validateAggregations child (path ++ "." ++ key) (aggDepth + 1) findings.problems }
        else validateNode child (path ++ "." ++ key) aggDepth findings)

/-- The loop over the items of an array, from index `i` on. -/
def validateItems : List Json → Nat → String → Nat → Findings → Findings
  | [], _, _, _, findings => findings
  | child :: items, i, path, aggDepth, findings =>
    validateItems items (i + 1) path aggDepth
      (validateNode child (path ++ "[" ++ toString i ++ "]") aggDepth findings)
end

/-! ## The time field -/

/-- `DefaultTimeField`. -/
def defaultTimeField : String := "@timestamp"

/-- One alias of an object: its value moves to the time field, unless that is there. -/
def renameAlias (timeField name : String) (fields : List (String × Json)) :
    List (String × Json) :=
  if name = timeField then fields
  else
    match fields.lookup name with
    | none => fields
    | some child =>
      let kept := fields.filter fun field => field.1 ≠ name
      if (fields.lookup timeField).isSome then kept else kept ++ [(timeField, child)]

/-- `node["field"]`, when it names a time field. -/
def renameField (timeField : String) : String × Json → String × Json
  | ("field", .str name) =>
    ("field", .str (if name = "@timestamp" ∨ name = "timestamp" then timeField else name))
  | field => field

def renameTimeFields (timeField : String) (fields : List (String × Json)) :
    List (String × Json) :=
  (renameAlias timeField "timestamp" (renameAlias timeField "@timestamp" fields)).map
    (renameField timeField)

mutual
/-- `rewriteTimeFieldNodes`.  The members are rewritten before their names: the code goes the
other way round, but what becomes of a member does not depend on its name. -/
def rewriteTimeFieldNodes (timeField : String) : Json → Json
  | .obj fields =>
    .obj (renameTimeFields timeField (rewriteFields timeField fields))
  | .arr items => .arr (rewriteItems timeField items)
  | value => value

def rewriteFields (timeField : String) : List (String × Json) → List (String × Json)
  | [] => []
  | (key, child) :: fields =>
    (key, rewriteTimeFieldNodes timeField child) :: rewriteFields timeField fields

def rewriteItems (timeField : String) : List Json → List Json
  | [] => []
  | child :: items => rewriteTimeFieldNodes timeField child :: rewriteItems timeField items
end

/-! ## Compilation -/

/-- `ValidationResult`. -/
structure ValidationResult where
  valid : Bool
  problems : List ValidationProblem
  compiledBody : Option Json
  policyNotes : List String

def ValidationResult.rejected (problems : List ValidationProblem) : ValidationResult where
  valid := false
  problems := problems
  compiledBody := none
  policyNotes := []

/-- The authored query under the range filter, with the component's own limits. -/
def compiledSearch (authored : List (String × Json)) (timeField gte lte : String) (size : Int) :
    Json :=
  let query :=
    match authored.lookup "query" with
    | none | some .null => .obj [("match_all", .obj [])]
    | some query => query
  let range := .obj [("gte", .str gte), ("lte", .str lte),
    ("format", .str "strict_date_optional_time_nanos")]
  .obj
    ((authored.filter fun field =>
        field.1 ∉ ["query", "size", "sort", "track_total_hits", "timeout"]) ++
      [("query", .obj [("bool", .obj
          [("must", .arr [query]),
            ("filter", .arr [.obj [("range", .obj [(timeField, range)])]])])]),
        ("size", .num (min 100 (max 0 size) : Int)),
        ("track_total_hits", .bool true),
        ("timeout", .str "30s"),
        ("sort", .arr
          [.obj [(timeField, .obj [("order", .str "desc"), ("unmapped_type", .str "date")])],
            .obj [("_id", .str "desc")]])])

/-- `compileSearch`; `unmarshal` decodes an object. -/
def compileSearch (unmarshal : ByteArray → Except String (List (String × Json))) (body : ByteArray)
    (timeField gte lte : String) (size : Int) : ValidationResult :=
  if body.size = 0 ∨ body.size > 64 * 1024 then
    .rejected [⟨"$", "BODY_SIZE", "Search JSON must be between 1 byte and 64 KB."⟩]
  else
    match unmarshal body with
    | .error message => .rejected [⟨"$", "INVALID_JSON", message⟩]
    | .ok authored =>
      let findings := validateFields authored "$" 0 ⟨0, []⟩
      let problems := findings.problems ++
        if findings.clauses > 100 then
          [⟨"$.query", "CLAUSE_LIMIT", "Queries may contain at most 100 clauses."⟩]
        else []
      if problems ≠ [] then .rejected problems
      else
        let timeField :=
          if trimSpace timeField = "" then defaultTimeField else trimSpace timeField
        let authored := renameTimeFields timeField (rewriteFields timeField authored)
        { valid := true
          problems := []
          compiledBody := some (compiledSearch authored timeField gte lte size)
          policyNotes := ["Rhythm injected the UTC time filter on " ++ timeField ++
            ", exact hit counting, bounded timeout, and deterministic sort."] }

end Rhythm.Elf
