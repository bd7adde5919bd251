import Rhythm.Elf.Compiler

/-!
# Rhythm.Elf.Governed

Does an accepted search body hold a denied key?  The walkers look at every key
outside aggregations, and inside them at the kinds; the names of aggregations,
their options, and whatever stands where an object is expected are never
compared with the denied keys.  So an accepted body is free of denied keys
exactly when those unchecked parts are.
-/

namespace Rhythm.Elf

open Text Json

/-! ## The unchecked parts -/

section Unchecked

variable (p : String → Bool)

mutual
/-- A key with `p` that `validateAggregations` does not look at. -/
def uncheckedAggregations : Json → Bool
  | .obj aggs => uncheckedAggregationList aggs
  | value => value.mentions p

def uncheckedAggregationList : List (String × Json) → Bool
  | [] => false
  | (name, .obj definition) :: aggs =>
    p name || uncheckedDefinition definition || uncheckedAggregationList aggs
  | (name, value) :: aggs => p name || value.mentions p || uncheckedAggregationList aggs

def uncheckedDefinition : List (String × Json) → Bool
  | [] => false
  | (kind, options) :: definition =>
    (if kind = "aggs" ∨ kind = "aggregations" then uncheckedAggregations options
      else options.mentions p) || uncheckedDefinition definition
end

mutual
/-- A key with `p` that neither walker looks at. -/
def uncheckedNode : Json → Bool
  | .obj fields => uncheckedFields fields
  | .arr items => uncheckedItems items
  | _ => false

def uncheckedFields : List (String × Json) → Bool
  | [] => false
  | (key, child) :: fields =>
    (if toLower key = "aggs" ∨ toLower key = "aggregations" then uncheckedAggregations p child
      else uncheckedNode child) || uncheckedFields fields

def uncheckedItems : List Json → Bool
  | [] => false
  | child :: items => uncheckedNode child || uncheckedItems items
end

end Unchecked

/-! ## Aggregations without problems -/

theorem deniedKey_of_allowedAggs {kind : String} (h : kind ∈ allowedAggs) :
    deniedKey kind = false := by
  revert kind
  decide

theorem deniedKey_aggs {kind : String} (h : kind = "aggs" ∨ kind = "aggregations") :
    deniedKey kind = false := by
  obtain rfl | rfl := h <;> decide

mutual
theorem validateAggregations_nil : ∀ (value : Json) (path : String) (depth : Nat)
    (problems : List ValidationProblem), validateAggregations value path depth problems = [] →
      problems = [] ∧ value.mentions deniedKey = uncheckedAggregations deniedKey value
  | value, path, depth, problems, h => by
    unfold validateAggregations at h
    by_cases hdepth : depth > 3
    · simp [hdepth] at h
    · rw [if_neg hdepth] at h
      cases value with
      | obj aggs =>
        rw [mentions, uncheckedAggregations]
        exact validateAggregationList_nil aggs path depth problems h
      | null | bool | num | str | arr => exact ⟨h, by rw [uncheckedAggregations]; simp⟩

theorem validateAggregationList_nil : ∀ (aggs : List (String × Json)) (path : String)
    (depth : Nat) (problems : List ValidationProblem),
    validateAggregationList aggs path depth problems = [] →
      problems = [] ∧ mentionsFields deniedKey aggs = uncheckedAggregationList deniedKey aggs
  | [], _, _, _, h => ⟨h, rfl⟩
  | (name, .obj definition) :: aggs, path, depth, problems, h => by
    rw [validateAggregationList] at h
    obtain ⟨hdefinition, hrest⟩ := validateAggregationList_nil aggs path depth _ h
    obtain ⟨hproblems, hkinds⟩ := validateDefinition_nil definition _ depth problems hdefinition
    rw [mentionsFields, mentions, uncheckedAggregationList, hkinds, hrest]
    exact ⟨hproblems, rfl⟩
  | (name, .null) :: aggs, path, depth, problems, h
  | (name, .bool _) :: aggs, path, depth, problems, h
  | (name, .num _) :: aggs, path, depth, problems, h
  | (name, .str _) :: aggs, path, depth, problems, h
  | (name, .arr _) :: aggs, path, depth, problems, h => by
    rw [validateAggregationList] at h
    · obtain ⟨hproblems, hrest⟩ := validateAggregationList_nil aggs path depth problems h
      rw [mentionsFields, uncheckedAggregationList, hrest]
      · exact ⟨hproblems, rfl⟩
      · simp
    · simp

theorem validateDefinition_nil : ∀ (definition : List (String × Json)) (path : String)
    (depth : Nat) (problems : List ValidationProblem),
    validateDefinition definition path depth problems = [] →
      problems = [] ∧ mentionsFields deniedKey definition = uncheckedDefinition deniedKey definition
  | [], _, _, _, h => ⟨h, rfl⟩
  | (kind, options) :: definition, path, depth, problems, h => by
    rw [validateDefinition] at h
    obtain ⟨hkind, hrest⟩ := validateDefinition_nil definition path depth _ h
    rw [mentionsFields, uncheckedDefinition, hrest]
    by_cases haggs : kind = "aggs" ∨ kind = "aggregations"
    · rw [if_pos haggs] at hkind ⊢
      obtain ⟨hproblems, hoptions⟩ := validateAggregations_nil options _ _ problems hkind
      rw [deniedKey_aggs haggs, hoptions]
      exact ⟨hproblems, rfl⟩
    · rw [if_neg haggs] at hkind ⊢
      by_cases hallowed : kind ∉ allowedAggs
      · simp [hallowed] at hkind
      · rw [if_neg hallowed, List.append_eq_nil_iff] at hkind
        rw [deniedKey_of_allowedAggs (not_not.mp hallowed)]
        exact ⟨hkind.1, rfl⟩
end

/-! ## Nodes without problems -/

theorem problems_of_checkClause {path key : String} {findings : Findings}
    (h : (checkClause path key findings).problems = []) : findings.problems = [] := by
  simp only [checkClause] at h
  split at h
  · simp [Findings.report] at h
  · exact h

mutual
theorem validateNode_nil : ∀ (value : Json) (path : String) (aggDepth : Nat)
    (findings : Findings), (validateNode value path aggDepth findings).problems = [] →
      findings.problems = [] ∧ value.mentions deniedKey = uncheckedNode deniedKey value
  | .obj fields, path, aggDepth, findings, h => by
    rw [mentions, uncheckedNode]
    exact validateFields_nil fields path aggDepth findings h
  | .arr items, path, aggDepth, findings, h => by
    rw [mentions, uncheckedNode]
    exact validateItems_nil items 0 path aggDepth findings h
  | .null, _, _, _, h | .bool _, _, _, _, h | .num _, _, _, _, h | .str _, _, _, _, h => ⟨h, rfl⟩

theorem validateFields_nil : ∀ (fields : List (String × Json)) (path : String) (aggDepth : Nat)
    (findings : Findings), (validateFields fields path aggDepth findings).problems = [] →
      findings.problems = [] ∧
        mentionsFields deniedKey fields = uncheckedFields deniedKey fields
  | [], _, _, _, h => ⟨h, rfl⟩
  | (key, child) :: fields, path, aggDepth, findings, h => by
    rw [validateFields] at h
    by_cases hdenied : deniedKey key = true
    · rw [if_pos hdenied] at h
      obtain ⟨hreport, _⟩ := validateFields_nil fields path aggDepth _ h
      simp [Findings.report] at hreport
    · rw [if_neg hdenied] at h
      obtain ⟨hchild, hrest⟩ := validateFields_nil fields path aggDepth _ h
      rw [mentionsFields, uncheckedFields, hrest, Bool.eq_false_iff.mpr hdenied, Bool.false_or]
      have hclause : ∀ {found : Findings},
          found = (if queryPosition path then checkClause path key findings else findings) →
            found.problems = [] → findings.problems = [] := by
        intro found hfound hnil
        rw [hfound] at hnil
        split at hnil
        · exact problems_of_checkClause hnil
        · exact hnil
      by_cases haggs : toLower key = "aggs" ∨ toLower key = "aggregations"
      · rw [if_pos haggs] at hchild ⊢
        obtain ⟨hproblems, hagg⟩ := validateAggregations_nil child _ _ _ hchild
        exact ⟨hclause rfl hproblems, by rw [hagg]⟩
      · rw [if_neg haggs] at hchild ⊢
        obtain ⟨hproblems, hnode⟩ := validateNode_nil child _ _ _ hchild
        exact ⟨hclause rfl hproblems, by rw [hnode]⟩

theorem validateItems_nil : ∀ (items : List Json) (i : Nat) (path : String) (aggDepth : Nat)
    (findings : Findings), (validateItems items i path aggDepth findings).problems = [] →
      findings.problems = [] ∧ mentionsItems deniedKey items = uncheckedItems deniedKey items
  | [], _, _, _, _, h => ⟨h, rfl⟩
  | child :: items, i, path, aggDepth, findings, h => by
    rw [validateItems] at h
    obtain ⟨hchild, hrest⟩ := validateItems_nil items (i + 1) path aggDepth _ h
    obtain ⟨hproblems, hnode⟩ := validateNode_nil child _ aggDepth findings hchild
    rw [mentionsItems, uncheckedItems, hnode, hrest]
    exact ⟨hproblems, rfl⟩
end

/-! ## Accepted bodies -/

/-- No object in the body, at any depth, has a denied key. -/
def Governed (authored : List (String × Json)) : Prop :=
  ∀ fields, Inside (.obj fields) (.obj authored) → ∀ field ∈ fields, deniedKey field.1 = false

variable {authored : List (String × Json)}

theorem governed_iff_mentions :
    Governed authored ↔ mentionsFields deniedKey authored = false := by
  have hmentions := mentions_iff (p := deniedKey) (v := .obj authored)
  rw [mentions] at hmentions
  rw [← Bool.not_eq_true, hmentions]
  simp [Governed]

theorem problems_of_valid {unmarshal : ByteArray → Except String (List (String × Json))}
    {body : ByteArray} {timeField gte lte : String} {size : Int}
    (h : (compileSearch unmarshal body timeField gte lte size).valid = true)
    (hbody : unmarshal body = .ok authored) :
    (validateFields authored "$" 0 ⟨0, []⟩).problems = [] := by
  unfold compileSearch at h
  split at h
  · simp [ValidationResult.rejected] at h
  · simp only [hbody] at h
    by_contra hfound
    rw [if_pos fun hnil => hfound (List.append_eq_nil_iff.mp hnil).1] at h
    simp [ValidationResult.rejected] at h

/-- **Governed searches.**  For every decoder and every body that `compileSearch` accepts: no
object of the body, at any depth, has a denied key exactly when the parts that
the walkers leave unchecked mention none. -/
theorem governed_iff (unmarshal : ByteArray → Except String (List (String × Json)))
    (body : ByteArray) (timeField gte lte : String) (size : Int) (authored : List (String × Json))
    (hvalid : (compileSearch unmarshal body timeField gte lte size).valid = true)
    (hbody : unmarshal body = .ok authored) :
    Governed authored ↔ uncheckedFields deniedKey authored = false := by
  obtain ⟨-, hmentions⟩ := validateFields_nil authored "$" 0 _ (problems_of_valid hvalid hbody)
  rw [governed_iff_mentions, hmentions]

/-- A search for everything is accepted, and governed. -/
theorem governed_match_all :
    Governed [("query", .obj [("match_all", .obj [])])] ↔
      uncheckedFields deniedKey [("query", .obj [("match_all", .obj [])])] = false :=
  governed_iff (fun _ => .ok [("query", .obj [("match_all", .obj [])])])
    "\x7b\"query\":\x7b\"match_all\":\x7b\x7d\x7d\x7d".toUTF8 "@timestamp"
    "2026-01-01T00:00:00Z" "2026-01-02T00:00:00Z" 10 _ (by decide) rfl

/-- A script in the options of an aggregation is accepted. -/
theorem scripted_aggregation_accepted :
    ¬ ∀ (unmarshal : ByteArray → Except String (List (String × Json))) (body : ByteArray)
      (timeField gte lte : String) (size : Int),
      (compileSearch unmarshal body timeField gte lte size).valid = true →
        ∀ authored, unmarshal body = .ok authored → Governed authored := by
  intro h
  have hgoverned := h
    (fun _ => .ok [("aggs", .obj [("x", .obj [("terms", .obj [("script", .str "1")])])])])
    ("\x7b\"aggs\":\x7b\"x\":\x7b\"terms\":" ++
      "\x7b\"script\":\"1\"\x7d\x7d\x7d\x7d").toUTF8
    "@timestamp" "2026-01-01T00:00:00Z" "2026-01-02T00:00:00Z" 10 (by decide) _ rfl
  rw [governed_iff_mentions] at hgoverned
  revert hgoverned
  decide

end Rhythm.Elf
