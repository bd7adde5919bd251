import Rhythm.Elf.Governed

/-!
# Rhythm.Elf.Clauses

Are the queries of an accepted search body of permitted types?  `validateNode` recognises a query
by the end of its path, so that it checks the top-level query and an object under `must`, `should`,
`filter` or `must_not`.  The items of an array under these have another path, and so have the query
of a `nested` clause and `post_filter`; the filters of an aggregation are not walked at all.

`permitted_iff` says what an accepted body may hold besides permitted queries.
-/

namespace Rhythm.Elf

open Text

/-! ## Query positions -/

/-- A key where a query stands. -/
structure Clause where
  /-- `validateNode` compares it with the permitted types, and counts it. -/
  checked : Bool
  key : String
  deriving DecidableEq

/-- What a value of a search body is.  A value is walked when `validateNode` comes to it. -/
inductive Position where
  | body
  | query (checked walked : Bool)
  /-- The value of `bool`. -/
  | boolean (walked : Bool)
  /-- The value of `must` and its like: a query, or a list of queries. -/
  | occurrence (walked : Bool)
  /-- The value of `nested`. -/
  | nested (walked : Bool)
  | aggregations
  | aggregation
  /-- The options of a `filters` aggregation. -/
  | filters
  | filterList
  deriving DecidableEq

namespace Position

def member (key : String) : Position → Option Position
  | body =>
    if key = "query" then some (query true true)
    else if key = "post_filter" then some (query false true)
    else if key = "aggs" ∨ key = "aggregations" then some aggregations
    else none
  | query _ walked | occurrence walked =>
    if key = "bool" then some (boolean walked)
    else if key = "nested" then some (nested walked)
    else none
  | boolean walked =>
    if key ∈ ["must", "should", "filter", "must_not"] then some (occurrence walked) else none
  | nested walked => if key = "query" then some (query false walked) else none
  | aggregations => some aggregation
  | aggregation =>
    if key = "aggs" ∨ key = "aggregations" then some aggregations
    else if key = "filter" then some (query false false)
    else if key = "filters" then some filters
    else none
  | filters => if key = "filters" then some filterList else none
  | filterList => some (query false false)

def item : Position → Option Position
  | occurrence walked => some (query false walked)
  | filterList => some (query false false)
  | _ => none

def own (key : String) : Position → List Clause
  | query checked _ => [⟨checked, key⟩]
  | occurrence walked => [⟨walked, key⟩]
  | _ => []

end Position

mutual
def clausesAt : Position → Json → List Clause
  | position, .obj fields => fieldClauses position fields
  | position, .arr items => itemClauses position items
  | _, _ => []

def fieldClauses : Position → List (String × Json) → List Clause
  | _, [] => []
  | position, (key, child) :: fields =>
    position.own key ++
      ((match position.member key with
        | some inner => clausesAt inner child
        | none => []) ++ fieldClauses position fields)

def itemClauses : Position → List Json → List Clause
  | _, [] => []
  | position, child :: items =>
    (match position.item with
      | some inner => clausesAt inner child
      | none => []) ++ itemClauses position items
end

def bodyClauses (authored : List (String × Json)) : List Clause := fieldClauses .body authored

/-- Every clause is of a permitted type, and there are at most 100. -/
def Permitted (authored : List (String × Json)) : Prop :=
  (∀ clause ∈ bodyClauses authored, clause.key ∈ allowedQueries) ∧
    (bodyClauses authored).length ≤ 100

/-- **The condition on a body.**  A clause that is checked is spelled in lower case, and is no
`minimum_should_match`; one that is not checked is of a permitted type, and there are no more of
these than the checked ones leave of the 100. -/
def UncheckedPermitted (authored : List (String × Json)) : Prop :=
  (∀ clause ∈ bodyClauses authored,
    if clause.checked then toLower clause.key = clause.key ∧ clause.key ≠ "minimum_should_match"
    else clause.key ∈ allowedQueries) ∧
  (bodyClauses authored).countP (fun clause => !clause.checked) ≤
    100 - (bodyClauses authored).countP Clause.checked

instance (authored : List (String × Json)) : Decidable (Permitted authored) :=
  inferInstanceAs (Decidable (_ ∧ _))

/-! ## What the walker checks -/

/-- `checkClause` finds no problem with the key. -/
def Recognised (key : String) : Prop :=
  toLower key ∈ allowedQueries ∨ toLower key = "minimum_should_match"

/-- The checked clauses are recognised and counted. -/
structure Checks (clauses : List Clause) (before after : Findings) : Prop where
  recognised : ∀ clause ∈ clauses, clause.checked = true → Recognised clause.key
  counted : before.clauses + clauses.countP Clause.checked ≤ after.clauses

section Checks

variable {clauses clauses' : List Clause} {before between after : Findings}

theorem Checks.append (h : Checks clauses before between) (h' : Checks clauses' between after) :
    Checks (clauses ++ clauses') before after where
  recognised := by
    intro clause hclause
    obtain hclause | hclause := List.mem_append.mp hclause
    · exact h.recognised clause hclause
    · exact h'.recognised clause hclause
  counted := by
    have hcounted := h.counted
    have hcounted' := h'.counted
    rw [List.countP_append]
    omega

theorem checks_of_unchecked (h : ∀ clause ∈ clauses, clause.checked = false)
    (hle : before.clauses ≤ after.clauses) : Checks clauses before after where
  recognised := by
    intro clause hclause hchecked
    rw [h clause hclause] at hchecked
    contradiction
  counted := by
    have hnone : clauses.countP Clause.checked = 0 :=
      List.countP_eq_zero.mpr fun clause hclause => by simp [h clause hclause]
    omega

theorem checks_nil (hle : before.clauses ≤ after.clauses) : Checks [] before after :=
  checks_of_unchecked (List.forall_mem_nil _) hle

end Checks

def Position.unwalked : Position → Bool
  | .query checked walked => !checked && !walked
  | .boolean walked | .occurrence walked | .nested walked => !walked
  | .body => false
  | _ => true

variable {position inner : Position}

theorem Position.unwalked_member {key : String}
    (h : position.unwalked = true) (hmember : position.member key = some inner) :
    inner.unwalked = true := by
  cases position <;> simp only [Position.member] at hmember <;> grind [Position.unwalked]

theorem Position.unwalked_item (h : position.unwalked = true)
    (hitem : position.item = some inner) : inner.unwalked = true := by
  cases position <;> grind [Position.unwalked, Position.item]

theorem Position.checked_own {position : Position} {key : String} (h : position.unwalked = true) :
    ∀ clause ∈ position.own key, clause.checked = false := by
  cases position <;> simp_all [Position.unwalked, Position.own]

mutual
theorem unchecked_clausesAt : ∀ (position : Position) (value : Json),
    position.unwalked = true → ∀ clause ∈ clausesAt position value, clause.checked = false
  | position, .obj fields, h => unchecked_fieldClauses position fields h
  | position, .arr items, h => unchecked_itemClauses position items h
  | _, .null, _ | _, .bool _, _ | _, .num _, _ | _, .str _, _ => by simp [clausesAt]

theorem unchecked_fieldClauses : ∀ (position : Position) (fields : List (String × Json)),
    position.unwalked = true → ∀ clause ∈ fieldClauses position fields, clause.checked = false
  | _, [], _ => by simp [fieldClauses]
  | position, (key, child) :: fields, h => by
    intro clause hclause
    rw [fieldClauses, List.mem_append, List.mem_append] at hclause
    obtain hown | hinner | hrest := hclause
    · exact Position.checked_own h clause hown
    · split at hinner
      · rename_i inner hmember
        exact unchecked_clausesAt inner child (Position.unwalked_member h hmember) clause hinner
      · contradiction
    · exact unchecked_fieldClauses position fields h clause hrest

theorem unchecked_itemClauses : ∀ (position : Position) (items : List Json),
    position.unwalked = true → ∀ clause ∈ itemClauses position items, clause.checked = false
  | _, [], _ => by simp [itemClauses]
  | position, child :: items, h => by
    intro clause hclause
    rw [itemClauses, List.mem_append] at hclause
    obtain hinner | hrest := hclause
    · split at hinner
      · rename_i inner hitem
        exact unchecked_clausesAt inner child (Position.unwalked_item h hitem) clause hinner
      · contradiction
    · exact unchecked_itemClauses position items h clause hrest
end

/-! ## What the walker comes to -/

mutual
theorem clauses_validateNode : ∀ (value : Json) (path : String) (aggDepth : Nat)
    (findings : Findings), findings.clauses ≤ (validateNode value path aggDepth findings).clauses
  | .obj fields, path, aggDepth, findings => clauses_validateFields fields path aggDepth findings
  | .arr items, path, aggDepth, findings => clauses_validateItems items 0 path aggDepth findings
  | .null, _, _, _ | .bool _, _, _, _ | .num _, _, _, _ | .str _, _, _, _ => Nat.le_refl _

theorem clauses_validateFields : ∀ (fields : List (String × Json)) (path : String)
    (aggDepth : Nat) (findings : Findings),
    findings.clauses ≤ (validateFields fields path aggDepth findings).clauses
  | [], _, _, _ => Nat.le_refl _
  | (key, child) :: fields, path, aggDepth, findings => by
    rw [validateFields]
    split
    · exact clauses_validateFields fields path aggDepth (findings.report ⟨_, _, _⟩)
    · refine Nat.le_trans ?_ (clauses_validateFields fields path aggDepth _)
      have hclause : findings.clauses ≤
          (if queryPosition path then checkClause path key findings else findings).clauses := by
        split
        · simp only [checkClause]
          split <;> exact Nat.le_succ _
        · exact Nat.le_refl _
      split
      · exact hclause
      · exact Nat.le_trans hclause (clauses_validateNode child _ aggDepth _)

theorem clauses_validateItems : ∀ (items : List Json) (i : Nat) (path : String) (aggDepth : Nat)
    (findings : Findings), findings.clauses ≤ (validateItems items i path aggDepth findings).clauses
  | [], _, _, _, _ => Nat.le_refl _
  | child :: items, i, path, aggDepth, findings => by
    rw [validateItems]
    exact Nat.le_trans (clauses_validateNode child _ aggDepth findings)
      (clauses_validateItems items (i + 1) path aggDepth _)
end

/-- The walker comes to a value at this position under the path. -/
def Position.Walks (path : String) : Position → Prop
  | .body => path = "$"
  | .query checked walked => walked = true ∧ (checked = true → queryPosition path = true)
  | .boolean walked | .nested walked => walked = true
  | .occurrence walked => walked = true ∧ queryPosition path = true
  | _ => False

theorem hasSuffix_member (path key : String) :
    hasSuffix (path ++ "." ++ key) ("." ++ key) = true := by
  rw [hasSuffix, List.isSuffixOf_iff_suffix]
  refine ⟨path.toList, ?_⟩
  simp [String.toList_append]

variable {path key : String}

theorem queryPosition_occurrence (h : key ∈ ["must", "should", "filter", "must_not"]) :
    queryPosition (path ++ "." ++ key) = true := by
  have hsuffix := hasSuffix_member path key
  simp only [List.mem_cons, List.not_mem_nil, or_false] at h
  obtain rfl | rfl | rfl | rfl := h <;> simp_all [queryPosition]

def AggregationKey (key : String) : Prop :=
  toLower key = "aggs" ∨ toLower key = "aggregations"

instance : DecidablePred AggregationKey := fun _ => inferInstanceAs (Decidable (_ ∨ _))

theorem Position.walks_member
    (h : position.Walks path) (hmember : position.member key = some inner) :
    (inner.Walks (path ++ "." ++ key) ∧ ¬ AggregationKey key) ∨ inner.unwalked = true := by
  have hclause : ∀ walked, walked = true →
      (if key = "bool" then some (boolean walked)
        else if key = "nested" then some (nested walked) else none) = some inner →
      (inner.Walks (path ++ "." ++ key) ∧ ¬ AggregationKey key) ∨ inner.unwalked = true := by
    intro walked hwalked hinner
    split at hinner
    · rename_i hkey
      cases hinner
      exact .inl ⟨hwalked, by rw [hkey]; decide⟩
    · rename_i hkey
      rw [Option.ite_none_right_eq_some, Option.some.injEq] at hinner
      obtain ⟨hkey, rfl⟩ := hinner
      exact .inl ⟨hwalked, by rw [hkey]; decide⟩
  cases position with
  | body =>
    obtain rfl : path = "$" := h
    rw [member] at hmember
    split at hmember
    · rename_i hkey
      cases hmember
      subst hkey
      exact .inl ⟨⟨rfl, fun _ => by decide⟩, by decide⟩
    · split at hmember
      · rename_i hkey
        cases hmember
        exact .inl ⟨⟨rfl, nofun⟩, by rw [hkey]; decide⟩
      · rw [Option.ite_none_right_eq_some, Option.some.injEq] at hmember
        exact .inr (hmember.2 ▸ rfl)
  | query checked walked | occurrence walked => exact hclause walked h.1 hmember
  | boolean walked =>
    rw [member, Option.ite_none_right_eq_some, Option.some.injEq] at hmember
    obtain ⟨hkey, rfl⟩ := hmember
    refine .inl ⟨⟨h, queryPosition_occurrence hkey⟩, ?_⟩
    simp only [List.mem_cons, List.not_mem_nil, or_false] at hkey
    obtain rfl | rfl | rfl | rfl := hkey <;> decide
  | nested walked =>
    rw [member, Option.ite_none_right_eq_some, Option.some.injEq] at hmember
    obtain ⟨hkey, rfl⟩ := hmember
    exact .inl ⟨⟨h, nofun⟩, by rw [hkey]; decide⟩
  | aggregations | aggregation | filters | filterList => exact h.elim

theorem Position.walks_item {path path' : String}
    (h : position.Walks path) (hitem : position.item = some inner) : inner.Walks path' := by
  cases position with
  | occurrence walked =>
    cases hitem
    exact ⟨h.1, nofun⟩
  | filterList => exact h.elim
  | _ => contradiction

theorem Position.checks_own {position : Position} {findings : Findings} (h : position.Walks path)
    (hnil : (if queryPosition path then checkClause path key findings else findings).problems =
      []) :
    Checks (position.own key) findings
      (if queryPosition path then checkClause path key findings else findings) := by
  cases hquery : queryPosition path with
  | true =>
    rw [hquery, if_pos rfl] at hnil
    rw [if_pos rfl]
    have hrecognised : Recognised key := by
      by_contra hnot
      have hbad : toLower key ∉ allowedQueries ∧ toLower key ≠ "minimum_should_match" :=
        not_or.mp hnot
      simp [checkClause, hbad, Findings.report] at hnil
    have hcount : (checkClause path key findings).clauses = findings.clauses + 1 := by
      simp only [checkClause]
      split <;> rfl
    constructor
    · intro clause hclause _
      cases position <;> simp_all [own]
    · rw [hcount]
      have hone : (position.own key).length ≤ 1 := by cases position <;> simp [own]
      have hle := List.countP_le_length (p := Clause.checked) (l := position.own key)
      omega
  | false =>
    rw [if_neg Bool.false_ne_true]
    refine checks_of_unchecked ?_ (Nat.le_refl _)
    cases position with
    | query checked walked =>
      intro clause hclause
      obtain rfl := List.mem_singleton.mp hclause
      rw [← Bool.not_eq_true]
      intro hchecked
      have hposition := h.2 hchecked
      rw [hquery] at hposition
      contradiction
    | occurrence walked =>
      have hposition := h.2
      rw [hquery] at hposition
      contradiction
    | _ => exact List.forall_mem_nil _

mutual
/-- **The clauses that the walker comes to are recognised and counted.** -/
theorem checks_validateNode : ∀ (value : Json) (position : Position) (path : String)
    (aggDepth : Nat) (findings : Findings), position.Walks path →
      (validateNode value path aggDepth findings).problems = [] →
      Checks (clausesAt position value) findings (validateNode value path aggDepth findings)
  | .obj fields, position, path, aggDepth, findings, hwalks, h =>
    checks_validateFields fields position path aggDepth findings hwalks h
  | .arr items, position, path, aggDepth, findings, hwalks, h =>
    checks_validateItems items 0 position path aggDepth findings hwalks h
  | .null, _, _, _, _, _, _ | .bool _, _, _, _, _, _, _ | .num _, _, _, _, _, _, _
  | .str _, _, _, _, _, _, _ => by
    rw [clausesAt]
    · exact checks_nil (Nat.le_refl _)
    all_goals simp

theorem checks_validateFields : ∀ (fields : List (String × Json)) (position : Position)
    (path : String) (aggDepth : Nat) (findings : Findings), position.Walks path →
      (validateFields fields path aggDepth findings).problems = [] →
      Checks (fieldClauses position fields) findings (validateFields fields path aggDepth findings)
  | [], _, _, _, _, _, _ => by
    rw [fieldClauses]
    exact checks_nil (Nat.le_refl _)
  | (key, child) :: fields, position, path, aggDepth, findings, hwalks, h => by
    rw [validateFields] at h ⊢
    by_cases hdenied : deniedKey key = true
    · rw [if_pos hdenied] at h
      obtain ⟨hreport, -⟩ := validateFields_nil fields path aggDepth _ h
      simp [Findings.report] at hreport
    rw [if_neg hdenied] at h ⊢
    dsimp only at h ⊢
    rw [fieldClauses]
    obtain ⟨hchild, -⟩ := validateFields_nil fields path aggDepth _ h
    have hrest := checks_validateFields fields position path aggDepth _ hwalks h
    by_cases haggs : toLower key = "aggs" ∨ toLower key = "aggregations"
    · rw [if_pos haggs] at hchild hrest ⊢
      obtain ⟨hown, -⟩ := validateAggregations_nil child _ _ _ hchild
      refine (Position.checks_own hwalks hown).append (Checks.append ?_ hrest)
      refine checks_of_unchecked ?_ (Nat.le_refl _)
      split
      · rename_i inner hmember
        obtain ⟨-, hnot⟩ | hunwalked := Position.walks_member hwalks hmember
        · exact absurd haggs hnot
        · exact unchecked_clausesAt inner child hunwalked
      · exact List.forall_mem_nil _
    · rw [if_neg haggs] at hchild hrest ⊢
      obtain ⟨hown, -⟩ := validateNode_nil child _ _ _ hchild
      refine (Position.checks_own hwalks hown).append (Checks.append ?_ hrest)
      split
      · rename_i inner hmember
        obtain ⟨hinner, -⟩ | hunwalked := Position.walks_member hwalks hmember
        · exact checks_validateNode child inner _ aggDepth _ hinner hchild
        · exact checks_of_unchecked (unchecked_clausesAt inner child hunwalked)
            (clauses_validateNode child _ aggDepth _)
      · exact checks_nil (clauses_validateNode child _ aggDepth _)

theorem checks_validateItems : ∀ (items : List Json) (i : Nat) (position : Position)
    (path : String) (aggDepth : Nat) (findings : Findings), position.Walks path →
      (validateItems items i path aggDepth findings).problems = [] →
      Checks (itemClauses position items) findings (validateItems items i path aggDepth findings)
  | [], _, _, _, _, _, _, _ => by
    rw [itemClauses]
    exact checks_nil (Nat.le_refl _)
  | child :: items, i, position, path, aggDepth, findings, hwalks, h => by
    rw [validateItems] at h ⊢
    rw [itemClauses]
    obtain ⟨hchild, -⟩ := validateItems_nil items (i + 1) path aggDepth _ h
    refine Checks.append ?_ (checks_validateItems items (i + 1) position path aggDepth _ hwalks h)
    split
    · rename_i inner hitem
      exact checks_validateNode child inner _ aggDepth findings
        (Position.walks_item hwalks hitem) hchild
    · exact checks_nil (clauses_validateNode child _ aggDepth findings)
end

theorem clauses_of_valid {unmarshal : ByteArray → Except String (List (String × Json))}
    {body : ByteArray} {timeField gte lte : String} {size : Int}
    (h : (compileSearch unmarshal body timeField gte lte size).valid = true)
    {authored : List (String × Json)} (hbody : unmarshal body = .ok authored) :
    (validateFields authored "$" 0 ⟨0, []⟩).clauses ≤ 100 := by
  unfold compileSearch at h
  split at h
  · simp [ValidationResult.rejected] at h
  · simp only [hbody] at h
    by_contra hcount
    rw [if_pos (c := _ ≠ []) (by simp [Nat.not_le.mp hcount])] at h
    simp [ValidationResult.rejected] at h

theorem toLower_of_allowed {key : String} (h : key ∈ allowedQueries) :
    toLower key = key ∧ key ≠ "minimum_should_match" := by
  revert key
  decide

/-- **Permitted queries.**  For every decoder and every body that `compileSearch` accepts: every
clause of the body is of a permitted type, and there are at most 100, exactly when this holds of the
clauses that are not checked. -/
theorem permitted_iff (unmarshal : ByteArray → Except String (List (String × Json)))
    (body : ByteArray) (timeField gte lte : String) (size : Int) (authored : List (String × Json))
    (hvalid : (compileSearch unmarshal body timeField gte lte size).valid = true)
    (hbody : unmarshal body = .ok authored) :
    Permitted authored ↔ UncheckedPermitted authored := by
  have hchecks : Checks (bodyClauses authored) ⟨0, []⟩ (validateFields authored "$" 0 ⟨0, []⟩) :=
    checks_validateFields authored .body "$" 0 ⟨0, []⟩ rfl (problems_of_valid hvalid hbody)
  have hcounted := hchecks.counted
  have hlimit := clauses_of_valid hvalid hbody
  have htotal := List.length_eq_countP_add_countP Clause.checked (l := bodyClauses authored)
  have hcount : (bodyClauses authored).length ≤ 100 ↔
      (bodyClauses authored).countP (fun clause => !clause.checked) ≤
        100 - (bodyClauses authored).countP Clause.checked := by
    have hnot : (bodyClauses authored).countP (fun clause => decide ¬ clause.checked = true) =
        (bodyClauses authored).countP fun clause => !clause.checked := by
      congr 1
      funext clause
      cases clause.checked <;> rfl
    dsimp only at hcounted
    omega
  refine and_congr ⟨fun h clause hclause => ?_, fun h clause hclause => ?_⟩ hcount
  · split
    · exact toLower_of_allowed (h clause hclause)
    · exact h clause hclause
  · have hkey := h clause hclause
    split at hkey
    · rename_i hchecked
      obtain hallowed | hminimum := hchecks.recognised clause hclause hchecked
      · exact hkey.1 ▸ hallowed
      · exact absurd (hkey.1.symm.trans hminimum) hkey.2
    · exact hkey

/-- A query of a permitted type is accepted, and permitted. -/
theorem permitted_match_all :
    Permitted [("query", .obj [("match_all", .obj [])])] ↔
      UncheckedPermitted [("query", .obj [("match_all", .obj [])])] :=
  permitted_iff (fun _ => .ok [("query", .obj [("match_all", .obj [])])])
    "\x7b\"query\":\x7b\"match_all\":\x7b\x7d\x7d\x7d".toUTF8 "@timestamp"
    "2026-01-01T00:00:00Z" "2026-01-02T00:00:00Z" 10 _ (by decide) rfl

/-- **A query of another type in the list of `must` is accepted.** -/
theorem listed_query_accepted :
    ¬ ∀ (unmarshal : ByteArray → Except String (List (String × Json))) (body : ByteArray)
      (timeField gte lte : String) (size : Int),
      (compileSearch unmarshal body timeField gte lte size).valid = true →
        ∀ authored, unmarshal body = .ok authored → Permitted authored := by
  intro h
  have hpermitted := h
    (fun _ => .ok [("query", .obj [("bool", .obj
      [("must", .arr [.obj [("more_like_this", .obj [])]])])])])
    ("\x7b\"query\":\x7b\"bool\":\x7b\"must\":[" ++
      "\x7b\"more_like_this\":\x7b\x7d\x7d]\x7d\x7d\x7d").toUTF8
    "@timestamp" "2026-01-01T00:00:00Z" "2026-01-02T00:00:00Z" 10 (by decide) _ rfl
  revert hpermitted
  decide

end Rhythm.Elf
