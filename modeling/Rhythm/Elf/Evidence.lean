import Rhythm.Elf.RawEvidence

/-!
# Rhythm.Elf.Evidence

Does a check pass on complete and exact evidence alone?  The decoder gives missing
fields their zero values, and neither `timed_out` nor the relation of the total is
looked at: a check passes on every body that decodes and whose count, zero when there
is none, meets the criterion as a `float64`.
-/

namespace Rhythm.Elf

open Text Numeric Unmarshal

/-! ## Complete evidence -/

def memberOf (key : String) : JsonText → Option JsonText
  | .obj members => members.reverse.lookup key
  | _ => none

def valueAt : List String → JsonText → Option JsonText
  | [], text => some text
  | key :: keys, text => (memberOf key text).bind (valueAt keys)

def Meets (criteria : List (String × Json)) (count : Rat) : Prop :=
  ∃ operator threshold, criteria.lookup "operator" = some (.str operator) ∧
    criteria.lookup "value" = some (.num threshold) ∧
      compareCount operator count threshold = true

/-- The body has an exact count that meets the criterion, of a search that was not cut short. -/
structure CompleteEvidence (criteria : List (String × Json)) (text : JsonText) : Prop where
  count : ∃ literal value, valueAt ["hits", "total", "value"] text = some (.num literal) ∧
    parseInt64 literal = some value ∧ Meets criteria value
  exact : valueAt ["hits", "total", "relation"] text = some (.str "eq")
  complete : valueAt ["timed_out"] text = some (.bool false)

/-- The body decodes, and its decoded count meets the criterion as a `float64`. -/
def CountsAsMet (lib : Library) (criteria : List (String × Json)) (body : ByteArray) : Prop :=
  ∃ response document, decodeBody lib body = some (response, document) ∧
    Meets criteria (float64 response.hits.total.value)

def Sends (lib : Library) (query : Query) (gte lte : String) (size : Int) : Prop :=
  (compileSearch lib.unmarshal query.searchBody query.timeField gte lte size).problems = [] ∧
    indexAllowed lib query.index query.allowedIndexPatterns = true

/-! ## Stored criteria -/

variable {lib : Library} {criteria authored : List (String × Json)}

theorem saveCriteria_eq_ok (h : saveCriteria lib authored = .ok criteria) :
    ∃ operator ∈ ["LT", "LTE", "EQ", "NE", "GTE", "GT"], ∃ threshold,
      criteria = [("operator", .str operator), ("value", .num threshold)] := by
  grind [saveCriteria, criterionUpper]

theorem toUpper_operator {operator : String}
    (h : operator ∈ ["LT", "LTE", "EQ", "NE", "GTE", "GT"]) :
    toUpper (trimSpace operator) = operator := by
  revert operator
  decide

theorem isFieldCriteria_of_saved (h : saveCriteria lib authored = .ok criteria) :
    isFieldCriteria lib criteria = false := by
  obtain ⟨operator, -, threshold, rfl⟩ := saveCriteria_eq_ok h
  show equalFold "FIELD" (trimSpace "<nil>") = false
  decide

theorem evaluateCriteria_of_saved {hits : Int} {aggs evidence : List (String × Json)}
    (h : saveCriteria lib authored = .ok criteria) :
    evaluateCriteria lib criteria hits aggs evidence = true ↔ Meets criteria (float64 hits) := by
  have hkind := isFieldCriteria_of_saved h
  obtain ⟨operator, hoperator, threshold, rfl⟩ := saveCriteria_eq_ok h
  have hcompare : evaluateCriteria lib [("operator", .str operator), ("value", .num threshold)]
      hits aggs evidence = compareCount operator (float64 hits) threshold := by
    have hstored : criterionUpper lib.formatFloat
        [("operator", .str operator), ("value", .num threshold)] "operator" = operator :=
      toUpper_operator hoperator
    rw [evaluateCriteria, if_neg (List.cons_ne_nil _ _), hkind, if_neg Bool.false_ne_true, hstored]
    rfl
  rw [hcompare]
  constructor
  · intro hmeets
    exact ⟨operator, threshold, rfl, rfl, hmeets⟩
  · rintro ⟨operator', threshold', hop, hvalue, hmeets⟩
    cases hop
    cases hvalue
    exact hmeets

theorem decision_eq_pass_iff {query : Query} {gte lte : String} {size : Int} {upstream : Upstream}
    {body : ByteArray} (hsaved : saveCriteria lib authored = .ok query.criteria)
    (hsends : Sends lib query gte lte size) (hsearch : search upstream = .ok body) :
    (run lib query gte lte size upstream true).decision = "PASS" ↔
      CountsAsMet lib query.criteria body := by
  obtain ⟨hproblems, hindex⟩ := hsends
  have hfailed : ∀ category reason, (saveFailure query category reason).decision ≠ "PASS" := by
    intro category reason
    exact of_decide_eq_false rfl
  cases hdecode : decodeBody lib body with
  | none =>
    grind [run, saveFailure, CountsAsMet]
  | some decoded =>
    obtain ⟨response, document⟩ := decoded
    have hrun : run lib query gte lte size upstream true =
        judge lib query true response document := by
      simp only [run, hproblems, hindex, not_true_eq_false, if_false,
        isFieldCriteria_of_saved hsaved, Bool.false_eq_true, hsearch, hdecode]
    have hdecision : (judge lib query true response document).decision = "PASS" ↔
        Meets query.criteria (float64 response.hits.total.value) := by
      simp only [judge, if_true, ite_eq_left_iff, String.reduceEq, imp_false, not_not]
      exact evaluateCriteria_of_saved hsaved
    rw [hrun, CountsAsMet, hdecode]
    rw [hdecision]
    constructor
    · intro hmeets
      exact ⟨response, document, rfl, hmeets⟩
    · rintro ⟨response', document', heq, hmeets⟩
      cases heq
      exact hmeets

/-- The criterion `operator threshold`. -/
def countCriteria (operator : String) (threshold : Rat) : List (String × Json) :=
  [("operator", .str operator), ("value", .num threshold)]

theorem saveCriteria_countCriteria {operator : String} {threshold : Rat}
    (hoperator : operator ∈ ["LT", "LTE", "EQ", "NE", "GTE", "GT"]) (hle : 0 ≤ threshold)
    (hwhole : threshold = truncate threshold) :
    saveCriteria lib (countCriteria operator threshold) =
      .ok (countCriteria operator threshold) := by
  have hstored : criterionUpper lib.formatFloat (countCriteria operator threshold) "operator" =
      operator := toUpper_operator hoperator
  have hne : operator ≠ "" := by
    rintro rfl
    exact absurd hoperator (by decide)
  have hvalue : number ((countCriteria operator threshold).lookup "value") = some threshold := rfl
  simp only [saveCriteria, hstored, if_neg hne, hoperator, not_true_eq_false, if_false, hvalue]
  rw [if_neg (not_or.mpr ⟨not_lt.mpr hle, not_not.mpr hwhole⟩)]
  rfl

def exactText : String :=
  "\x7b\"timed_out\":false,\"hits\":\x7b\"total\":\x7b\"value\":3,\"relation\":\"eq\"\x7d\x7d\x7d"

def exactTree : JsonText :=
  .obj [("timed_out", .bool false), ("hits", .obj [("total", .obj
    [("value", .num "3"), ("relation", .str "eq")])])]

end Rhythm.Elf
