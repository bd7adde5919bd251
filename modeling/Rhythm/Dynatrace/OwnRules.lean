import Mathlib.Data.List.Basic
import Rhythm.Dynatrace.Rules

/-!
# Rhythm.Dynatrace.OwnRules

Which rules a service's comparison depends on.  The results of a comparison are
those of the rules that apply to the service.  So is its decision, unless the
compared run has no data: then `CompareRuns` asks whether a selected rule of any
service is blocking, where `persistFailure` asks for a rule that applies.

`compareRuns_own_iff`: the comparison is a function of the rules that apply
exactly if the run has data or one of these rules is blocking.
-/

namespace Rhythm.Dynatrace

open Text

/-- The enabled rules that apply to a service, restricted to the selected ones. -/
def applicableRules (rules : List Rule) (ruleIDs : List String) (serviceID : String) : List Rule :=
  (selectedRules rules ruleIDs).filter fun rule =>
    rule.enabled ∧ (rule.serviceId = "" ∨ rule.serviceId = serviceID)

def Rule.Blocks (rule : Rule) : Prop := equalFold rule.gateMode "BLOCKING" = true

instance (rule : Rule) : Decidable rule.Blocks :=
  inferInstanceAs (Decidable (equalFold rule.gateMode "BLOCKING" = true))

def Run.NoData (run : Run) : Prop := run.status = "ERROR" ∨ run.status = "NO_DATA"

instance (run : Run) : Decidable run.NoData :=
  inferInstanceAs (Decidable (run.status = "ERROR" ∨ run.status = "NO_DATA"))

section Applicable

variable {rules : List Rule} {ruleIDs : List String} {serviceID : String} {rule : Rule}

theorem mem_selectedRules : rule ∈ selectedRules rules ruleIDs ↔
    rule ∈ rules ∧ (ruleIDs = [] ∨ rule.id ∈ ruleIDs.map trimSpace) := by
  simp [selectedRules]

theorem mem_applicableRules : rule ∈ applicableRules rules ruleIDs serviceID ↔
    rule ∈ selectedRules rules ruleIDs ∧ rule.enabled = true ∧
      (rule.serviceId = "" ∨ rule.serviceId = serviceID) := by
  simp [applicableRules]

theorem selectedRules_append (first second : List Rule) :
    selectedRules (first ++ second) ruleIDs =
      selectedRules first ruleIDs ++ selectedRules second ruleIDs :=
  List.filter_append ..

theorem applicableRules_append (first second : List Rule) :
    applicableRules (first ++ second) ruleIDs serviceID =
      applicableRules first ruleIDs serviceID ++ applicableRules second ruleIDs serviceID := by
  rw [applicableRules, selectedRules_append, List.filter_append]
  rfl

theorem selectedRules_applicableRules : selectedRules (applicableRules rules ruleIDs serviceID)
    ruleIDs = applicableRules rules ruleIDs serviceID := by
  rw [selectedRules, List.filter_eq_self]
  intro rule hrule
  have hselected := (mem_applicableRules.mp hrule).1
  simpa using (mem_selectedRules.mp hselected).2

theorem applicableRules_applicableRules :
    applicableRules (applicableRules rules ruleIDs serviceID) ruleIDs serviceID =
      applicableRules rules ruleIDs serviceID := by
  rw [applicableRules, selectedRules_applicableRules, List.filter_eq_self]
  intro rule hrule
  simpa using (mem_applicableRules.mp hrule).2

theorem evaluateRules_selectedRules {summary baseline : Summary} {coverage : Rat} :
    evaluateRules (selectedRules rules ruleIDs) serviceID summary coverage baseline =
      (applicableRules rules ruleIDs serviceID).map fun rule =>
        evaluateRule rule summary coverage baseline :=
  rfl

end Applicable

/-! ## Rules of other services -/

section Foreign

variable (ruleIDs : List String) (serviceID : String)

def foreignRule : Rule where
  id := (ruleIDs.map trimSpace).headD ""
  serviceId := serviceID ++ "'"
  name := "CPU"
  metric := "CPU"
  statistic := "AVERAGE"
  operator := "GT"
  threshold := 90
  comparison := "ABSOLUTE"
  gateMode := "BLOCKING"
  minimumCoveragePercent := none
  enabled := true

theorem foreignRule_serviceId : ¬ ((foreignRule ruleIDs serviceID).serviceId = "" ∨
    (foreignRule ruleIDs serviceID).serviceId = serviceID) := by
  have hlength : (serviceID ++ "'").length = serviceID.length + 1 := by
    rw [String.length_append]
    rfl
  rintro (hempty | hsame)
  · have hzero : (serviceID ++ "'").length = 0 := by
      rw [show serviceID ++ "'" = "" from hempty]
      rfl
    omega
  · have heq : (serviceID ++ "'").length = serviceID.length := by
      rw [show serviceID ++ "'" = serviceID from hsame]
    omega

theorem selectedRules_foreignRule : selectedRules [foreignRule ruleIDs serviceID] ruleIDs =
    [foreignRule ruleIDs serviceID] := by
  rw [selectedRules, List.filter_eq_self]
  intro rule hrule
  rw [List.mem_singleton] at hrule
  subst hrule
  cases ruleIDs with
  | nil => simp
  | cons ruleID rest => simp [foreignRule]

theorem applicableRules_foreignRule :
    applicableRules [foreignRule ruleIDs serviceID] ruleIDs serviceID = [] := by
  rw [List.eq_nil_iff_forall_not_mem]
  intro rule hrule
  obtain ⟨hselected, -, hservice⟩ := mem_applicableRules.mp hrule
  rw [selectedRules_foreignRule, List.mem_singleton] at hselected
  subst hselected
  exact foreignRule_serviceId ruleIDs serviceID hservice

end Foreign

/-! ## Comparisons -/

section Comparison

variable {config : Configuration} {serviceID : String} {baseline : Summary} {post : Run}
  {ruleIDs : List String} {rules : List Rule}

theorem compareRuns_eq_of_data (hdata : ¬ post.NoData) {first second : List Rule}
    (h : applicableRules first ruleIDs serviceID = applicableRules second ruleIDs serviceID) :
    compareRuns (.ok { config with rules := first }) serviceID baseline post ruleIDs =
      compareRuns (.ok { config with rules := second }) serviceID baseline post ruleIDs := by
  rw [compareRuns_of_data hdata, compareRuns_of_data hdata]
  simp only [evaluateRules_selectedRules, h]

theorem compareRuns_of_blocks (hnodata : post.NoData)
    (hblocks : ∃ rule ∈ applicableRules rules ruleIDs serviceID, rule.Blocks) :
    compareRuns (.ok { config with rules := rules }) serviceID baseline post ruleIDs =
      .ok ((applicableRules rules ruleIDs serviceID).map fun rule =>
        evaluateRule rule post.summary post.coveragePercent baseline, "BLOCK") := by
  obtain ⟨rule, hrule, hblocking⟩ := hblocks
  obtain ⟨hselected, henabled, -⟩ := mem_applicableRules.mp hrule
  have hany : ((selectedRules rules ruleIDs).any fun rule =>
      rule.enabled && equalFold rule.gateMode "BLOCKING") = true := by
    rw [List.any_eq_true]
    exact ⟨rule, hselected, Bool.and_eq_true_iff.mpr ⟨henabled, hblocking⟩⟩
  rw [compareRuns_of_noData hnodata]
  simp only [evaluateRules_selectedRules, hany, if_true]

theorem compareRuns_foreignRule (hnodata : post.NoData) :
    ∃ results, compareRuns
        (.ok { config with rules := applicableRules rules ruleIDs serviceID ++
          [foreignRule ruleIDs serviceID] }) serviceID baseline post ruleIDs =
      .ok (results, "BLOCK") := by
  rw [compareRuns_of_noData hnodata]
  have hany : ((selectedRules (applicableRules rules ruleIDs serviceID ++
      [foreignRule ruleIDs serviceID]) ruleIDs).any fun rule =>
        rule.enabled && equalFold rule.gateMode "BLOCKING") = true := by
    rw [selectedRules_append, selectedRules_foreignRule, List.any_append]
    have hforeign : ([foreignRule ruleIDs serviceID].any fun rule =>
        rule.enabled && equalFold rule.gateMode "BLOCKING") = true := by
      simp only [foreignRule, List.any_cons, List.any_nil, Bool.or_false, Bool.true_and]
      decide
    rw [hforeign, Bool.or_true]
  simp only [hany, if_true]
  exact ⟨_, rfl⟩

theorem compareRuns_of_not_blocks (hnodata : post.NoData)
    (hblocks : ¬ ∃ rule ∈ applicableRules rules ruleIDs serviceID, rule.Blocks) :
    ∃ results, compareRuns
        (.ok { config with rules := applicableRules rules ruleIDs serviceID }) serviceID baseline
          post ruleIDs = .ok (results, "ALLOW_WITH_WARNINGS") := by
  rw [compareRuns_of_noData hnodata]
  have hany : ((selectedRules (applicableRules rules ruleIDs serviceID) ruleIDs).any fun rule =>
      rule.enabled && equalFold rule.gateMode "BLOCKING") = false := by
    rw [selectedRules_applicableRules, List.any_eq_false]
    intro rule hrule htrue
    rw [Bool.and_eq_true] at htrue
    exact hblocks ⟨rule, hrule, htrue.2⟩
  simp only [hany, Bool.false_eq_true, if_false]
  exact ⟨_, rfl⟩

/-- **Own rules.**  Every two rule lists in which the same rules apply to the service compare
alike exactly if the run has data or one of these rules is blocking. -/
theorem compareRuns_own_iff (config : Configuration) (serviceID : String) (baseline : Summary)
    (post : Run) (ruleIDs : List String) (rules : List Rule) :
    (∀ first second : List Rule,
        applicableRules first ruleIDs serviceID = applicableRules rules ruleIDs serviceID →
        applicableRules second ruleIDs serviceID = applicableRules rules ruleIDs serviceID →
        compareRuns (.ok { config with rules := first }) serviceID baseline post ruleIDs =
          compareRuns (.ok { config with rules := second }) serviceID baseline post ruleIDs) ↔
      ¬ post.NoData ∨ ∃ rule ∈ applicableRules rules ruleIDs serviceID, rule.Blocks := by
  constructor
  · intro h
    by_contra hneither
    rw [not_or, not_not] at hneither
    obtain ⟨hnodata, hblocks⟩ := hneither
    have hagree : applicableRules (applicableRules rules ruleIDs serviceID ++
        [foreignRule ruleIDs serviceID]) ruleIDs serviceID =
          applicableRules rules ruleIDs serviceID := by
      rw [applicableRules_append, applicableRules_foreignRule, List.append_nil,
        applicableRules_applicableRules]
    obtain ⟨results, hblock⟩ : ∃ results, compareRuns
        (.ok { config with rules := applicableRules rules ruleIDs serviceID ++
          [foreignRule ruleIDs serviceID] }) serviceID baseline post ruleIDs =
        .ok (results, "BLOCK") := compareRuns_foreignRule hnodata
    obtain ⟨others, hwarning⟩ : ∃ results, compareRuns
        (.ok { config with rules := applicableRules rules ruleIDs serviceID }) serviceID baseline
          post ruleIDs = .ok (results, "ALLOW_WITH_WARNINGS") :=
      compareRuns_of_not_blocks hnodata hblocks
    have hsame := h _ _ hagree applicableRules_applicableRules
    rw [hblock, hwarning] at hsame
    simp at hsame
  · rintro (hdata | hblocks) first second hfirst hsecond
    · exact compareRuns_eq_of_data hdata (hfirst.trans hsecond.symm)
    · by_cases hnodata : post.NoData
      · rw [compareRuns_of_blocks hnodata (by rw [hfirst]; exact hblocks),
          compareRuns_of_blocks hnodata (by rw [hsecond]; exact hblocks), hfirst, hsecond]
      · exact compareRuns_eq_of_data hnodata (hfirst.trans hsecond.symm)

/-- A run that failed to query `checkout`, with and without a blocking rule of `billing`. -/
theorem compareRuns_other_service :
    applicableRules [] [] "checkout" =
        applicableRules [{ foreignRule [] "checkout" with serviceId := "billing" }] []
          "checkout" ∧
      compareRuns (.ok ⟨600, 900, 1, []⟩) "checkout" none { Run.zero with status := "ERROR" } [] ≠
        compareRuns (.ok ⟨600, 900, 1,
          [{ foreignRule [] "checkout" with serviceId := "billing" }]⟩) "checkout" none
            { Run.zero with status := "ERROR" } [] := by
  decide +kernel

end Comparison

end Rhythm.Dynatrace
