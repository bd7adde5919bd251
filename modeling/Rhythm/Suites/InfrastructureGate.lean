import Rhythm.Suites.Infrastructure

/-!
# Rhythm.Suites.InfrastructureGate

Does the gate fail closed on the Dynatrace checks?  `Slot.ending` says, from the
answers of the services, how a comparison ends: it passes, it blocks, or it
warns.  `ending_of_dynatraceResults` shows that the loops of the validation end
each comparison so, and `infrastructureFailsClosed_iff` says when a
configuration that cannot be read, or a query that failed, always reaches the
decision.
-/

namespace Rhythm.Suites

open Text
open Dynatrace (Configuration Run Summary compareRuns)

/-! ## How a comparison ends -/

inductive Ending where
  | passes | blocks | warns
  deriving DecidableEq

def endingOf (required : Bool) (status decision : String) : Ending :=
  if status = "PASS" then .passes
  else if decision = "BLOCK" ∨
      required = true ∧ (status = "ERROR" ∨ status = "NO_DATA" ∨ status = "FAIL") then .blocks
  else .warns

def endingOfError (required : Bool) : Ending := if required then .blocks else .warns

/-- The ending of a comparison whose post-deployment window is queried. -/
def endingOfPost (required : Bool) (serviceID : String) (ruleIDs : List String)
    (baseline : Summary) (post : Run × Option String)
    (compared : Except String Configuration) : Ending :=
  match post.2 with
  | some _ => endingOf required post.1.status post.1.decision
  | none =>
    match compareRuns compared serviceID baseline post.1 ruleIDs with
    | .error _ => endingOfError required
    | .ok (_, decision) =>
      if decision = "BLOCK" then .blocks
      else if decision = "ALLOW_WITH_WARNINGS" then .warns
      else .passes

def baselineFailureCategory (run : Run) : String :=
  defaultString run.failureCategory "DYNATRACE_BASELINE_FAILED"

/-- **How a comparison ends**, from the answers of the services at its position. -/
def Slot.ending (config : DeploymentConfiguration) (baseline post : Run × Option String)
    (compared : Except String Configuration) (slot : Slot) : Ending :=
  match slot.configuration with
  | .error _ => .warns
  | .ok configuration =>
    let required := ruleRequired slot.check configuration
    if revisionChanged config slot.check configuration then endingOfError required
    else if baseline.2.isSome && skipsQueries (baselineFailureCategory baseline.1) then
      -- The category that the failed query gave itself stops the post-deployment query.
      endingOf required baseline.1.status "PENDING"
    else
      endingOfPost required slot.serviceId slot.check.ruleIds baseline.1.summary post compared

/-- The ending of the comparison at a position of a validation. -/
def DynatraceServices.ending (services : DynatraceServices) (config : DeploymentConfiguration)
    (position : Nat) (slot : Slot) : Ending :=
  slot.ending config (services.baselineQuery position) (services.postQuery position)
    (services.comparedConfiguration position)

/-- The configuration of a comparison cannot be read, or one of its queries fails. -/
def DynatraceServices.Fails (services : DynatraceServices) (config : DeploymentConfiguration)
    (position : Nat) (slot : Slot) : Prop :=
  match slot.configuration with
  | .error _ => True
  | .ok configuration =>
    revisionChanged config slot.check configuration = false ∧
      ((services.baselineQuery position).2 ≠ none ∨ (services.postQuery position).2 ≠ none)

variable (services : DynatraceServices) (config : DeploymentConfiguration) (suite : Suite)
  (others : Evidence)

/-- **Failing closed on infrastructure.**  A comparison of a check with selected rules whose
configuration cannot be read, or one of whose queries fails, is not `PASS`; the decision is
`BLOCK` when the check is `BLOCKING`, and not `ALLOW` when it is `ADVISORY`. -/
def InfrastructureFailsClosed : Prop :=
  ∀ position slot result, (dynatraceSlots services suite)[position]? = some slot →
    (dynatraceResults services config suite)[position]? = some result →
    slot.check.ruleIds ≠ [] → services.Fails config position slot →
      result.status ≠ "PASS" ∧
      (slot.check.gateMode = "BLOCKING" →
        infrastructureDecision services config suite others = .block) ∧
      (slot.check.gateMode = "ADVISORY" →
        infrastructureDecision services config suite others ≠ .allow)

def Evidence.withoutDynatrace (evidence : Evidence) : Evidence :=
  { evidence with dynatraceResults := [] }

/-- The condition of the law, on what the services answer. -/
def InfrastructureFailureBlocks : Prop :=
  ∀ position slot, (dynatraceSlots services suite)[position]? = some slot →
    slot.check.ruleIds ≠ [] → services.Fails config position slot →
      services.ending config position slot ≠ .passes ∧
      (slot.check.gateMode = "BLOCKING" →
        (∃ position' slot', (dynatraceSlots services suite)[position']? = some slot' ∧
          services.ending config position' slot' = .blocks) ∨
        others.withoutDynatrace.blocks = true)

/-! ## One comparison -/

def DynatraceComparison.ending (result : DynatraceComparison) : Ending :=
  endingOf result.required result.status result.decision

variable {services config suite others} {result : DynatraceComparison} {slot : Slot}

theorem ending_eq_passes_iff : result.ending = .passes ↔ result.status = "PASS" := by
  grind [DynatraceComparison.ending, endingOf]

theorem ending_eq_blocks_iff :
    result.ending = .blocks ↔ (decide (result.status ≠ "PASS") && result.blocks) = true := by
  grind [DynatraceComparison.ending, endingOf, DynatraceComparison.blocks]

@[simp] theorem endingOf_error (required : Bool) :
    endingOf required "ERROR" "ALLOW_WITH_WARNINGS" = endingOfError required := by
  cases required <;> decide

@[simp] theorem endingOf_statusOfDecision (required : Bool) (decision : String) :
    endingOf required (statusOfDecision decision) decision =
      if decision = "BLOCK" then .blocks
      else if decision = "ALLOW_WITH_WARNINGS" then .warns
      else .passes := by
  grind [statusOfDecision, endingOf]

variable {baseline post : Run × Option String} {compared : Except String Configuration}
  {comparison : DynatraceComparison}

theorem captureBaseline_of_skips (hskips : skipsQueries comparison.failureCategory = true) :
    captureBaseline baseline comparison = comparison := by
  rw [captureBaseline, if_pos hskips]

theorem comparePost_of_skips (hskips : skipsQueries comparison.failureCategory = true) :
    comparePost compared post comparison = comparison := by
  rw [comparePost, if_pos hskips]

theorem captureBaseline_frame (baseline : Run × Option String)
    (hqueried : skipsQueries comparison.failureCategory = false) :
    (captureBaseline baseline comparison).required = comparison.required ∧
      (captureBaseline baseline comparison).serviceId = comparison.serviceId ∧
      (captureBaseline baseline comparison).ruleIds = comparison.ruleIds ∧
      (captureBaseline baseline comparison).decision = comparison.decision ∧
      (captureBaseline baseline comparison).baselineSummary = baseline.1.summary := by
  grind [captureBaseline, Bool.false_eq_true]

theorem captureBaseline_failed (run : Run) (message : String)
    (hqueried : skipsQueries comparison.failureCategory = false) :
    (captureBaseline (run, some message) comparison).status = run.status ∧
      (captureBaseline (run, some message) comparison).failureCategory =
        baselineFailureCategory run := by
  simp [captureBaseline, hqueried, baselineFailureCategory]

theorem captureBaseline_succeeded (run : Run)
    (hqueried : skipsQueries comparison.failureCategory = false) :
    (captureBaseline (run, none) comparison).failureCategory = comparison.failureCategory := by
  simp only [captureBaseline, hqueried, Bool.false_eq_true, if_false]

theorem ending_comparePost (hqueried : skipsQueries comparison.failureCategory = false) :
    (comparePost compared post comparison).ending =
      endingOfPost comparison.required comparison.serviceId comparison.ruleIds
        comparison.baselineSummary post compared := by
  obtain ⟨run, queryErr⟩ := post
  simp only [comparePost, hqueried, Bool.false_eq_true, if_false, endingOfPost]
  cases queryErr with
  | some message => rfl
  | none =>
    simp only
    cases compareRuns compared comparison.serviceId comparison.baselineSummary run
        comparison.ruleIds with
    | error message => simp [DynatraceComparison.ending]
    | ok verdict => simp [DynatraceComparison.ending]

/-- How a comparison ends that is queried: the failed baseline stops it, or the post-deployment
query decides. -/
theorem ending_queried (hqueried : skipsQueries comparison.failureCategory = false) :
    (comparePost compared post (captureBaseline baseline comparison)).ending =
      if baseline.2.isSome && skipsQueries (baselineFailureCategory baseline.1) then
        endingOf comparison.required baseline.1.status comparison.decision
      else
        endingOfPost comparison.required comparison.serviceId comparison.ruleIds
          baseline.1.summary post compared := by
  obtain ⟨hrequired, hservice, hrules, hdecision, hsummary⟩ :=
    captureBaseline_frame baseline hqueried
  obtain ⟨run, queryErr⟩ := baseline
  cases queryErr with
  | none =>
    have hcategory := captureBaseline_succeeded run hqueried
    rw [ending_comparePost (by rw [hcategory]; exact hqueried), hrequired, hservice, hrules,
      hsummary]
    simp
  | some message =>
    obtain ⟨hstatus, hcategory⟩ := captureBaseline_failed run message hqueried
    cases hskips : skipsQueries (baselineFailureCategory run) with
    | true =>
      rw [comparePost_of_skips (by rw [hcategory]; exact hskips), DynatraceComparison.ending,
        hrequired, hstatus, hdecision]
      simp
    | false =>
      rw [ending_comparePost (by rw [hcategory]; exact hskips), hrequired, hservice, hrules,
        hsummary]
      simp

theorem ending_comparison (slot : Slot) :
    (comparePost compared post
      (captureBaseline baseline (slot.comparison config))).ending =
      slot.ending config baseline post compared := by
  obtain ⟨check, configuration, serviceID⟩ := slot
  cases configuration with
  | error message =>
    have hskips : skipsQueries (unavailableComparison check message).failureCategory = true := by
      simp [unavailableComparison, skipsQueries]
    simp only [Slot.comparison, Slot.ending]
    rw [captureBaseline_of_skips hskips, comparePost_of_skips hskips]
    simp [DynatraceComparison.ending, unavailableComparison, endingOfError]
  | ok configuration =>
    cases hrevision : revisionChanged config check configuration with
    | false =>
      have hqueried : skipsQueries
          (pendingComparison check configuration serviceID).failureCategory = false := by
        simp [pendingComparison, skipsQueries]
      simp only [Slot.comparison, Slot.ending, hrevision, Bool.false_eq_true, if_false]
      exact ending_queried hqueried
    | true =>
      simp only [Slot.comparison, Slot.ending, hrevision, if_true]
      rw [captureBaseline_of_skips (by simp [skipsQueries]),
        comparePost_of_skips (by simp [skipsQueries])]
      simp [DynatraceComparison.ending, pendingComparison]

/-! ## All comparisons -/

theorem getElem?_dynatraceResults (services : DynatraceServices)
    (config : DeploymentConfiguration) (suite : Suite) (position : Nat) :
    (dynatraceResults services config suite)[position]? =
      (dynatraceSlots services suite)[position]?.map fun slot =>
        comparePost (services.comparedConfiguration position) (services.postQuery position)
          (captureBaseline (services.baselineQuery position) (slot.comparison config)) := by
  simp [dynatraceResults, List.getElem?_mapIdx, Function.comp_def]

variable {position : Nat}

/-- **The result at a position ends as the answers at that position say.** -/
theorem ending_of_dynatraceResults (hslot : (dynatraceSlots services suite)[position]? = some slot)
    (hresult : (dynatraceResults services config suite)[position]? = some result) :
    result.ending = services.ending config position slot := by
  rw [getElem?_dynatraceResults, hslot, Option.map_some, Option.some.injEq] at hresult
  rw [← hresult, ending_comparison, DynatraceServices.ending]

theorem exists_result (config : DeploymentConfiguration)
    (hslot : (dynatraceSlots services suite)[position]? = some slot) :
    ∃ result, (dynatraceResults services config suite)[position]? = some result := by
  rw [getElem?_dynatraceResults, hslot]
  exact ⟨_, rfl⟩

theorem blocks_with_dynatraceResults (evidence : Evidence)
    (results : List DynatraceComparison) :
    ({ evidence with dynatraceResults := results } : Evidence).blocks =
      ((results.any fun result => decide (result.status ≠ "PASS") && result.blocks) ||
        evidence.withoutDynatrace.blocks) := by
  grind [Evidence.blocks, Evidence.withoutDynatrace]

theorem any_blocks_iff :
    ((dynatraceResults services config suite).any fun result =>
        decide (result.status ≠ "PASS") && result.blocks) = true ↔
      ∃ position slot, (dynatraceSlots services suite)[position]? = some slot ∧
        services.ending config position slot = .blocks := by
  simp only [List.any_eq_true, List.mem_iff_getElem?, ← ending_eq_blocks_iff]
  constructor
  · rintro ⟨result, ⟨position, hresult⟩, hblocks⟩
    obtain ⟨slot, hslot⟩ : ∃ slot, (dynatraceSlots services suite)[position]? = some slot := by
      rw [getElem?_dynatraceResults, Option.map_eq_some_iff] at hresult
      obtain ⟨slot, hslot, -⟩ := hresult
      exact ⟨slot, hslot⟩
    exact ⟨position, slot, hslot, ending_of_dynatraceResults hslot hresult ▸ hblocks⟩
  · rintro ⟨position, slot, hslot, hblocks⟩
    obtain ⟨result, hresult⟩ := exists_result config hslot
    exact ⟨result, ⟨position, hresult⟩, ending_of_dynatraceResults hslot hresult ▸ hblocks⟩

/-- **When the decision is `BLOCK`**: some comparison, or other evidence, blocks. -/
theorem infrastructureDecision_eq_block_iff :
    infrastructureDecision services config suite others = .block ↔
      (∃ position slot, (dynatraceSlots services suite)[position]? = some slot ∧
        services.ending config position slot = .blocks) ∨
      others.withoutDynatrace.blocks = true := by
  rw [infrastructureDecision, decision_eq_block_iff, blocks_with_dynatraceResults,
    Bool.or_eq_true, any_blocks_iff]

theorem infrastructureDecision_ne_allow
    (hresult : (dynatraceResults services config suite)[position]? = some result)
    (hpass : result.status ≠ "PASS") :
    infrastructureDecision services config suite others ≠ .allow := by
  rw [infrastructureDecision, ne_eq, decision_eq_allow_iff, Bool.not_eq_false]
  have hany : ((dynatraceResults services config suite).any fun result =>
      decide (result.status ≠ "PASS")) = true :=
    List.any_eq_true.2 ⟨result, List.mem_of_getElem? hresult, by simp [hpass]⟩
  simp only [Evidence.flagged, hany, Bool.or_true, Bool.true_or]

/-- **The gate and the Dynatrace checks.**  For every suite, every answer of the configuration
service, of both queries and of the comparison, and any other evidence: the gate
fails closed on failed calls exactly when each of them leaves its comparison not passed
and, for a `BLOCKING` check, some comparison or other evidence blocks. -/
theorem infrastructureFailsClosed_iff (services : DynatraceServices)
    (config : DeploymentConfiguration) (suite : Suite) (others : Evidence) :
    InfrastructureFailsClosed services config suite others ↔
      InfrastructureFailureBlocks services config suite others := by
  unfold InfrastructureFailsClosed InfrastructureFailureBlocks
  simp only [infrastructureDecision_eq_block_iff]
  constructor
  · intro h position slot hslot hrules hfails
    obtain ⟨result, hresult⟩ := exists_result config hslot
    obtain ⟨hpass, hblock, -⟩ := h position slot result hslot hresult hrules hfails
    rw [← ending_of_dynatraceResults hslot hresult, ne_eq, ending_eq_passes_iff]
    exact ⟨hpass, hblock⟩
  · intro h position slot result hslot hresult hrules hfails
    obtain ⟨hpasses, hblock⟩ := h position slot hslot hrules hfails
    rw [← ending_of_dynatraceResults hslot hresult, ne_eq, ending_eq_passes_iff] at hpasses
    exact ⟨hpasses, hblock, fun _ => infrastructureDecision_ne_allow hresult hpasses⟩

def unreadableServices : DynatraceServices where
  configuration _ := .error "credentials are unavailable"
  baselineQuery _ := (.zero, none)
  postQuery _ := (.zero, none)
  comparedConfiguration _ := .error "credentials are unavailable"

/-- The configuration of a blocking check with a selected rule cannot be read, and the deployment
is allowed with warnings. -/
theorem unreadable_configuration_allowed :
    ¬ ∀ (services : DynatraceServices) (config : DeploymentConfiguration) (suite : Suite)
      (others : Evidence), InfrastructureFailsClosed services config suite others := by
  intro h
  have hlaw := h unreadableServices ⟨5, 5, 25, 100, fun _ => none, []⟩
    ⟨[⟨"s1", "checkout", [⟨"c1", .dynatraceInfrastructure, 0, "hosts", true, "app", "prod", [],
      ["r1"], "BLOCKING"⟩]⟩]⟩
    ⟨[], [], [], [], []⟩ 0 _ _ rfl rfl (by decide) trivial
  exact absurd (hlaw.2.1 rfl) (by decide)

end Rhythm.Suites
